import Passbook.Proofs.Database.Origins
import Passbook.Proofs.Database.Views
import Passbook.Proofs.System.Pool
import Passbook.Proofs.Undisturbed.Serving
import Passbook.Proofs.UnitOfWork.Bodies
import Passbook.Scenario

/-! # Operations keep to the connection of their caller

An operation that is given a connection does all that it does on it (`System.KeepsTo`): the task that does
it has no part in the pool, and each of its moves is to ask for rows on the connection, or to wait for
them (`System.Consults`). As long as a transaction is open there (`Database.Inside`), nothing of it
becomes public, and what is read, locked and written is read, locked and written by the transaction
(`operation_threaded`). -/

namespace Passbook

namespace Database

variable {Allowed : Twist → Prop} {db db' : Database} {connection : Nat} {statement : Statement}
  {ran : Bool} {answer : statement.Answer}

/-- A transaction is open on the connection, or it was until the connection was lost. -/
def Inside (db : Database) (connection : Nat) : Prop :=
  (∃ transaction, db.transaction? connection = some transaction) ∨
    (db.session connection).alive = false

namespace Inside

theorem congr (h : db.Inside connection)
    (ht : db'.transaction? connection = db.transaction? connection)
    (halive : (db'.session connection).alive = (db.session connection).alive) :
    db'.Inside connection := by
  unfold Inside
  rwa [ht, halive]

theorem of_untouched (h : db.Inside connection) (hu : Untouched connection db db') :
    db'.Inside connection :=
  h.congr hu.transaction? hu.alive

theorem silent (h : db.Inside connection) (hq : statement.isQuery = true) :
    db.Silent connection statement := by
  rcases h with ⟨transaction, ht⟩ | hdead
  · exact silent_of_transaction ht (Statement.ne_commit_of_isQuery hq)
  · exact .inl hdead

theorem tells (h : db.Inside connection) (hq : statement.isQuery = true)
    (htells : db.Tells Allowed connection statement db' ran answer) : db'.Inside connection := by
  rcases h with ⟨transaction, ht⟩ | hdead
  · rcases htells.query hq ht with ⟨transaction', hsession, -⟩ | ⟨hdead, -⟩
    · exact .inl ⟨transaction', by rw [transaction?, hsession]⟩
    · exact .inr hdead
  · rw [(htells.of_dead hdead).1]
    exact .inr hdead

end Inside

/-- The rows are what the transaction on the connection sees, and from then on what the statement writes
and locks is the transaction's. -/
def Performs (db : Database) (connection : Nat) (statement : Statement) (rows : List statement.Row)
    (after : Database) : Prop :=
  ∃ transaction effect transaction',
    db.transaction? connection = some transaction ∧
    statement.effect (db.surroundings connection) (db.view connection) = .ok effect ∧
    rows = effect.rows ∧
    after.transaction? connection = some transaction' ∧ transaction'.began = transaction.began ∧
    transaction'.changes = transaction.changes.overlay effect.changes ∧
    ∀ account, after.Holds connection account ↔
      db.Holds connection account ∨ statement.lockedAccount? db.books = some account

end Database

namespace System

/-- What remains to be done of the task is to ask for rows on the one connection that it has. -/
structure KeepsTo (connection : Nat) (task : Task) : Prop where
  deadline : task.deadline = none
  connections : task.connections = [connection]
  obeys : task.stage.work.Obeys (fun statement => statement.isQuery = true) fun _ => True

variable {Allowed : Twist → Prop} {system after : System} {event : Event} {connection index : Nat}
  {task : Task} {past : Past} {work : Work Reply}

/-- By the event a task comes to wait for rows on the connection, or is told of them. -/
inductive Consults (Allowed : Twist → Prop) (connection : Nat) (system : System) (event : Event)
    (after : System) : Prop
  | waits {statement : Statement} : system.told? event = none →
      system.db.Waits connection statement after.db → Consults Allowed connection system event after
  | told {db : Database} {serial : Nat} (told : Told) : system.told? event = some told →
      told.connection = connection → told.statement.isQuery = true →
      system.db.Tells Allowed connection told.statement db told.ran told.answer →
      after.db = { db with serial } → Consults Allowed connection system event after

namespace Consults

theorem untouched {other : Nat} (h : Consults Allowed connection system event after)
    (hne : other ≠ connection) : Database.Untouched other system.db after.db := by
  cases h with
  | waits _ hwaits => exact hwaits.untouched hne
  | told told _ _ _ htells hdb =>
    rw [hdb]
    exact (htells.untouched hne).trans (.of_eq rfl rfl rfl)

theorem books (h : Consults Allowed connection system event after)
    (hinside : system.db.Inside connection) : after.db.books = system.db.books := by
  cases h with
  | waits _ hwaits => exact hwaits.books
  | told told _ _ hq htells hdb =>
    rw [hdb, htells.books, (hinside.silent hq).not_published htells]
    rfl

theorem inside (h : Consults Allowed connection system event after)
    (hinside : system.db.Inside connection) : after.db.Inside connection := by
  cases h with
  | waits _ hwaits => exact hinside.congr (hwaits.transaction? connection) (hwaits.alive connection)
  | told told _ _ hq htells hdb =>
    rw [hdb]
    exact (hinside.tells hq htells).of_untouched (.of_eq rfl rfl rfl)

theorem asks {told : Told} (h : Consults Allowed connection system event after)
    (htold : system.told? event = some told) :
    told.connection = connection ∧ told.statement.isQuery = true := by
  cases h with
  | waits hnone => cases hnone.symm.trans htold
  | told told' htold' hc hq =>
    cases htold'.symm.trans htold
    exact ⟨hc, hq⟩

theorem performs {told : Told} {rows : List told.statement.Row}
    (h : Consults (fun twist => twist.isHonest = true) connection system event after)
    (hinside : system.db.Inside connection) (htold : system.told? event = some told)
    (hrows : told.answer = .ok rows) :
    system.db.Performs connection told.statement rows after.db := by
  cases h with
  | waits hnone => cases hnone.symm.trans htold
  | told told' htold' hc hq htells hdb =>
    cases htold'.symm.trans htold
    rw [hrows] at htells
    rcases hinside with ⟨transaction, ht⟩ | hdead
    · obtain ⟨-, effect, transaction', he, heffect, ht', hbegan, -, hchanges, -, hholds⟩ :=
        htells.performed hq ht
      rw [hdb]
      exact ⟨transaction, effect, transaction', ht, he, heffect, ht', hbegan, hchanges, hholds⟩
    · cases (htells.of_dead hdead).2.2

end Consults

/-- The pool has no part in the event, and nothing happens by it on other connections. -/
structure Inward (connection : Nat) (system : System) (event : Event) (after : System) : Prop where
  pool : event.isPools = false
  others : ∀ other, other ≠ connection → Database.Untouched other system.db after.db
  asks : ∀ told, system.told? event = some told →
    told.connection = connection ∧ told.statement.isQuery = true

/-- Work that asks for rows only is carried on without a change of the system but of its serial
numbers. -/
theorem keepsTo_proceed (hwork : work.Obeys (fun statement => statement.isQuery = true) fun _ => True)
    (hdeadline : task.deadline = none) (hconnections : task.connections = [connection])
    (system : System) :
    KeepsTo connection (system.proceed task work).2 ∧
      ∃ serial, (system.proceed task work).1 = { system with db.serial := serial } := by
  induction hwork generalizing system task with
  | done => exact ⟨⟨hdeadline, hconnections, .done trivial⟩, system.db.serial, rfl⟩
  | exec hq hnext => exact ⟨⟨hdeadline, hconnections, .exec hq hnext⟩, system.db.serial, rfl⟩
  | draw _ ih =>
    exact ih _ hdeadline hconnections
      { system with db.serial := system.db.serial + 1 }
  | report _ ih =>
    refine ih ?_ ?_ system
    · exact hdeadline
    · exact hconnections

namespace KeepsTo

theorem isExec (h : KeepsTo connection task) (hf : task.stage.isFinished = false) :
    ∃ statement next, task.stage.work = .exec statement next := by
  have hobeys := h.obeys
  cases hstage : task.stage with
  | queued => rw [hstage] at hobeys; cases hobeys
  | ready statement next => exact ⟨statement, next, rfl⟩
  | sent statement next => exact ⟨statement, next, rfl⟩
  | finished => rw [hstage] at hf; cases hf

/-- What the next move of the task comes to. -/
theorem moves {move : Move} (h : KeepsTo connection task) (hT : system.Twists Allowed)
    (hu : system.Underway) (ht : system.tasks[move.index]? = some task)
    (hs : system.step (.move move) = some after) :
    (Event.move move).isPools = false ∧ Consults Allowed connection system (.move move) after ∧
      ∃ task', after.tasks[move.index]? = some task' ∧ KeepsTo connection task' := by
  have hunfinished : task.stage.isFinished = false := by
    by_contra hf
    exact not_mover_of_finished hs ht (by simpa using hf) rfl
  obtain ⟨statement, next, hw⟩ := h.isExec hunfinished
  have hobeys := h.obeys
  rw [hw] at hobeys
  cases hobeys with | exec hq hnext
  have hlt := (List.getElem?_eq_some_iff.mp ht).1
  have hc : task.connections.head? = some connection := by rw [h.connections]; rfl
  refine ⟨isPools_of_exec hs ht hw, ?_⟩
  rcases step_of_exec hT hu ht hc hw hs with hheard | ⟨deadline, hd, -⟩
  · cases hheard with
    | held twist hold htold _ _ _ hdb =>
      refine ⟨.waits htold hdb, _, List.getElem?_set_self hlt, h.deadline, h.connections, ?_⟩
      exact .exec hq hnext
    | @told db faults ran answer htold _ htells =>
      obtain ⟨hkeeps, serial, hserial⟩ :=
        keepsTo_proceed (hnext answer) h.deadline h.connections { system with db, faults }
      refine ⟨@Consults.told _ _ _ _ _ db serial _ htold rfl hq htells ?_, _,
        getElem?_carryOn_self ?_ task _, hkeeps⟩
      · exact congrArg System.db hserial
      · exact hlt
  · rw [h.deadline] at hd
    cases hd

theorem of_stays {task' : Task} (h : KeepsTo connection task) (hstays : Stays task task') :
    KeepsTo connection task' :=
  ⟨hstays.deadline.trans h.deadline, hstays.connections.trans h.connections, hstays.work ▸ h.obeys⟩

end KeepsTo

/-- The task keeps to the connection, and there it is still in the transaction in which it has begun if
there was one. -/
def Threads (opened : Prop) (index connection : Nat) (system : System) : Prop :=
  ∃ task, system.tasks[index]? = some task ∧ KeepsTo connection task ∧
    (opened → task.stage.isFinished = false → system.db.Inside connection)

namespace Threads

variable {opened : Prop}

theorem moved (h : system.Threads opened index connection) (hT : system.Twists Allowed)
    (hu : system.Underway) (hs : system.step event = some after) (hm : event.mover? = some index) :
    event.isPools = false ∧ (opened → system.db.Inside connection) ∧
      Consults Allowed connection system event after ∧ after.Threads opened index connection := by
  obtain ⟨task, ht, hkeeps, hinside⟩ := h
  obtain ⟨move, rfl, rfl⟩ := mover?_eq_some hm
  have hbefore : opened → system.db.Inside connection := fun hopened => hinside hopened <| by
    by_contra hf
    exact not_mover_of_finished hs ht (by simpa using hf) rfl
  obtain ⟨hpools, hconsults, task', ht', hkeeps'⟩ := hkeeps.moves hT hu ht hs
  exact ⟨hpools, hbefore, hconsults, task', ht', hkeeps',
    fun hopened _ => hconsults.inside (hbefore hopened)⟩

theorem inward (h : system.Threads opened index connection) (hu : system.Underway)
    (hs : system.step event = some after) (hm : event.mover? = some index) :
    Inward connection system event after := by
  obtain ⟨hpools, -, hconsults, -⟩ := h.moved (.any system) hu hs hm
  exact ⟨hpools, fun other hne => hconsults.untouched hne, fun told htold => hconsults.asks htold⟩

theorem books (h : system.Threads opened index connection) (hopened : opened)
    (hu : system.Underway) (hs : system.step event = some after) (hm : event.mover? = some index) :
    after.db.books = system.db.books := by
  obtain ⟨-, hinside, hconsults, -⟩ := h.moved (.any system) hu hs hm
  exact hconsults.books (hinside hopened)

theorem performs {told : Told} {rows : List told.statement.Row}
    (h : system.Threads opened index connection) (hopened : opened)
    (hT : system.Twists fun twist => twist.isHonest = true) (hu : system.Underway)
    (hs : system.step event = some after) (hm : event.mover? = some index)
    (htold : system.told? event = some told) (hrows : told.answer = .ok rows) :
    system.db.Performs connection told.statement rows after.db := by
  obtain ⟨-, hinside, hconsults, -⟩ := h.moved hT hu hs hm
  exact hconsults.performs (hinside hopened) htold hrows

theorem step (h : system.Threads opened index connection) (ho : Orderly [] [] system)
    (hu : system.Underway) (hs : system.step event = some after) :
    after.Threads opened index connection := by
  by_cases hm : event.mover? = some index
  · exact (h.moved (.any system) hu hs hm).2.2.2
  · obtain ⟨task, ht, hkeeps, hinside⟩ := h
    obtain ⟨task', ht', hstays⟩ := stays_of_step hs ht hm
    refine ⟨task', ht', hkeeps.of_stays hstays, fun hopened hf => ?_⟩
    rw [hstays.isFinished] at hf
    have hclaims : connection ∈ task.claims := by
      rw [Task.claims_eq hf, hkeeps.connections]
      exact List.mem_cons_self
    exact (hinside hopened hf).of_untouched (spares_of_claims ho hs ht hclaims hm).untouched

theorem run (h : system.Threads opened index connection) (ho : Orderly [] [] system)
    (hu : system.Underway) (hrun : Run system past after) :
    after.Threads opened index connection := by
  induction hrun with
  | refl => exact h
  | step hrun hs ih => exact ih.step (hrun.orderly ho) (hrun.underway ho hu) hs

end Threads

/-- Work about rows that is spawned on a connection. -/
theorem threads_spawn
    (hwork : work.Obeys (fun statement => statement.isQuery = true) fun _ => True)
    (hs : system.step (.spawn [connection] none work) = some after) :
    after.Threads (∃ transaction, system.db.transaction? connection = some transaction)
      system.tasks.length connection := by
  obtain ⟨hkeeps, serial, hserial⟩ :=
    @keepsTo_proceed connection (.fresh [connection] none) work hwork rfl rfl system
  obtain ⟨-, -, rfl⟩ := spawned_of_step hs
  refine ⟨_, ?_, hkeeps, fun hopened _ => .inl ?_⟩
  · have htasks : (system.proceed (.fresh [connection] none) work).1.tasks = system.tasks := by
      rw [hserial]
    simp only [spawn]
    rw [← Task.fresh, htasks]
    exact List.getElem?_concat_length
  · change ∃ transaction,
      (system.proceed (.fresh [connection] none) work).1.db.transaction? connection = some transaction
    rw [hserial]
    exact hopened

/-- An operation that is given a connection has no part in the pool, so that it comes to the same with
any pool, be it exhausted or closed, and all that it does it does on this connection. If a transaction is
open there then nothing of it becomes public, and what it reads, locks and writes is read, locked and
written by the transaction. -/
theorem operation_threaded {runner : Runner} {operation : Operation} {opened : List Int} {db : Database}
    {capacity : Nat} {earlier later : Past} {before spawned after : System} (hrest : db.AtRest)
    (hrun : Run (.start db capacity) earlier before)
    (hs : before.step (.spawn [connection] none (operation.work runner .callers opened)) =
      some spawned)
    (hlater : Run spawned later after) :
    (operation.work runner .callers opened).Obeys (fun statement => statement.isQuery = true)
      (fun _ => True) ∧
    (∃ task, after.tasks[before.tasks.length]? = some task ∧ KeepsTo connection task) ∧
    (∀ moment event next, (moment, event) ∈ later → event.mover? = some before.tasks.length →
      moment.step event = some next → Inward connection moment event next) ∧
    (∀ capacity' closed,
      (∀ moment event, (moment, event) ∈ later → event.mover? ≠ some before.tasks.length →
        event.isPools = false) →
      ∃ past closed',
        Run (before.withPool capacity' closed) past (after.withPool capacity' closed') ∧
        past.map (·.2) =
          .spawn [connection] none (operation.work runner .callers opened) :: later.map (·.2) ∧
        past.answers = later.answers) ∧
    ∀ transaction, before.db.transaction? connection = some transaction →
      ∀ moment event next, (moment, event) ∈ later → event.mover? = some before.tasks.length →
        moment.step event = some next →
        next.db.books = moment.db.books ∧
        ((∀ moment armed, (moment, Event.arm armed) ∈ earlier ++ later →
            armed.fault.twist.isHonest = true) →
          ∀ told rows, moment.told? event = some told → told.answer = .ok rows →
            moment.db.Performs connection told.statement rows next.db) := by
  have hwork : (operation.work runner .callers opened).Obeys
      (fun statement => statement.isQuery = true) (fun _ => True) :=
    (operation.obeys_work runner opened).mono (fun _ => id) fun _ _ => trivial
  have hspawned := hrun.step hs
  have hstart := orderly_start hrest capacity
  have ho := hspawned.orderly hstart
  have hu := hspawned.underway hstart (underway_start db capacity)
  have hthreads := threads_spawn hwork hs
  -- whatever happens later, the task keeps to its connection until then
  have hmoment : ∀ moment event, (moment, event) ∈ later →
      moment.Threads (∃ transaction, before.db.transaction? connection = some transaction)
        before.tasks.length connection ∧ moment.Underway := by
    intro moment event hmem
    obtain ⟨past, _, _, -, hpast, -, -⟩ := hlater.of_mem hmem
    exact ⟨hthreads.run ho hu hpast, hpast.underway ho hu⟩
  refine ⟨hwork, ?_, ?_, ?_, ?_⟩
  · obtain ⟨task, ht, hkeeps, -⟩ := hthreads.run ho hu hlater
    exact ⟨task, ht, hkeeps⟩
  · intro moment event next hmem hm hnext
    obtain ⟨hmoment, hunder⟩ := hmoment moment event hmem
    exact hmoment.inward hunder hnext hm
  · intro capacity' closed hothers
    refine (hlater.cons hs).withPool (fun moment event hmem => ?_) capacity' closed
    rcases List.mem_cons.mp hmem with hmem | hmem
    · cases hmem
      rfl
    · by_cases hm : event.mover? = some before.tasks.length
      · obtain ⟨_, next, _, -, -, hnext, -⟩ := hlater.of_mem hmem
        obtain ⟨hmoment, hunder⟩ := hmoment moment event hmem
        exact (hmoment.inward hunder hnext hm).pool
      · exact hothers moment event hmem hm
  · intro transaction hopen moment event next hmem hm hnext
    obtain ⟨hmoment, hunder⟩ := hmoment moment event hmem
    refine ⟨hmoment.books ⟨transaction, hopen⟩ hunder hnext hm, fun harm told rows htold hrows => ?_⟩
    obtain ⟨past, _, rest, hpast, hbefore, -, -⟩ := hlater.of_mem hmem
    have hT : moment.Twists fun twist => twist.isHonest = true := by
      refine (hspawned.append hbefore).twists
        (twists_start (fun twist => twist.isHonest = true) rfl db capacity) fun moment armed harmed => ?_
      refine harm moment armed ?_
      rw [hpast]
      simp only [List.mem_append, List.mem_singleton] at harmed ⊢
      rcases harmed with (harmed | harmed) | harmed
      · exact .inl harmed
      · cases harmed
      · exact .inr (.inl (.inl harmed))
    exact hmoment.performs ⟨transaction, hopen⟩ hT hunder hnext hm htold hrows

/-- A transaction is opened on the one connection of the pool. -/
def soleEvents : List Event :=
  [.spawn [] none (Scenario.opening none), .move (.connect 0), .move (.send 0)]

/-- A transfer in it. -/
def soleTransfer : Work Reply :=
  (Operation.transfer .nil (.number 1000000001) (.number 1000000002) 20).work .default .callers []

/-- The transfer is done although the pool has no other connection, and it would be if it were closed. -/
theorem operation_threaded_sole : ∃ earlier before spawned later after past closed,
    Run (.start pairLedger 1) earlier before ∧
    before.step (.spawn [0] none soleTransfer) = some spawned ∧ Run spawned later after ∧
    (after.reply? 1).isSome = true ∧
    (after.db.view 0).accounts.map (fun row => (row.id, row.balance)) =
      [(1000000001, 30), (1000000002, 30)] ∧
    after.db.books = pairLedger.books ∧
    Run (before.withPool 0 true) past (after.withPool 0 closed) := by
  have hopened : (start pairLedger 1).traces soleEvents (fun _ before =>
      (before.step (.spawn [0] none soleTransfer)).any fun spawned =>
        spawned.traces (List.replicate 6 (.move (.send 1))) fun _ after =>
          (after.reply? 1).isSome = true ∧
          (after.db.view 0).accounts.map (fun row => (row.id, row.balance)) =
            [(1000000001, 30), (1000000002, 30)] ∧
          after.db.books = pairLedger.books) = true := rfl
  obtain ⟨earlier, before, htrace, hspawned⟩ := exists_of_traces hopened
  obtain ⟨spawned, hs, hdone⟩ := (Option.any_eq_true ..).mp hspawned
  obtain ⟨later, after, hlater, hdone⟩ := exists_of_traces hdone
  obtain ⟨hreply, hview, hbooks⟩ := of_decide_eq_true hdone
  have hrun := run_of_trace? htrace
  obtain ⟨-, -, -, hpool, -⟩ := @operation_threaded 0 .default
    (.transfer .nil (.number 1000000001) (.number 1000000002) 20) [] pairLedger 1 earlier later before
    spawned after ⟨rfl, rfl⟩ hrun hs (run_of_trace? hlater)
  obtain ⟨past, closed, hother, -⟩ := hpool 0 true fun moment event hmem _ =>
    forall_of_trace? (P := fun event => event.isPools = false) hlater
      (fun event hevent => by rw [List.eq_of_mem_replicate hevent]; rfl) moment event hmem
  exact ⟨earlier, before, spawned, later, after, past, closed, hrun, hs, run_of_trace? hlater, hreply,
    hview, hbooks, hother⟩

end System

end Passbook
