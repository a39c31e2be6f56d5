import Passbook.Proofs.System.History
import Passbook.Proofs.System.Underway
import Passbook.Proofs.UnitOfWork.Program

/-! # The course of a unit of work

Where a unit of work stands in a system: it waits for a connection (`Waiting`), it works on one
(`Asking`), or its connection is being left by somebody who only waits for one more answer
(`Leaving`), be it the unit itself whose caller has gone or the rollback of a transaction that was
left open. For each there is one lemma that says all that the task's next move can come to. Moves of
other tasks change nothing about it (`Asking.of_step`, `Leaving.of_step`). -/

namespace Passbook

namespace System

/-- What has become of a statement, if it is a task's next move that decides it: its fate is in the
air, or the answer has come. -/
inductive Heard (Allowed : Twist → Prop) (system : System) (event : Event) (index : Nat) (task : Task)
    (connection : Nat) (statement : Statement) (next : statement.Answer → Work Reply) : System → Prop
  | held {db : Database} {faults : List ArmedFault} (twist : Twist) (hold : Hold) :
      system.told? event = none →
      system.sent? event = (if task.stage.isSent then none else some (index, statement)) →
      Allowed twist → (system.db.session connection).alive = true →
      system.db.Waits connection statement db →
      system.waiting? event = (if (system.db.session connection).waiting.isNone &&
        (db.session connection).waiting.isSome then some (connection, system.db.clock) else none) →
      Heard Allowed system event index task connection statement next
        ({ system with db, faults }.setTask index
          { task with stage := .sent statement next twist hold })
  | told {db : Database} {faults : List ArmedFault} (ran : Bool) (answer : statement.Answer) :
      system.told? event = some ⟨index, connection, statement, ran, answer⟩ →
      system.sent? event = (if task.stage.isSent then none else some (index, statement)) →
      system.db.Tells Allowed connection statement db ran answer →
      Heard Allowed system event index task connection statement next
        ({ system with db, faults }.carryOn index task (next answer))

variable {Allowed : Twist → Prop} {system after : System} {event : Event} {index connection : Nat}
  {task : Task} {statement : Statement} {next : statement.Answer → Work Reply}

theorem heard_of_arrives {move : Move} {arrival : Arrival} (hu : system.Underway)
    (harrival : system.arrival? move = some arrival) (ha : Arrives Allowed system move arrival)
    (ht : system.tasks[move.index]? = some task)
    (hc : task.connections.head? = some connection)
    (hw : task.stage.work = .exec statement next) :
    Heard Allowed system (.move move) move.index task connection statement next
      (arrival.system.settle arrival.sending arrival.fate) := by
  have htold := told?_of_arrival harrival
  have hsent := sent?_of_arrival harrival ha
  have hwaiting := waiting?_of_arrival harrival
  have halive := hu _ _ connection ht
  obtain ⟨⟨index, sender, own, asked, then'⟩, met, fate⟩ := arrival
  obtain ⟨hindex, htask, hstage, hown, ⟨hmet, -, hdb⟩, hfate, -, hdead⟩ := ha
  dsimp only [Arrival.told?] at hindex htask hstage hown hmet hdb hfate hdead htold hsent ⊢
  dsimp only [Arrival.waiting?] at hwaiting
  subst hindex
  obtain rfl : sender = task := Option.some.inj (htask.symm.trans ht)
  obtain rfl : own = connection := Option.some.inj (hown.symm.trans hc)
  cases hstage.symm.trans hw
  cases hliving : (system.db.session own).alive with
  | false =>
    have hready : sender.stage.isSent = false := by
      by_contra hsent
      rw [halive (by simpa using hsent) hown] at hliving
      cases hliving
    cases hdead hready hliving
    simp only [settle, Except.toBool, Bool.and_false, Bool.false_eq_true, if_false]
    exact .told false _ htold hsent (.dead hliving)
  | true =>
    have hmet' : met.db = system.db ∨ statement = .begin ∧ met.db = system.db.note own true := by
      rcases hdb with hdb | ⟨hbegin, -, hdb⟩
      · exact .inl hdb
      · exact .inr ⟨hbegin, hdb⟩
    cases hfate with
    | @held db twist hold hallowed hwaits hsame =>
      have hwaits : system.db.Waits own statement db := by
        rcases hmet' with hdb | ⟨hbegin, hdb⟩
        · rwa [hdb] at hwaits
        · rw [hsame hbegin, hdb]
          exact .begun hbegin
      dsimp only [settle]
      rw [hmet]
      exact .held twist hold htold hsent hallowed hliving hwaits hwaiting
    | @answered db ran answer hanswers =>
      dsimp only [settle]
      rw [hmet]
      exact .told ran answer htold hsent (.living hliving hmet' hanswers)

/-- What the next move of a task comes to that has something to ask: it is heard, or its caller gives
up, before the statement is sent or while it is under way. -/
theorem step_of_exec {move : Move} (hT : system.Twists Allowed) (hu : system.Underway)
    (ht : system.tasks[move.index]? = some task) (hc : task.connections.head? = some connection)
    (hw : task.stage.work = .exec statement next) (hs : system.step (.move move) = some after) :
    Heard Allowed system (.move move) move.index task connection statement next after ∨
      ∃ deadline, task.deadline = some deadline ∧ statement.isEnd = false ∧
        move = .abandon move.index ∧
        (task.stage.isSent = false ∧ after = system.carryOn move.index
            { task with
              deadline := none
              reply := task.reply <|> some (.failed (.timeout deadline.unit)) } task.leave ∨
          ∃ twist hold, task.stage = .sent statement next twist hold ∧
            after = system.setTask move.index
              { task with
                deadline := none
                reply := task.reply <|> some (.failed (.timeout deadline.unit))
                stage := .sent statement (fun _ => task.leave) twist hold }) := by
  have htask : ∀ {other}, system.tasks[move.index]? = some other → task = other :=
    fun ho => Option.some.inj (ht.symm.trans ho)
  cases System.moves hT hs with
  | connected _ ho hw' =>
    obtain rfl := htask ho
    cases hw.symm.trans hw'
  | turnedAway _ _ ho hw' =>
    obtain rfl := htask ho
    cases hw.symm.trans hw'
  | arrived harrival ha => exact .inl (heard_of_arrives hu harrival ha ht hc hw)
  | gaveUp hmove ho hd hb hns =>
    obtain rfl := htask ho
    have hsent : task.stage.isSent = false := by
      cases hstage : task.stage with
      | sent => exact absurd hstage (hns _ _ _ _)
      | _ => rfl
    exact .inr ⟨_, hd, Stage.isEnd_of_isBounded hb hw, hmove, .inl ⟨hsent, rfl⟩⟩
  | leftBehind hmove ho hd hstage hend =>
    obtain rfl := htask ho
    rw [hstage] at hw
    cases hw
    exact .inr ⟨_, hd, hend, hmove, .inr ⟨_, _, hstage, rfl⟩⟩

theorem mover?_eq_some (h : event.mover? = some index) :
    ∃ move : Move, event = .move move ∧ move.index = index := by
  cases event with
  | move move => exact ⟨move, rfl, Option.some.inj h⟩
  | _ => cases h

theorem not_mover_of_finished (hs : system.step event = some after)
    (ht : system.tasks[index]? = some task) (hf : task.stage.isFinished = true) :
    event.mover? ≠ some index := by
  intro hm
  obtain ⟨move, rfl, rfl⟩ := mover?_eq_some hm
  have htask : ∀ {other}, system.tasks[move.index]? = some other → task = other :=
    fun ho => Option.some.inj (ht.symm.trans ho)
  have hunfinished : task.stage.isFinished = false := by
    cases System.moves (Twists.any system) hs with
    | connected _ ho _ hf' | turnedAway _ _ ho _ hf' => rw [htask ho, hf']
    | arrived _ ha => rw [htask ha.task]; exact Stage.isFinished_of_work ha.stage
    | gaveUp _ ho _ hb => rw [htask ho]; exact Stage.isFinished_of_isBounded hb
    | leftBehind _ ho _ hstage => rw [htask ho, hstage]; rfl
  rw [hf] at hunfinished
  cases hunfinished

theorem finished_of_step (hs : system.step event = some after)
    (ht : system.tasks[index]? = some task) (hf : task.stage.isFinished = true) :
    after.tasks[index]? = some task := by
  rcases getElem?_step hs ht (not_mover_of_finished hs ht hf) with ht' | ⟨-, ht'⟩
  · exact ht'
  · rw [ht']
    obtain ⟨connections, stage, deadline, progress, reply⟩ := task
    cases stage <;> first | rfl | cases hf

/-- A task that has something to ask does not take a connection. -/
theorem taken?_of_exec {move : Move} {statement : Statement}
    {next : statement.Answer → Work Reply} (hs : system.step (.move move) = some after)
    (ht : system.tasks[move.index]? = some task) (hw : task.stage.work = .exec statement next) :
    system.taken? (.move move) = none := by
  have htask : ∀ {other}, system.tasks[move.index]? = some other → task = other :=
    fun ho => Option.some.inj (ht.symm.trans ho)
  cases System.moves (Twists.any system) hs with
  | connected _ ho hw' =>
    rw [htask ho] at hw
    cases hw.symm.trans hw'
  | turnedAway _ hmove | gaveUp hmove | leftBehind hmove =>
    rw [hmove]
    rfl
  | arrived harrival _ =>
    cases move with
    | connect => cases harrival
    | _ => rfl

/-- It has taken the connections that it had taken before. -/
theorem took_of_exec {move : Move} {statement : Statement} {next : statement.Answer → Work Reply}
    (past : Past) (hs : system.step (.move move) = some after)
    (ht : system.tasks[move.index]? = some task) (hw : task.stage.work = .exec statement next)
    (other : Nat) : Past.Took (past ++ [(system, .move move)]) move.index other ↔
      past.Took move.index other := by
  rw [Past.took_concat, taken?_of_exec hs ht hw]
  simp

theorem carryOn_handBack (hc : task.connections = [connection]) (system : System) (index : Nat)
    (reply : Reply) :
    system.carryOn index task (UnitOfWork.handBack reply) =
      (system.giveBack connection).setTask index
        { task with connections := [], stage := .finished, reply := task.reply <|> some reply } := by
  unfold carryOn UnitOfWork.handBack
  rw [proceed, hc]
  rfl

/-! ## Connections that are being left -/

/-- Somebody waits for one more answer, and then gives the connection back. -/
structure Leaving (task : Task) (connection : Nat) (statement : Statement) : Prop where
  connections : task.connections = [connection]
  deadline : task.deadline = none
  work : task.stage.work = .exec statement fun _ => .giveBack (.done .done)

namespace Leaving

variable {Allowed : Twist → Prop} {system after : System} {event : Event} {move : Move}
  {index connection : Nat} {task : Task} {statement : Statement}

theorem cleanup (connection : Nat) : Leaving (.cleanup connection) connection .rollback :=
  ⟨rfl, rfl, rfl⟩

/-- What its next move comes to. -/
inductive Goes (Allowed : Twist → Prop) (system : System) (event : Event) (index : Nat) (task : Task)
    (connection : Nat) (statement : Statement) : System → Prop
  | held {db : Database} {faults : List ArmedFault} (twist : Twist) (hold : Hold) :
      system.told? event = none →
      system.sent? event = (if task.stage.isSent then none else some (index, statement)) →
      Allowed twist → (system.db.session connection).alive = true →
      system.db.Waits connection statement db →
      Goes Allowed system event index task connection statement
        ({ system with db, faults }.setTask index
          { task with
            stage := .sent statement (fun _ => Work.giveBack (.done .done)) twist hold })
  | told {db : Database} {faults : List ArmedFault} (ran : Bool) (answer : statement.Answer) :
      system.told? event = some ⟨index, connection, statement, ran, answer⟩ →
      system.sent? event = (if task.stage.isSent then none else some (index, statement)) →
      system.db.Tells Allowed connection statement db ran answer →
      Goes Allowed system event index task connection statement
        (({ system with db, faults }.giveBack connection).setTask index
          { task with
            connections := [], stage := .finished, reply := task.reply <|> some Reply.done })

theorem isFinished (h : Leaving task connection statement) : task.stage.isFinished = false :=
  Stage.isFinished_of_work h.work

theorem mem_claims (h : Leaving task connection statement) : connection ∈ task.claims := by
  rw [Task.claims_eq h.isFinished, h.connections]
  exact List.mem_cons_self

theorem goes (h : Leaving task connection statement) (hT : system.Twists Allowed)
    (hu : system.Underway) (ht : system.tasks[move.index]? = some task)
    (hs : system.step (.move move) = some after) :
    Goes Allowed system (.move move) move.index task connection statement after := by
  have hc : task.connections.head? = some connection := by rw [h.connections]; rfl
  rcases step_of_exec hT hu ht hc h.work hs with hheard | ⟨_, hd, -⟩
  · cases hheard with
    | held twist hold htold hsent hallowed halive hdb =>
      exact .held twist hold htold hsent hallowed halive hdb
    | @told db faults ran answer htold hsent htells =>
      have hback := carryOn_handBack h.connections { system with db, faults } move.index .done
      rw [UnitOfWork.handBack] at hback
      rw [hback]
      exact .told ran answer htold hsent htells
  · cases h.deadline.symm.trans hd

/-- Others do not change anything about it. -/
theorem of_step (h : Leaving task connection statement) (hs : system.step event = some after)
    (ht : system.tasks[index]? = some task) (hm : event.mover? ≠ some index) :
    ∃ task', after.tasks[index]? = some task' ∧ Leaving task' connection statement ∧
      task'.reply = task.reply := by
  rcases getElem?_step hs ht hm with ht' | ⟨-, ht'⟩
  · exact ⟨task, ht', h, rfl⟩
  · exact ⟨_, ht', ⟨h.connections, h.deadline, by rw [← h.work]; exact Stage.work_unstall ..⟩, rfl⟩

end Leaving

/-! ## Units that wait for a connection -/

/-- A unit has not got a connection yet. -/
structure Waiting (unit : UnitOfWork) (task : Task) : Prop where
  connections : task.connections = []
  reply : task.reply = none
  work : task.stage.work = unit.work

/-- A unit works on a connection: it is about to ask what belongs to its phase, or waits for the
answer. -/
structure Asking (unit : UnitOfWork) (task : Task) (connection : Nat) (phase : UnitOfWork.Phase) :
    Prop where
  connections : task.connections = [connection]
  reply : task.reply = none
  asks : ∃ statement next, task.stage.work = .exec statement next ∧ unit.Asks phase statement next

namespace Waiting

variable {Allowed : Twist → Prop} {unit : UnitOfWork} {system after : System} {event : Event}
  {move : Move} {index : Nat} {task : Task}

/-- A unit that is spawned waits for a connection, and nothing else has happened. -/
theorem of_spawn {deadline : Option Deadline}
    (hs : system.step (.spawn [] deadline unit.work) = some after) :
    ∃ task, after = { system with tasks := system.tasks ++ [task] } ∧ Waiting unit task ∧
      task.deadline = deadline := by
  obtain ⟨-, -, rfl⟩ := spawned_of_step hs
  rw [UnitOfWork.work_eq]
  exact ⟨_, rfl, ⟨rfl, rfl, by rw [UnitOfWork.work_eq]; rfl⟩, rfl⟩

/-- What its next move comes to. -/
inductive Goes (unit : UnitOfWork) (system : System) (event : Event) (index : Nat) (task : Task) :
    System → Prop
  | connected {next : Statement.Answer .begin → Work Reply} : event = .move (.connect index) →
      system.inUse.length < system.capacity → unit.Asks .beginning .begin next →
      Goes unit system event index task
        ({ system with
            inUse := system.nextConnection :: system.inUse
            nextConnection := system.nextConnection + 1 }.setTask index
          { task with connections := [system.nextConnection], stage := .ready .begin next })
  | dismissed (deadline : Option Deadline) (failure : Failure) :
      (∀ name error, failure ≠ .commitOutcomeUnknown name error) →
      (∀ error, failure ≠ .ledger error) →
      (∃ error, event = .move (.turnAway index) ∧ failure = .storage error) ∨
        event = .move (.abandon index) →
      Goes unit system event index task
        (system.setTask index
          { task with deadline, stage := .finished, reply := some (.failed failure) })

theorem goes (h : Waiting unit task) (ht : system.tasks[move.index]? = some task)
    (hs : system.step (.move move) = some after) :
    Goes unit system (.move move) move.index task after := by
  have htask : ∀ {other}, system.tasks[move.index]? = some other → task = other :=
    fun ho => Option.some.inj (ht.symm.trans ho)
  have hwork := h.work
  rw [UnitOfWork.work_eq] at hwork
  obtain ⟨connections, stage, deadline, progress, reply⟩ := task
  obtain rfl := h.connections
  obtain rfl := h.reply
  cases System.moves (Twists.any system) hs with
  | connected hmove ho hw _ hfree =>
    obtain rfl := htask ho
    cases hwork.symm.trans hw
    exact .connected (congrArg Event.move hmove) hfree .begin
  | turnedAway error hmove ho hw _ =>
    obtain rfl := htask ho
    cases hwork.symm.trans hw
    exact .dismissed deadline (.storage error) nofun nofun
      (.inl ⟨error, congrArg Event.move hmove, rfl⟩)
  | arrived _ ha =>
    have hstage := ha.stage
    rw [← htask ha.task] at hstage
    cases hwork.symm.trans hstage
  | gaveUp hmove ho _ _ _ =>
    obtain rfl := htask ho
    exact .dismissed none (.timeout _) nofun nofun (.inr (congrArg Event.move hmove))
  | leftBehind _ ho _ hstage _ =>
    obtain rfl := htask ho
    cases hstage
    cases hwork

/-- Others do not change anything about it. -/
theorem of_step (h : Waiting unit task) (hs : system.step event = some after)
    (ht : system.tasks[index]? = some task) (hm : event.mover? ≠ some index) :
    ∃ task', after.tasks[index]? = some task' ∧ Waiting unit task' := by
  rcases getElem?_step hs ht hm with ht' | ⟨-, ht'⟩
  · exact ⟨task, ht', h⟩
  · exact ⟨_, ht', h.connections, h.reply, by rw [← h.work]; exact Stage.work_unstall ..⟩

end Waiting

/-! ## Units at work -/

/-- The body of a unit is carried on to what it asks for next, or to the end of the transaction. -/
theorem proceed_working {Asks : Statement → Prop} {Results : Except Failure Reply → Prop}
    {work : Work (Except Failure Reply)} (hb : work.Obeys Asks Results) (unit : UnitOfWork)
    (system : System) (task : Task) :
    ∃ rest serial progress statement next, work.Passes system.db.draws rest ∧
      unit.Asks (.working rest) statement next ∧
      system.proceed task (unit.working work) =
        ({ system with db := { system.db with serial } },
          { task with stage := .ready statement next, progress }) := by
  induction hb generalizing system task with
  | @done result _ =>
    cases result with
    | ok reply =>
      exact ⟨_, system.db.serial, task.progress, _, _, .done _, .commit reply, rfl⟩
    | error failure =>
      exact ⟨_, system.db.serial, task.progress, _, _, .done _, .rollback failure, rfl⟩
  | exec _ _ _ =>
    exact ⟨_, system.db.serial, task.progress, _, _, .exec _ _, .query _ _, rfl⟩
  | draw _ ih =>
    obtain ⟨rest, serial, progress, statement, next, hp, ha, heq⟩ :=
      ih system.db.draw { system with db.serial := system.db.serial + 1 } task
    exact ⟨rest, serial, progress, statement, next, .draw _ hp, ha, heq⟩
  | @report reply _ _ ih =>
    obtain ⟨rest, serial, progress, statement, next, hp, ha, heq⟩ :=
      ih system { task with progress := task.progress ++ [reply] }
    exact ⟨rest, serial, progress, statement, next, .report _ hp, ha, heq⟩

namespace Asking

variable {Allowed : Twist → Prop} {unit : UnitOfWork} {system after : System} {event : Event}
  {move : Move} {index connection : Nat} {task : Task} {phase : UnitOfWork.Phase}

/-- What its next move comes to. -/
inductive Goes (Allowed : Twist → Prop) (unit : UnitOfWork) (system : System) (event : Event)
    (index : Nat) (task : Task) (connection : Nat) (phase : UnitOfWork.Phase) : System → Prop
  | held {statement : Statement} {next : statement.Answer → Work Reply} {db : Database}
      {faults : List ArmedFault} (twist : Twist) (hold : Hold) :
      task.stage.work = .exec statement next → unit.Asks phase statement next →
      system.told? event = none →
      system.sent? event = (if task.stage.isSent then none else some (index, statement)) →
      Allowed twist → (system.db.session connection).alive = true →
      system.db.Waits connection statement db →
      Goes Allowed unit system event index task connection phase
        ({ system with db, faults }.setTask index
          { task with stage := .sent statement next twist hold })
  | turned {statement statement' : Statement} {next : statement.Answer → Work Reply}
      {next' : statement'.Answer → Work Reply} {phase' : UnitOfWork.Phase} {db : Database}
      {faults : List ArmedFault} {serial : Nat} {progress : List Reply} (ran : Bool)
      (answer : statement.Answer) :
      task.stage.work = .exec statement next → unit.Asks phase statement next →
      system.told? event = some ⟨index, connection, statement, ran, answer⟩ →
      system.sent? event = (if task.stage.isSent then none else some (index, statement)) →
      system.db.Tells Allowed connection statement db ran answer →
      unit.Turn db.draws phase statement answer phase' → unit.Asks phase' statement' next' →
      Goes Allowed unit system event index task connection phase
        ({ system with db := { db with serial }, faults }.setTask index
          { task with stage := .ready statement' next', progress })
  | ended {statement : Statement} {next : statement.Answer → Work Reply} {reply : Reply}
      {db : Database} {faults : List ArmedFault} (ran : Bool) (answer : statement.Answer) :
      task.stage.work = .exec statement next → unit.Asks phase statement next →
      system.told? event = some ⟨index, connection, statement, ran, answer⟩ →
      system.sent? event = (if task.stage.isSent then none else some (index, statement)) →
      system.db.Tells Allowed connection statement db ran answer →
      unit.Ends phase statement answer reply →
      Goes Allowed unit system event index task connection phase
        (({ system with db, faults }.giveBack connection).setTask index
          { task with connections := [], stage := .finished, reply := some reply })
  | quit {statement : Statement} {next : statement.Answer → Work Reply} (deadline : Deadline) :
      task.stage.work = .exec statement next → unit.Asks phase statement next →
      statement.isEnd = false → event = .move (.abandon index) → task.deadline = some deadline →
      Goes Allowed unit system event index task connection phase
        ((system.giveBack connection).setTask index
          { task with
            connections := [], stage := .finished, deadline := none
            reply := some (.failed (.timeout deadline.unit)) })
  | left {statement : Statement} {next : statement.Answer → Work Reply} (deadline : Deadline)
      (twist : Twist) (hold : Hold) :
      task.stage.work = .exec statement next → unit.Asks phase statement next →
      statement.isEnd = false → event = .move (.abandon index) →
      task.deadline = some deadline → task.stage = .sent statement next twist hold →
      Goes Allowed unit system event index task connection phase
        (system.setTask index
          { task with
            stage := .sent statement (fun _ => Work.giveBack (.done .done)) twist hold
            deadline := none
            reply := some (.failed (.timeout deadline.unit)) })

theorem isFinished (h : Asking unit task connection phase) : task.stage.isFinished = false := by
  obtain ⟨statement, next, hw, -⟩ := h.asks
  exact Stage.isFinished_of_work hw

theorem claims (h : Asking unit task connection phase) : task.claims = [connection] := by
  rw [Task.claims_eq h.isFinished, h.connections]

theorem mem_claims (h : Asking unit task connection phase) : connection ∈ task.claims := by
  rw [h.claims]
  exact List.mem_cons_self

theorem goes {Asks : Statement → Prop} {Results : Except Failure Reply → Prop}
    (h : Asking unit task connection phase) (hbody : unit.body.run.Obeys Asks Results)
    (hphase : phase.Obeys Asks Results) (hT : system.Twists Allowed) (hu : system.Underway)
    (ht : system.tasks[move.index]? = some task) (hs : system.step (.move move) = some after) :
    Goes Allowed unit system (.move move) move.index task connection phase after := by
  obtain ⟨statement, next, hw, ha⟩ := h.asks
  have hc : task.connections.head? = some connection := by rw [h.connections]; rfl
  have hconnections := h.connections
  have hreply := h.reply
  rcases step_of_exec hT hu ht hc hw hs with hheard |
    ⟨deadline, hd, hend, hmove, ⟨-, rfl⟩ | ⟨twist, hold, hstage, rfl⟩⟩
  · cases hheard with
    | held twist hold htold hsent hallowed halive hdb =>
      exact .held twist hold hw ha htold hsent hallowed halive hdb
    | @told db faults ran answer htold hsent htells =>
      rcases ha.cases hbody hphase db.draws answer with
        ⟨reply, hends, hnext⟩ | ⟨millis, hturn, hnext⟩ | ⟨work, hwork, hnext, hturn⟩
      · rw [hnext, carryOn_handBack hconnections, hreply]
        exact .ended ran answer hw ha htold hsent htells hends
      · rw [hnext]
        exact .turned ran answer hw ha htold hsent htells hturn (.limit millis)
      · obtain ⟨rest, serial, progress, statement', next', hp, ha', heq⟩ :=
          proceed_working hwork unit { system with db, faults } task
        rw [hnext, carryOn, heq]
        exact .turned ran answer hw ha htold hsent htells (hturn rest hp) ha'
  · have hleave : task.leave = .giveBack (.done .done) := by
      simp [Task.leave, hconnections]
    have hgone : ∀ reply, Task.connections { task with deadline := none, reply } = [connection] :=
      fun _ => hconnections
    rw [hleave, hreply, ← UnitOfWork.handBack, carryOn_handBack (hgone _)]
    exact .quit deadline hw ha hend (congrArg Event.move hmove) hd
  · have hleave : task.leave = .giveBack (.done .done) := by
      simp [Task.leave, hconnections]
    rw [hleave, hreply]
    exact .left deadline twist hold hw ha hend (congrArg Event.move hmove) hd hstage

/-- Others do not change anything about it. -/
theorem of_step (h : Asking unit task connection phase) (hs : system.step event = some after)
    (ht : system.tasks[index]? = some task) (hm : event.mover? ≠ some index) :
    ∃ task', after.tasks[index]? = some task' ∧ Asking unit task' connection phase ∧
      task'.stage.underWay? = task.stage.underWay? := by
  obtain ⟨statement, next, hw, ha⟩ := h.asks
  rcases getElem?_step hs ht hm with ht' | ⟨-, ht'⟩
  · exact ⟨task, ht', h, rfl⟩
  · exact ⟨_, ht', ⟨h.connections, h.reply,
      statement, next, by rw [← hw]; exact Stage.work_unstall .., ha⟩, Stage.underWay?_unstall ..⟩

end Asking

end System

/-- What holds of a unit that has just been spawned, and is kept by every event, holds in every run from
a database at rest. -/
theorem Run.holds_of_spawn {unit : UnitOfWork} {motive : Past → System → Prop} {db : Database}
    {capacity : Nat} {past : Past} {before system : System} {deadline : Option Deadline}
    (hrun : Run (.start db capacity) past system) (hrest : db.AtRest)
    (hspawn : (before, .spawn [] deadline unit.work) ∈ past)
    (hspawned : ∀ past system task, system.tasks[before.tasks.length]? = some task →
      System.Waiting unit task → Past.Unmoved past before.tasks.length → motive past system)
    (hstep : ∀ past system after event, Run (.start db capacity) past system →
      System.Orderly [] [] system → system.Underway → system.step event = some after →
      motive past system → motive (past ++ [(system, event)]) after) : motive past system := by
  obtain ⟨earlier, next, later, rfl, hearlier, hnext, hlater⟩ := hrun.of_mem hspawn
  have hbase := hearlier.step hnext
  clear hrun hspawn
  induction hlater with
  | refl =>
    obtain ⟨task, rfl, hwait, -⟩ := System.Waiting.of_spawn hnext
    rw [List.append_nil]
    exact hspawned _ _ task List.getElem?_concat_length hwait
      ((hearlier.unmoved (Nat.le_refl _)).concat before nofun)
  | step hlater hs ih =>
    have hwhole := hbase.append hlater
    rw [← List.append_assoc]
    exact hstep _ _ _ _ hwhole (hwhole.orderly (System.orderly_start hrest capacity))
      (hwhole.underway (System.orderly_start hrest capacity) (System.underway_start db capacity)) hs ih

end Passbook
