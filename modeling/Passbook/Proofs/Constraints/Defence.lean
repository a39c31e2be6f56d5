import Passbook.Proofs.Constraints.Stocked

/-! # Defence in depth

Whenever callers only trade, however they are interleaved and whatever fails, every statement keeps to
the constraints of the schema, and so the runs are the same on a database that does not check them
(`constraints_redundant`). One lemma says what an event leaves of a task (`System.lawful_event`), and
one what it leaves of the whole system (`System.Lawful.step`). -/

namespace Passbook

variable {Known : Int → Prop} {truly : Prop} {Ends : Reply → Prop}

/-- The task is lawful from where it stands, and its caller is answered as given. -/
structure Task.Lawful (Known : Int → Prop) (truly : Prop) (Ends : Reply → Prop) (task : Task) :
    Prop where
  work : task.stage.work.Lawful Known truly fun reply => task.reply = none → Ends reply
  told : ∀ reply, task.reply = some reply → Ends reply

namespace Task

/-- Whoever leaves does nothing but give back what he holds. -/
theorem lawful_leave (task : Task) {Ends : Reply → Prop} (h : Ends .done) :
    task.leave.Lawful Known truly Ends := by
  unfold leave
  induction task.connections with
  | nil => exact .done h
  | cons connection connections ih => exact .giveBack ih

theorem lawful_cleanup (connection : Nat) : (cleanup connection).Lawful Known truly fun _ => True :=
  ⟨.exec trivial fun _ _ => .giveBack (.done fun _ => trivial), fun _ _ => trivial⟩

/-- Lawful work that is carried on comes to a lawful task. -/
theorem lawful_proceed {work : Work Reply} (system : System) {task : Task}
    (hwork : work.Lawful Known truly fun reply => task.reply = none → Ends reply)
    (htold : ∀ reply, task.reply = some reply → Ends reply) :
    (system.proceed task work).2.Lawful Known truly Ends := by
  induction work generalizing system task with
  | done reply =>
    cases hwork with | done hends
    dsimp only [System.proceed]
    cases hreply : task.reply with
    | none =>
      refine ⟨.done nofun, fun other hother => ?_⟩
      cases hother
      exact hends hreply
    | some own =>
      refine ⟨.done nofun, fun other hother => ?_⟩
      cases hother
      exact htold own hreply
  | connect next | exec statement next => exact ⟨hwork, htold⟩
  | giveBack rest ih =>
    cases hwork with | giveBack hrest
    unfold System.proceed
    split
    · exact ih system hrest htold
    · exact ih _ hrest htold
  | draw next ih =>
    cases hwork with | draw hnext
    exact ih _ _ (hnext _) htold
  | report reply rest ih =>
    cases hwork with | report hrest
    exact ih system hrest htold

end Task

namespace System

variable {system after : System} {event : Event} {index : Nat} {task : Task} {past : Past}

/-- What a task becomes by its own move. -/
theorem lawful_moves {move : Move} (hu : system.Underway)
    (hexpects : ∀ told, system.told? (.move move) = some told →
      told.statement.Expects Known truly told.answer)
    (hlate : ∀ unit, Ends (.failed (.timeout unit))) (hs : system.step (.move move) = some after)
    (ht : system.tasks[move.index]? = some task) (h : task.Lawful Known truly Ends) :
    ∃ task', after.tasks[move.index]? = some task' ∧ task'.Lawful Known truly Ends := by
  have hlt := (List.getElem?_eq_some_iff.mp ht).1
  have hwork := h.work
  -- who is answered at the deadline is not answered again
  have hlater : ∀ unit reply, (task.reply <|> some (.failed (.timeout unit))) = some reply →
      Ends reply := by
    intro unit reply hreply
    cases hown : task.reply with
    | none => rw [hown] at hreply; cases hreply; exact hlate unit
    | some own => rw [hown] at hreply; exact h.told reply (hown.trans hreply)
  have hanswered : ∀ unit, (task.reply <|> some (.failed (.timeout unit))) ≠ none := by
    intro unit
    cases task.reply <;> nofun
  cases System.moves (Twists.any system) hs with
  | connected _ ho hw =>
    cases ht.symm.trans ho
    rw [hw] at hwork
    cases hwork with | connect hnext
    exact ⟨_, getElem?_carryOn_self (by exact hlt) _ _, Task.lawful_proceed _ (hnext _) h.told⟩
  | turnedAway error _ ho hw =>
    cases ht.symm.trans ho
    rw [hw] at hwork
    cases hwork with | connect hnext
    exact ⟨_, getElem?_carryOn_self (by exact hlt) _ _, Task.lawful_proceed _ (hnext _) h.told⟩
  | gaveUp _ ho =>
    cases ht.symm.trans ho
    refine ⟨_, getElem?_carryOn_self (by exact hlt) _ _, Task.lawful_proceed _ ?_ (hlater _)⟩
    exact task.lawful_leave fun hnone => absurd hnone (hanswered _)
  | leftBehind _ ho _ hstage =>
    cases ht.symm.trans ho
    rw [hstage] at hwork
    cases hwork with | exec hlawful
    refine ⟨_, List.getElem?_set_self hlt, .exec hlawful fun _ _ => ?_, hlater _⟩
    exact task.lawful_leave fun hnone => absurd hnone (hanswered _)
  | @arrived arrival harrival ha =>
    cases ht.symm.trans ha.task
    have hstage := ha.stage
    have hheard := heard_of_arrives hu harrival ha ht ha.connection hstage
    generalize arrival.system.settle arrival.sending arrival.fate = after at hheard
    rw [hstage] at hwork
    cases hwork with | exec hlawful hnext
    cases hheard with
    | held => exact ⟨_, List.getElem?_set_self hlt, .exec hlawful hnext, h.told⟩
    | told ran answer htold =>
      refine ⟨_, getElem?_carryOn_self (by exact hlt) _ _, Task.lawful_proceed _ ?_ h.told⟩
      exact hnext answer (hexpects _ htold)

/-- What an event leaves of a lawful task. -/
theorem lawful_event (hu : system.Underway)
    (hexpects : ∀ told, system.told? event = some told →
      told.statement.Expects Known truly told.answer)
    (hlate : ∀ unit, Ends (.failed (.timeout unit))) (hs : system.step event = some after)
    (ht : system.tasks[index]? = some task) (h : task.Lawful Known truly Ends) :
    ∃ task', after.tasks[index]? = some task' ∧ task'.Lawful Known truly Ends := by
  by_cases hm : event.mover? = some index
  · obtain ⟨move, rfl, rfl⟩ := mover?_eq_some hm
    exact lawful_moves hu hexpects hlate hs ht h
  · rcases getElem?_step hs ht hm with ht' | ⟨-, ht'⟩
    · exact ⟨task, ht', h⟩
    · exact ⟨_, ht', by dsimp only; rw [Stage.work_unstall]; exact h.work, h.told⟩

/-- Just the known accounts are there, all work is lawful, and the callers of transfers that stand alone
are answered as these may be. -/
structure Lawful (Known : Int → Prop) (truly : Prop) (past : Past) (system : System) : Prop where
  stocked : system.db.Stocked Known
  tasks : ∀ (index : Nat) (task : Task), system.tasks[index]? = some task →
    task.Lawful Known truly fun _ => True
  orders : ∀ index runner command, past.Spawned index (Transfer.order runner command) →
    ∃ task, system.tasks[index]? = some task ∧
      task.Lawful Known truly fun reply => truly → Transfer.Answered Known command reply

theorem lawful_start {db : Database} (hrest : db.AtRest)
    (hsolvent : ∀ row ∈ db.books.accounts, row.Solvent) (truly : Prop) (capacity : Nat) :
    Lawful (fun id => (db.books.account? id).isSome = true) truly [] (.start db capacity) where
  stocked := by
    refine ⟨fun _ hknown => hknown, fun row hrow => ⟨?_, hsolvent row hrow⟩, ?_⟩
    · exact List.find?_isSome.mpr ⟨row, hrow, beq_self_eq_true row.id⟩
    · intro connection transaction ht
      simp [start, Database.transaction?, Database.session, hrest.sessions, Session.fresh] at ht
  tasks _ _ ht := by simp [start] at ht
  orders _ _ _ hspawned := by
    obtain ⟨_, _, _, hmem, _⟩ := hspawned
    cases hmem

namespace Lawful

/-- Who is told of something has asked for what is lawful. -/
theorem of_told (h : system.Lawful Known truly past) {told : Told}
    (htold : system.told? event = some told) : told.statement.Lawful Known := by
  obtain ⟨task, next, ht, -, hstage⟩ := work_of_told htold
  have hwork := (h.tasks told.index task ht).work
  rw [hstage] at hwork
  cases hwork with | exec hlawful
  exact hlawful

theorem expects (h : system.Lawful Known truly past) (hu : system.Underway)
    (hhonest : truly → system.Twists fun twist => twist.isHonest = true) {told : Told}
    (htold : system.told? event = some told) :
    told.statement.Expects Known truly told.answer := by
  obtain ⟨_, htells⟩ := tells_of_told (Twists.any system) hu htold
  exact h.stocked.expects (h.of_told htold) htells fun htruly =>
    tells_of_told (hhonest htruly) hu htold

/-- What is asked for next keeps to the constraints. -/
theorem admitted (h : system.Lawful Known truly past) {connection : Nat} {statement : Statement}
    {next : statement.Answer → Work Reply} (hmem : task ∈ system.tasks)
    (hstage : task.stage.work = .exec statement next) :
    statement.Admitted (system.db.surroundings connection) (system.db.view connection) := by
  obtain ⟨index, ht⟩ := List.mem_iff_getElem?.mp hmem
  have hwork := (h.tasks index task ht).work
  rw [hstage] at hwork
  cases hwork with | exec hlawful
  exact h.stocked.admitted hlawful connection

theorem stocked_step (h : system.Lawful Known truly past) (hu : system.Underway)
    (hs : system.step event = some after) : after.db.Stocked Known := by
  refine database_step (P := Database.Stocked Known) hu hs h.stocked ?_ ?_ ?_ ?_ ?_ ?_
  · exact fun db connection unended hdb => hdb.of_same rfl fun other _ ht => by
      rwa [Database.transaction?_note] at ht
  · exact fun connection _ _ => h.stocked.of_same (Database.books_wait ..) fun other _ ht => by
      rwa [Database.transaction?_wait] at ht
  · exact fun _ _ hdb => hdb.of_same rfl fun _ _ ht => Database.transaction?_of_close ht
  · exact fun _ _ _ hdb => hdb.of_same rfl fun _ _ ht => ht
  · exact fun _ _ _ hdb => hdb.of_same rfl fun _ _ ht => ht
  · exact fun told _ htold htells => h.stocked.tells (h.of_told htold) htells

/-- An event by which nobody comes but who trades leaves the system lawful. -/
theorem step (h : system.Lawful Known truly past) (hu : system.Underway)
    (hhonest : truly → system.Twists fun twist => twist.isHonest = true) (htrades : event.Trades)
    (hs : system.step event = some after) :
    after.Lawful Known truly (past ++ [(system, event)]) := by
  have hexpects : ∀ told, system.told? event = some told →
      told.statement.Expects Known truly told.answer := fun _ htold => h.expects hu hhonest htold
  refine ⟨h.stocked_step hu hs, fun index task' ht' => ?_, fun index runner command hspawned => ?_⟩
  · cases hold : system.tasks[index]? with
    | some task =>
      obtain ⟨_, ht, hlawful⟩ := lawful_event hu hexpects (fun _ => trivial) hs hold
        (h.tasks index task hold)
      cases ht'.symm.trans ht
      exact hlawful
    | none =>
      rcases new_of_step hs ht' hold with ⟨connection, rfl⟩ | ⟨_, _, work, rfl, rfl⟩
      · exact Task.lawful_cleanup connection
      · exact Task.lawful_proceed system (htrades.lawful.mono fun _ _ _ => trivial) (by simp)
  · rcases hspawned.of_concat with hspawned | ⟨rfl, connections, deadline, rfl⟩
    · obtain ⟨task, ht, hlawful⟩ := h.orders index runner command hspawned
      exact lawful_event hu hexpects (fun unit _ => .late unit) hs ht hlawful
    · obtain ⟨-, -, rfl⟩ := spawned_of_step hs
      have horder : (Transfer.order runner command).Lawful Known truly fun reply =>
          truly → Transfer.Answered Known command reply := Transfer.lawful_order runner command
      exact ⟨_, List.getElem?_concat_length,
        Task.lawful_proceed system (horder.mono fun _ hends _ => hends) (by simp)⟩

end Lawful

end System

/-- No answers were made up in the past. -/
def Past.Honest (past : Past) : Prop :=
  ∀ before armed, (before, Event.arm armed) ∈ past → armed.fault.twist.isHonest = true

variable {db : Database} {capacity : Nat} {past : Past} {system : System}

theorem Run.lawful (h : Run (.start db capacity) past system) (hrest : db.AtRest)
    (hsolvent : ∀ row ∈ db.books.accounts, row.Solvent) (hhonest : truly → past.Honest)
    (htrades : ∀ before event, (before, event) ∈ past → event.Trades) :
    system.Lawful (fun id => (db.books.account? id).isSome = true) truly past := by
  induction h with
  | refl => exact System.lawful_start hrest hsolvent truly capacity
  | @step past system after event hrun hs ih =>
    have hhonest' : truly → past.Honest := fun htruly before armed hmem =>
      hhonest htruly before armed (List.mem_append_left _ hmem)
    have hlawful := ih hhonest' fun before event hmem =>
      htrades before event (List.mem_append_left _ hmem)
    have hu := hrun.underway (System.orderly_start hrest capacity)
      (System.underway_start db capacity)
    have htwists : truly → system.Twists fun twist => twist.isHonest = true := fun htruly =>
      hrun.twists (System.twists_start (fun twist => twist.isHonest = true) rfl db capacity)
        (hhonest' htruly)
    exact hlawful.step hu htwists
      (htrades system event (List.mem_append_right _ List.mem_cons_self)) hs

/-- Where statements keep to the constraints, an event does the same if these are not checked. -/
theorem System.Lawful.stepBy_eq (h : system.Lawful Known truly past) (event : Event) :
    system.stepBy Database.runUnchecked event = system.step event := by
  refine System.stepBy_congr (fun task hmem connection statement next hstage _ => ?_) event
  rintro _ (rfl | ⟨rfl, rfl⟩)
  · exact Database.runUnchecked_eq (h.admitted hmem hstage)
  · rfl

/-- A run and the same run where the constraints are not checked. -/
theorem runUnchecked_iff (hrest : db.AtRest) (hsolvent : ∀ row ∈ db.books.accounts, row.Solvent)
    (htrades : ∀ before event, (before, event) ∈ past → event.Trades) :
    RunBy Database.runUnchecked (.start db capacity) past system ↔
      Run (.start db capacity) past system := by
  have hlawful : ∀ {past system}, Run (.start db capacity) past system →
      (∀ before event, (before, event) ∈ past → event.Trades) →
      system.Lawful (fun id => (db.books.account? id).isSome = true) False past :=
    fun hrun htrades => hrun.lawful hrest hsolvent False.elim htrades
  constructor
  · intro h
    induction h with
    | refl => exact .refl
    | step _ hs ih =>
      have hearlier := fun before event hmem => htrades before event (List.mem_append_left _ hmem)
      have hrun := ih hearlier
      exact hrun.step ((hlawful hrun hearlier).stepBy_eq _ ▸ hs)
  · intro h
    induction h with
    | refl => exact .refl
    | step hrun hs ih =>
      have hearlier := fun before event hmem => htrades before event (List.mem_append_left _ hmem)
      exact (ih hearlier).step (((hlawful hrun hearlier).stepBy_eq _).trans hs)

/-- The constraints of the schema are never needed: every statement that is asked for keeps to them,
and all committed balances are such as an account may have. If no answers are made up, every answer
is one that the work goes on with, and the callers of transfers that stand alone are told of an entry,
or why the transfer was turned down, or that the storage or the unit of work has failed. -/
structure Defended (start : Database) (past : Past) (system : System) : Prop where
  admitted : ∀ task ∈ system.tasks, ∀ connection statement next,
    task.stage.work = .exec statement next → task.connections.head? = some connection →
    statement.Admitted (system.db.surroundings connection) (system.db.view connection)
  solvent : ∀ row ∈ system.db.books.accounts, row.Solvent
  expected : past.Honest → ∀ event told, system.told? event = some told →
    told.statement.Expects (fun id => (start.books.account? id).isSome = true) True told.answer
  answered : past.Honest → ∀ index runner command reply,
    past.Spawned index (Transfer.order runner command) → system.reply? index = some reply →
    Transfer.Answered (fun id => (start.books.account? id).isSome = true) command reply

theorem Run.defended (h : Run (.start db capacity) past system) (hrest : db.AtRest)
    (hsolvent : ∀ row ∈ db.books.accounts, row.Solvent)
    (htrades : ∀ before event, (before, event) ∈ past → event.Trades) :
    Defended db past system := by
  have hlawful := h.lawful hrest hsolvent id htrades
  have hu := h.underway (System.orderly_start hrest capacity) (System.underway_start db capacity)
  refine ⟨fun task hmem connection statement next hstage _ => hlawful.admitted hmem hstage,
    fun row hrow => (hlawful.stocked.rows row hrow).2, fun hhonest event told htold => ?_,
    fun hhonest index runner command reply hspawned hreply => ?_⟩
  · have hhonest' : past.Honest → system.Twists fun twist => twist.isHonest = true :=
      h.twists (System.twists_start (fun twist => twist.isHonest = true) rfl db capacity)
    have hexpects := hlawful.expects hu hhonest' htold
    rwa [eq_true hhonest] at hexpects
  · obtain ⟨task, ht, hown⟩ := hlawful.orders index runner command hspawned
    rw [System.reply?, ht] at hreply
    exact hown.told reply hreply hhonest

/-- Whenever callers only trade, the constraints of the schema are never needed, and the runs are the
same without them. A transfer that hears what it may expect can be turned down as long as it has only
read; once it asks for a write, it fails by the storage alone. -/
theorem constraints_redundant (hrest : db.AtRest)
    (hsolvent : ∀ row ∈ db.books.accounts, row.Solvent)
    (htrades : ∀ before event, (before, event) ∈ past → event.Trades) :
    (RunBy Database.runUnchecked (.start db capacity) past system ↔
        Run (.start db capacity) past system) ∧
      (Run (.start db capacity) past system → Defended db past system) ∧
      ∀ command, (Transfer.perform command).run.Cautious
        (fun id => (db.books.account? id).isSome = true) True
        (Transfer.Ends (fun id => (db.books.account? id).isSome = true) True command)
        (StorageFails True) :=
  ⟨runUnchecked_iff hrest hsolvent htrades, fun h => h.defended hrest hsolvent htrades,
    Transfer.cautious_perform⟩

/-- A transfer that loses its connection when it writes its first entry, and a transaction that its
caller keeps open, in which one transfer succeeds and another cannot be paid. -/
def tradedEvents : List Event :=
  [.spawn [] none (Transfer.order .default ⟨.nil, 1000000001, 1000000002, 30⟩),
    .spawn [] none (Scenario.opening none), .arm (.arm .insertEntry .disconnect 1),
    .move (.connect 0), .move (.connect 1), .move (.send 1), .move (.send 0), .move (.send 0),
    .move (.send 0), .move (.send 0), .move (.send 0), .move (.send 0),
    .spawn [1] none (Operation.work .default .callers []
      (.transfer .nil (.number 1000000002) (.number 1000000001) 5)),
    .move (.send 2), .move (.send 2), .move (.send 2), .move (.send 2), .move (.send 2),
    .move (.send 2),
    .spawn [1] none (Operation.work .default .callers []
      (.transfer .nil (.number 1000000002) (.number 1000000001) 500)),
    .move (.send 3), .move (.send 3), .spawn [1] none (Scenario.closing .commit), .move (.send 4)]

theorem trades_tradedEvents : ∀ event ∈ tradedEvents, event.Trades := by
  intro event hmem
  cases event with
  | spawn connections deadline work =>
    simp only [tradedEvents, List.mem_cons, List.not_mem_nil, reduceCtorEq, or_false, false_or,
      Event.spawn.injEq] at hmem
    rcases hmem with ⟨rfl, -, rfl⟩ | ⟨rfl, -, rfl⟩ | ⟨rfl, -, rfl⟩ | ⟨rfl, -, rfl⟩ | ⟨rfl, -, rfl⟩
    · exact .unit _ _ _ (.transfer _)
    · exact .opens none
    · exact .within 1 (Operation.trades_work .default [] rfl)
    · exact .within 1 (Operation.trades_work .default [] rfl)
    · exact .closes 1 rfl
  | _ => exact trivial

/-- The transfer of 5 is in the books, and nothing in this run needs the constraints. -/
theorem constraints_redundant_traded : ∃ past system, Run (.start pairLedger 2) past system ∧
    RunBy Database.runUnchecked (.start pairLedger 2) past system ∧ past.Honest ∧
    Defended pairLedger past system ∧
    system.db.books.accounts.map (·.balance) = [55, 5] ∧
    system.reply? 0 = some (.failed (.storage .connectionLost)) ∧
    system.reply? 3 = some (.failed (.ledger (.insufficientBalance 500 5))) := by
  have htrace : (System.start pairLedger 2).traces tradedEvents (fun past system =>
      past.isPlain ∧ system.db.books.accounts.map (·.balance) = [55, 5] ∧
        system.reply? 0 = some (.failed (.storage .connectionLost)) ∧
        system.reply? 3 = some (.failed (.ledger (.insufficientBalance 500 5)))) = true := rfl
  obtain ⟨past, system, htrace, hend⟩ := System.exists_of_traces htrace
  obtain ⟨hplain, hbalances, hlost, hdeclined⟩ := of_decide_eq_true hend
  have hrun := System.run_of_trace? htrace
  have htrades := System.forall_of_trace? htrace trades_tradedEvents
  have hrest : pairLedger.AtRest := ⟨rfl, rfl⟩
  have hsolvent : ∀ row ∈ pairLedger.books.accounts, row.Solvent := by decide
  have hunchecked := (constraints_redundant hrest hsolvent htrades).1.mpr hrun
  have hdefended := (constraints_redundant hrest hsolvent htrades).2.1 hrun
  exact ⟨past, system, hrun, hunchecked, (Past.Faithful.of_isPlain hplain).honest, hdefended,
    hbalances, hlost, hdeclined⟩

end Passbook
