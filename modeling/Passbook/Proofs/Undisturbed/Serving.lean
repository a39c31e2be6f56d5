import Passbook.Proofs.Deadlock.Faultless
import Passbook.Proofs.Footing.Tasks

/-! # A caller who is served undisturbed

Somebody comes with work, and until it is done nothing else happens than its own moves and the passing
of time (`System.Serves`). What comes of it depends on the work, on what is in the caller's hands and
on the clock when a statement is sent (`Past.Sends`), so it can be computed along the work
(`Work.AttainsWhen`): work that attains an end is done in every such run, with that end
(`Serves.attained`), and there is such a run (`exists_serves`). -/

namespace Passbook

/-- Whether the event is a move of the task towards its end, or the passing of time. -/
def Event.isOwn (index : Nat) : Event → Bool
  | .move (.connect own) | .move (.send own) | .move (.wake own) | .move (.expire own) => own == index
  | .elapse _ | .tick _ => true
  | _ => false

/-- A caller comes with work, and nothing else happens until it is done. -/
structure System.Serves (system : System) (connections : List Nat) (work : Work Reply) (past : Past)
    (after : System) (task : Task) : Prop where
  undisturbed : ∃ deadline spawned own, past = (system, .spawn connections deadline work) :: own ∧
    system.step (.spawn connections deadline work) = some spawned ∧ Run spawned own after ∧
    ∀ before event, (before, event) ∈ own → event.isOwn system.tasks.length = true
  place : after.tasks[system.tasks.length]? = some task
  finished : task.stage.isFinished = true

/-- The task has sent the statement when the clock of the database showed the given time. -/
def Past.Sends (past : Past) (index : Nat) (statement : Statement) (time : Instant) : Prop :=
  ∃ before event, (before, event) ∈ past ∧ before.sent? event = some (index, statement) ∧
    before.db.clock = time

/-- The answer to a statement that is sent, if it does not have to wait, and the database when the
answer has been noted. -/
def Database.heed (db : Database) (connection : Nat) (statement : Statement) :
    Option (Database × statement.Answer) :=
  if (db.session connection).alive = false then some (db, .error .connectionLost)
  else if db.refusesAborted connection statement then some (db, .error (.rejected .aborted))
  else match (if statement = .begin then db.note connection true else db).run connection statement with
    | .blocked => none
    | .answered db answer =>
      some (if statement.isEnd && answer.toBool then db.note connection false else db, answer)

/-- What a caller works with: the database, the pool, the connections in hand, and what has been
reported. -/
structure Desk where
  db : Database
  capacity : Nat
  closed : Bool
  inUse : List Nat
  nextConnection : Nat
  hands : List Nat
  told : List Reply

/-- What a task of the system works with, with these connections and these reports. -/
def System.desk (system : System) (hands : List Nat) (told : List Reply) : Desk where
  db := system.db
  capacity := system.capacity
  closed := system.closed
  inUse := system.inUse
  nextConnection := system.nextConnection
  hands := hands
  told := told

namespace Desk

/-- The desk at another time. -/
def later (desk : Desk) (clock : Instant) : Desk := { desk with db.clock := clock }

/-- A connection has been taken from the pool. -/
def connected (desk : Desk) : Desk :=
  { desk with
    inUse := desk.nextConnection :: desk.inUse
    nextConnection := desk.nextConnection + 1
    hands := desk.nextConnection :: desk.hands }

/-- The pool has a connection to give. -/
structure HasRoom (desk : Desk) : Prop where
  opened : desk.closed = false
  room : desk.inUse.length < desk.capacity

/-- Nobody has used the connection that the pool gives next. -/
def NextFresh (desk : Desk) : Prop := desk.db.session desk.nextConnection = .fresh

end Desk

namespace Work

variable {α : Type}

/-- Undisturbed, the work comes to its end with the given facts when each statement is sent at one of
the given times, and the database is always as it should be until then. -/
def AttainsWhen (Sent : Statement → Instant → Prop) (Always : Database → Prop)
    (Ends : Desk → α → Prop) : Work α → Desk → Prop
  | .done value, desk => ∀ clock, Always (desk.later clock).db ∧ Ends (desk.later clock) value
  | .connect next, desk =>
    desk.HasRoom ∧ ∀ clock, Always (desk.later clock).db ∧
      (desk.NextFresh → (next (.ok ())).AttainsWhen Sent Always Ends (desk.later clock).connected)
  | .giveBack rest, desk =>
    match desk.hands with
    | [] => rest.AttainsWhen Sent Always Ends desk
    | connection :: hands =>
      (desk.db.session connection).unended = false ∧
        rest.AttainsWhen Sent Always Ends
          { desk with
            db := desk.db.close connection
            inUse := desk.inUse.erase connection
            hands := hands }
  | .exec statement next, desk =>
    ∃ connection, desk.hands.head? = some connection ∧ ∀ clock, Always (desk.later clock).db ∧
      (Sent statement clock →
        ∃ db answer, (desk.later clock).db.heed connection statement = some (db, answer) ∧
          (next answer).AttainsWhen Sent Always Ends { desk with db := db })
  | .draw next, desk =>
    (next desk.db.draw).AttainsWhen Sent Always Ends { desk with db.serial := desk.db.serial + 1 }
  | .report reply rest, desk =>
    rest.AttainsWhen Sent Always Ends { desk with told := desk.told ++ [reply] }

/-- It does not matter when the statements are sent. -/
abbrev Attains (Always : Database → Prop) (Ends : Desk → α → Prop) : Work α → Desk → Prop :=
  AttainsWhen (fun _ _ => True) Always Ends

section

variable {Sent : Statement → Instant → Prop} {Always : Database → Prop} {Ends : Desk → α → Prop}
  {desk : Desk} {connection : Nat}

theorem attains_done {value : α} (halways : ∀ clock, Always (desk.later clock).db)
    (h : ∀ clock, Ends (desk.later clock) value) : (done value).AttainsWhen Sent Always Ends desk :=
  fun clock => ⟨halways clock, h clock⟩

theorem attains_connect {next : Except StorageError Unit → Work α} (hroom : desk.HasRoom)
    (halways : ∀ clock, Always (desk.later clock).db)
    (h : ∀ clock, desk.NextFresh →
      (next (.ok ())).AttainsWhen Sent Always Ends (desk.later clock).connected) :
    (connect next).AttainsWhen Sent Always Ends desk :=
  ⟨hroom, fun clock => ⟨halways clock, h clock⟩⟩

theorem attains_giveBack {rest : Work α} {hands : List Nat} (hhands : desk.hands = connection :: hands)
    (hended : (desk.db.session connection).unended = false)
    (h : rest.AttainsWhen Sent Always Ends
      { desk with
        db := desk.db.close connection
        inUse := desk.inUse.erase connection
        hands := hands }) : (giveBack rest).AttainsWhen Sent Always Ends desk := by
  unfold AttainsWhen
  rw [hhands]
  exact ⟨hended, h⟩

theorem attains_exec {statement : Statement} {next : statement.Answer → Work α}
    (hhands : desk.hands.head? = some connection)
    (halways : ∀ clock, Always (desk.later clock).db)
    (h : ∀ clock, ∃ db answer, (desk.later clock).db.heed connection statement = some (db, answer) ∧
      (next answer).AttainsWhen Sent Always Ends { desk with db := db }) :
    (exec statement next).AttainsWhen Sent Always Ends desk :=
  ⟨connection, hhands, fun clock => ⟨halways clock, fun _ => h clock⟩⟩

/-- The clock shows one of the given times when the statement is sent. -/
theorem attains_exec_sent {statement : Statement} {next : statement.Answer → Work α}
    (hhands : desk.hands.head? = some connection)
    (halways : ∀ clock, Always (desk.later clock).db)
    (h : ∀ clock, Sent statement clock →
      ∃ db answer, (desk.later clock).db.heed connection statement = some (db, answer) ∧
        (next answer).AttainsWhen Sent Always Ends { desk with db := db }) :
    (exec statement next).AttainsWhen Sent Always Ends desk :=
  ⟨connection, hhands, fun clock => ⟨halways clock, h clock⟩⟩

end

end Work

namespace System

variable {Sent : Statement → Instant → Prop} {Always : Database → Prop}
  {Ends : Desk → Reply → Prop} {system after : System} {others : List Task} {task : Task} {event : Event} {connections : List Nat} {work : Work Reply}
  {answered : Option Reply}

/-- What remains to be done of the task attains the end. Its caller may have been answered before. -/
def Awaits (Sent : Statement → Instant → Prop) (Always : Database → Prop)
    (Ends : Desk → Reply → Prop) (answered : Option Reply) (system : System) (task : Task) : Prop :=
  match task.stage with
  | .queued _ next => task.reply = answered ∧ (Work.connect next).AttainsWhen Sent Always Ends
      (system.desk task.connections task.progress)
  | .ready statement next => task.reply = answered ∧
    (Work.exec statement next).AttainsWhen Sent Always Ends
      (system.desk task.connections task.progress)
  | .sent .. => False
  | .finished => ∃ reply, task.reply = (answered <|> some reply) ∧
    (Work.done reply).AttainsWhen Sent Always Ends (system.desk task.connections task.progress)

/-- A connection without a transaction is closed when it is given back. -/
theorem giveBack_of_ended {connection : Nat}
    (h : (system.db.session connection).unended = false) :
    system.giveBack connection =
      { system with
        db := system.db.close connection
        inUse := system.inUse.erase connection } := by
  simp [giveBack, h]

theorem awaits_proceed
    (h : work.AttainsWhen Sent Always Ends (system.desk task.connections task.progress))
    (hr : task.reply = answered) :
    (system.proceed task work).1.Awaits Sent Always Ends answered (system.proceed task work).2 ∧
      (system.proceed task work).1.tasks = system.tasks := by
  induction work generalizing system task with
  | done reply => exact ⟨⟨reply, by simp [proceed, hr], h⟩, rfl⟩
  | connect | exec => exact ⟨⟨hr, h⟩, rfl⟩
  | draw next ih => exact ih _ h hr
  | report reply rest ih =>
    refine ih ?_ hr
    exact h
  | giveBack rest ih =>
    unfold proceed
    unfold Work.AttainsWhen at h
    cases hc : task.connections with
    | nil =>
      simp only [desk, hc] at h
      exact ih (by rw [hc]; exact h) hr
    | cons connection connections =>
      simp only [desk, hc] at h
      obtain ⟨hended, h⟩ := h
      dsimp only
      rw [giveBack_of_ended hended]
      exact @ih _ { task with connections } h hr

/-- The others are as they were, and the one task is on its way to its end. -/
structure Attends (Sent : Statement → Instant → Prop) (Always : Database → Prop)
    (Ends : Desk → Reply → Prop) (answered : Option Reply) (others : List Task) (system : System) :
    Prop where
  orderly : Orderly [] [] system
  faults : system.faults = []
  task : ∃ task, system.tasks = others ++ [task] ∧ system.Awaits Sent Always Ends answered task

theorem Awaits.always (h : system.Awaits Sent Always Ends answered task) : Always system.db := by
  unfold Awaits at h
  split at h
  · exact (h.2.2 system.db.clock).1
  · obtain ⟨_, _, _, h⟩ := h
    exact (h system.db.clock).1
  · cases h
  · obtain ⟨_, -, h⟩ := h
    exact (h system.db.clock).1

theorem Awaits.tick (h : system.Awaits Sent Always Ends answered task) (clock : Instant) :
    Awaits Sent Always Ends answered { system with db.clock := clock } task := by
  unfold Awaits at h ⊢
  cases hs : task.stage with
  | queued since next =>
    rw [hs] at h
    exact ⟨h.1, ⟨h.2.1.opened, h.2.1.room⟩, h.2.2⟩
  | ready | sent | finished =>
    rw [hs] at h
    exact h

theorem attends_carryOn (hf : system.faults = []) (hold : ∃ old, system.tasks = others ++ [old])
    (h : work.AttainsWhen Sent Always Ends (system.desk task.connections task.progress))
    (hr : task.reply = answered) (ho : Orderly [] [] (system.carryOn others.length task work)) :
    (system.carryOn others.length task work).Attends Sent Always Ends answered others := by
  obtain ⟨old, hold⟩ := hold
  obtain ⟨hawaits, htasks⟩ := awaits_proceed h hr
  refine ⟨ho, ?_, _, ?_, hawaits⟩
  · exact (faults_proceed system task work).trans hf
  · simp [carryOn, setTask, htasks, hold]

/-- A task that waits for a connection gets one. -/
theorem step_connect {index since : Nat} {next : Except StorageError Unit → Work Reply}
    (ht : system.tasks[index]? = some task) (hs : task.stage = .queued since next)
    (ho : system.closed = false) (hfree : system.inUse.length < system.capacity) :
    system.step (.move (.connect index)) =
      some ({ system with
          inUse := system.nextConnection :: system.inUse
          nextConnection := system.nextConnection + 1 }.carryOn index
        { task with connections := system.nextConnection :: task.connections } (next (.ok ()))) := by
  simp [step, move, ht, hs, ho, hfree]

/-- A statement that does not have to wait is answered. -/
theorem step_send {index connection : Nat} {statement : Statement}
    {next : statement.Answer → Work Reply} {db : Database} {answer : statement.Answer}
    (hf : system.faults = []) (ht : system.tasks[index]? = some task)
    (hs : task.stage = .ready statement next) (hc : task.connections.head? = some connection)
    (hheed : system.db.heed connection statement = some (db, answer)) :
    system.step (.move (.send index)) =
      some (carryOn { system with db } index task (next answer)) := by
  have hsettled : system.step (.move (.send index)) =
      some ((system.send connection statement).1.settle ⟨index, task, connection, statement, next⟩
        (system.send connection statement).2) := by
    simp [step, move, arrival?, ht, hs, hc]
  rw [hsettled]
  obtain ⟨db', now, faults, capacity, closed, inUse, nextConnection, tasks⟩ := system
  obtain rfl : faults = [] := hf
  unfold Database.heed at hheed
  unfold send
  by_cases hdead : (db'.session connection).alive = false
  · rw [if_pos hdead] at hheed ⊢
    cases hheed
    simp [settle, Except.toBool]
  rw [if_neg hdead] at hheed ⊢
  by_cases haborted : db'.refusesAborted connection statement = true
  · rw [if_pos haborted] at hheed ⊢
    cases hheed
    simp [settle, Except.toBool]
  rw [if_neg haborted] at hheed ⊢
  dsimp only [ArmedFault.strike, List.map_nil, List.find?_nil, List.eraseP_nil, Option.map_none, meet]
  unfold attempt
  dsimp only
  split at hheed
  · cases hheed
  · rename_i ended own hrun
    cases hheed
    rw [hrun]
    dsimp only
    rw [Database.twisted_none]
    rfl

theorem Attends.step (h : system.Attends Sent Always Ends answered others)
    (he : event.isOwn others.length = true)
    (hsent : ∀ statement, system.sent? event = some (others.length, statement) →
      Sent statement system.db.clock)
    (hs : system.step event = some after) : after.Attends Sent Always Ends answered others := by
  obtain ⟨task, htasks, hawaits⟩ := h.task
  have ht : system.tasks[others.length]? = some task := by rw [htasks]; simp
  have horderly := h.orderly.step hs
  cases event with
  | elapse till =>
    cases hs
    exact ⟨horderly, h.faults, task, htasks, hawaits⟩
  | tick clock =>
    cases hs
    exact ⟨horderly, h.faults, task, htasks, hawaits.tick clock⟩
  | move chosen =>
    unfold Awaits at hawaits
    cases chosen with
    | connect own =>
      obtain rfl : own = others.length := by simpa [Event.isOwn] using he
      cases hstage : task.stage with
      | queued since next =>
        rw [hstage] at hawaits
        obtain ⟨hr, ⟨hopen, hfree⟩, hnext⟩ := hawaits
        have hfresh : system.db.session system.nextConnection = .fresh :=
          h.orderly.fresh _ fun hin => Nat.lt_irrefl _ (h.orderly.lt_next _ hin)
        rw [step_connect ht hstage hopen hfree] at hs
        cases hs
        exact attends_carryOn h.faults ⟨task, htasks⟩ ((hnext system.db.clock).2 hfresh) hr horderly
      | ready | finished => simp [System.step, move, ht, hstage] at hs
      | sent => rw [hstage] at hawaits; cases hawaits
    | send own =>
      obtain rfl : own = others.length := by simpa [Event.isOwn] using he
      cases hstage : task.stage with
      | ready statement next =>
        rw [hstage] at hawaits
        obtain ⟨hr, connection, hc, hnext⟩ := hawaits
        have hhead : task.connections.head? = some connection := hc
        have htime := hsent statement (by simp [sent?, arrival?, ht, hstage, hhead])
        obtain ⟨db, answer, hheed, hnext⟩ := (hnext system.db.clock).2 htime
        rw [step_send h.faults ht hstage hc hheed] at hs
        cases hs
        exact attends_carryOn h.faults ⟨task, htasks⟩ hnext hr horderly
      | queued | finished => simp [System.step, move, arrival?, ht, hstage] at hs
      | sent => rw [hstage] at hawaits; cases hawaits
    | wake own | expire own =>
      obtain rfl : own = others.length := by simpa [Event.isOwn] using he
      cases hstage : task.stage with
      | sent => rw [hstage] at hawaits; cases hawaits
      | _ => simp [System.step, move, arrival?, ht, hstage] at hs
    | turnAway | abandon => cases he
  | spawn | release | arm | unstall | closePool => cases he

theorem Attends.run {past : Past} (h : system.Attends Sent Always Ends answered others)
    (hrun : Run system past after)
    (hown : ∀ before event, (before, event) ∈ past → event.isOwn others.length = true)
    (hsent : ∀ statement time, past.Sends others.length statement time → Sent statement time) :
    after.Attends Sent Always Ends answered others ∧
      ∀ before event, (before, event) ∈ past → Always before.db := by
  induction hrun with
  | refl => exact ⟨h, fun _ _ hmem => absurd hmem List.not_mem_nil⟩
  | @step past system after event _ hs ih =>
    have hlast : (system, event) ∈ past ++ [(system, event)] :=
      List.mem_append_right _ List.mem_cons_self
    obtain ⟨hsystem, halways⟩ :=
      ih (fun before event hmem => hown before event (List.mem_append_left _ hmem))
        fun statement time ⟨before, event, hmem, hsends⟩ =>
          hsent statement time ⟨before, event, List.mem_append_left _ hmem, hsends⟩
    refine ⟨hsystem.step (hown system event hlast)
      (fun statement hsends => hsent statement _ ⟨system, event, hlast, hsends, rfl⟩) hs, ?_⟩
    intro before event hmem
    rcases List.mem_append.mp hmem with hmem | hmem
    · exact halways before event hmem
    · obtain ⟨rfl, rfl⟩ := Prod.mk.inj (List.mem_singleton.mp hmem)
      obtain ⟨task, -, hawaits⟩ := hsystem.task
      exact hawaits.always

/-- Somebody who comes with work that attains an end is attended to. -/
theorem attends_spawn {deadline : Option Deadline} (ho : Orderly [] [] system)
    (hf : system.faults = []) (h : work.AttainsWhen Sent Always Ends (system.desk connections []))
    (hs : system.step (.spawn connections deadline work) = some after) :
    after.Attends Sent Always Ends none system.tasks := by
  have horderly := ho.step hs
  obtain ⟨-, -, rfl⟩ := spawned_of_step hs
  obtain ⟨hawaits, htasks⟩ := @awaits_proceed Sent Always Ends system
    { connections, deadline, stage := .finished, progress := [], reply := none } work none h rfl
  refine ⟨horderly, ?_, _, ?_, hawaits⟩
  · exact (faults_proceed ..).trans hf
  · simp only [System.spawn]
    rw [htasks]

/-- What there is when a caller has been served: the others are as they were, and the work has
attained its end. -/
structure Served (Always : Database → Prop) (Ends : Desk → Reply → Prop) (system : System) (past : Past)
    (after : System) (task : Task) : Prop where
  orderly : Orderly [] [] after
  faults : after.faults = []
  tasks : after.tasks = system.tasks ++ [task]
  ends : ∃ reply, task.reply = some reply ∧ Ends (after.desk task.connections task.progress) reply
  always : (∀ before event, (before, event) ∈ past → Always before.db) ∧ Always after.db

/-- Work that attains an end comes to it whenever it is done undisturbed, at these times. -/
theorem Serves.attained_when {past : Past} (h : system.Serves connections work past after task)
    (ho : Orderly [] [] system) (hf : system.faults = []) (halways : Always system.db)
    (hsent : ∀ statement time, past.Sends system.tasks.length statement time → Sent statement time)
    (hwork : work.AttainsWhen Sent Always Ends (system.desk connections [])) :
    Served Always Ends system past after task := by
  obtain ⟨deadline, spawned, own, rfl, hspawn, hrun, hown⟩ := h.undisturbed
  obtain ⟨hafter, hmoments⟩ := (attends_spawn ho hf hwork hspawn).run hrun hown
    fun statement time ⟨before, event, hmem, hsends⟩ =>
      hsent statement time ⟨before, event, List.mem_cons_of_mem _ hmem, hsends⟩
  obtain ⟨task', htasks, hawaits⟩ := hafter.task
  obtain rfl : task' = task := by
    have hplace := h.place
    rw [htasks] at hplace
    simpa using hplace
  have hlast := hawaits.always
  unfold Awaits at hawaits
  cases hstage : task'.stage with
  | finished =>
    rw [hstage] at hawaits
    obtain ⟨reply, hreply, hends⟩ := hawaits
    refine ⟨hafter.orderly, hafter.faults, htasks, ⟨reply, hreply, (hends after.db.clock).2⟩, ?_, hlast⟩
    intro before event hmem
    rcases List.mem_cons.mp hmem with hmem | hmem
    · obtain ⟨rfl, -⟩ := Prod.mk.inj hmem
      exact halways
    · exact hmoments before event hmem
  | queued | ready | sent =>
    have hfinished := h.finished
    rw [hstage] at hfinished
    cases hfinished

theorem Serves.attained {past : Past} (h : system.Serves connections work past after task)
    (ho : Orderly [] [] system) (hf : system.faults = []) (halways : Always system.db)
    (hwork : work.Attains Always Ends (system.desk connections [])) :
    Served Always Ends system past after task :=
  h.attained_when ho hf halways (fun _ _ _ => trivial) hwork

/-! ## There is a way to the end -/

/-- The task comes to its end by moves of its own. -/
def Completes (index : Nat) (system : System) : Prop :=
  ∃ past last task, Run system past last ∧
    (∀ before event, (before, event) ∈ past → event.isOwn index = true) ∧
    last.tasks[index]? = some task ∧ task.stage.isFinished = true

theorem Completes.of_step {index : Nat} (he : event.isOwn index = true)
    (hs : system.step event = some after) (h : after.Completes index) : system.Completes index := by
  obtain ⟨past, last, task, hrun, hown, hplace, hfinished⟩ := h
  refine ⟨_, last, task, .cons hs hrun, ?_, hplace, hfinished⟩
  intro before other hmem
  rcases List.mem_cons.mp hmem with hmem | hmem
  · obtain ⟨-, rfl⟩ := Prod.mk.inj hmem
    exact he
  · exact hown before other hmem

/-- It does so wherever its work has been carried on that attains an end. -/
theorem completes_proceed {index : Nat} {tasks : List Task}
    (h : work.Attains Always Ends (system.desk task.connections task.progress))
    (hf : system.faults = []) (ht : tasks[index]? = some (system.proceed task work).2)
    (ho : Orderly [] [] { (system.proceed task work).1 with tasks }) :
    Completes index { (system.proceed task work).1 with tasks } := by
  induction work generalizing system task tasks with
  | done reply =>
    exact ⟨[], _, _, .refl, fun _ _ hmem => absurd hmem List.not_mem_nil, ht, rfl⟩
  | draw next ih =>
    exact @ih _ { system with db.serial := system.db.serial + 1 } task tasks h hf ht ho
  | report reply rest ih =>
    exact @ih system { task with progress := task.progress ++ [reply] } tasks h hf ht ho
  | giveBack rest ih =>
    unfold Work.Attains Work.AttainsWhen at h
    unfold proceed at ht ho ⊢
    cases hc : task.connections with
    | nil =>
      simp only [desk, hc] at h ht ho ⊢
      exact ih (by rw [hc]; exact h) hf ht ho
    | cons connection connections =>
      simp only [desk, hc] at h ht ho ⊢
      rw [giveBack_of_ended h.1] at ht ho ⊢
      exact @ih { system with
        db := system.db.close connection
        inUse := system.inUse.erase connection } { task with connections } tasks h.2 hf ht ho
  | connect next ih =>
    obtain ⟨⟨hopen, hfree⟩, hnext⟩ := h
    have hfresh : system.db.session system.nextConnection = .fresh :=
      ho.fresh _ fun hin => Nat.lt_irrefl _ (ho.lt_next _ hin)
    have hlt := (List.getElem?_eq_some_iff.mp ht).1
    have hs := @step_connect { system with tasks } _ index _ _ ht rfl hopen hfree
    refine @Completes.of_step _ _ (.move (.connect index)) index (beq_self_eq_true index) hs ?_
    exact @ih (.ok ()) { system with tasks, inUse := _, nextConnection := _ }
      { task with stage := _, connections := _ } _ ((hnext system.db.clock).2 hfresh) hf
      (getElem?_carryOn_self hlt _ _) (ho.step hs)
  | exec statement next ih =>
    obtain ⟨connection, hc, hnext⟩ := h
    obtain ⟨db, answer, hheed, hnext⟩ := (hnext system.db.clock).2 trivial
    have hlt := (List.getElem?_eq_some_iff.mp ht).1
    have hs := @step_send { system with tasks } _ index connection _ _ _ _ hf ht rfl hc hheed
    refine @Completes.of_step _ _ (.move (.send index)) index (beq_self_eq_true index) hs ?_
    exact @ih answer { system with tasks, db } { task with stage := _ } _ hnext hf
      (getElem?_carryOn_self hlt _ _) (ho.step hs)

/-- Work that attains an end can be done undisturbed, on connections that are idle. -/
theorem exists_serves (ho : Orderly [] [] system) (hf : system.faults = []) (hn : connections.Nodup)
    (hidle : ∀ connection ∈ connections, system.isIdle connection = true)
    (h : work.Attains Always Ends (system.desk connections [])) :
    ∃ past after task, system.Serves connections work past after task := by
  have hs : system.step (.spawn connections none work) =
      some (system.spawn connections none work).1 :=
    if_pos ⟨hn, List.all_eq_true.mpr hidle⟩
  have htasks : (system.spawn connections none work).1.tasks[system.tasks.length]? =
      some (system.proceed (.fresh connections none) work).2 := by
    obtain ⟨-, htasks⟩ := @awaits_proceed _ Always Ends system (.fresh connections none) work none h rfl
    simp only [System.spawn]
    rw [← Task.fresh, htasks]
    exact List.getElem?_concat_length
  obtain ⟨own, after, task, hrun, hown, hplace, hfinished⟩ :=
    @completes_proceed Always Ends system (.fresh connections none) work _ _ h hf htasks (ho.step hs)
  exact ⟨_, after, task, ⟨none, _, own, rfl, hs, hrun, hown⟩, hplace, hfinished⟩

/-- Somebody has been served by a trace of their own moves. -/
theorem Serves.of_trace? {deadline : Option Deadline} {events : List Event} {past : Past}
    (h : system.trace? (.spawn connections deadline work :: events) = some (past, after))
    (hown : ∀ event ∈ events, event.isOwn system.tasks.length = true)
    (hplace : after.tasks[system.tasks.length]? = some task)
    (hfinished : task.stage.isFinished = true) : system.Serves connections work past after task := by
  obtain ⟨spawned, hspawned, h⟩ := Option.bind_eq_some_iff.mp h
  obtain ⟨⟨own, last⟩, hlast, h⟩ := Option.map_eq_some_iff.mp h
  cases h
  exact ⟨⟨deadline, spawned, own, rfl, hspawned, run_of_trace? hlast, forall_of_trace? hlast hown⟩,
    hplace, hfinished⟩

end System

end Passbook
