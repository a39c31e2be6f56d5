import Passbook.Proofs.System.Ownership

/-! # Runs

What can happen to a system from outside (`Event`), and the runs that come of it: any list of events,
each of which can happen when its turn comes. A run keeps its past, the systems in which its events
happened, so that statements can be made about all that has been answered and published so far.

The committed books of a run are those at its start with everything laid over them that was published
since (`Run.books_eq`), and connections are in order throughout (`Run.orderly`). -/

namespace Passbook

/-- What can happen: a task moves; somebody comes with work to be done, on connections that are in
nobody else's hands; somebody gives such a connection back; time passes, for the system or for the
clock of the database; a fault is armed; stalled statements are set free; the pool is closed. -/
inductive Event
  | move (move : Move)
  | spawn (connections : List Nat) (deadline : Option Deadline) (work : Work Reply)
  | release (connection : Nat)
  | elapse (till : Nat)
  | tick (clock : Instant)
  | arm (fault : ArmedFault)
  | unstall
  | closePool

/-- The task that an event moves. -/
def Event.mover? : Event → Option Nat
  | .move chosen => some chosen.index
  | _ => none

namespace Database

/-- Nobody is connected. -/
structure AtRest (db : Database) : Prop where
  sessions : db.sessions = []
  locks : db.locks = []

theorem AtRest.locksSound {db : Database} (h : db.AtRest) : db.LocksSound :=
  ⟨by simp [h.locks], fun _ _ hm => by simp [h.locks] at hm⟩

end Database

/-- A ledger of two accounts, and nobody connected to it. -/
def pairLedger : Database where
  books := ⟨[⟨1000000001, .nil, 50, .current, ⟨0, 0⟩, ⟨0, 0⟩⟩,
    ⟨1000000002, .nil, 10, .savings, ⟨0, 0⟩, ⟨0, 0⟩⟩], []⟩
  users := [.nil]
  tables := []
  clock := ⟨0, 0⟩
  serial := 0
  locks := []
  sessions := []

namespace System

/-- Whether a connection is taken and no task works on it. -/
def isIdle (system : System) (connection : Nat) : Bool :=
  system.inUse.contains connection && system.claimed connection = 0

/-- What an event makes of the system, if it can happen now. -/
def step (system : System) : Event → Option System
  | .move move => system.move move
  | .spawn connections deadline work =>
    if connections.Nodup ∧ connections.all system.isIdle = true then
      some (system.spawn connections deadline work).1
    else none
  | .release connection =>
    if system.isIdle connection then some (system.giveBack connection) else none
  | .elapse till => some (system.elapse till)
  | .tick clock => some { system with db.clock := clock }
  | .arm fault => some { system with faults := system.faults ++ [fault] }
  | .unstall => some system.unstall
  | .closePool => some system.closePool

end System

/-- The events of a run, each with the system in which it happened. -/
abbrev Past := List (System × Event)

/-- The runs from a system, with their pasts. -/
inductive Run (start : System) : Past → System → Prop
  | refl : Run start [] start
  | step {past : Past} {system after : System} {event : Event} :
      Run start past system → system.step event = some after →
      Run start (past ++ [(system, event)]) after

/-! ## Order -/

namespace System

variable {system after : System} {event : Event} {connection index : Nat}

theorem orderly_start {db : Database} (h : db.AtRest) (capacity : Nat) :
    Orderly [] [] (start db capacity) where
  claimed_le _ := Nat.le_refl 0
  nodup := List.nodup_nil
  lt_next _ hc := absurd hc List.not_mem_nil
  fresh connection _ := by simp [start, Database.session, h.sessions]
  locks := h.locksSound

theorem isIdle_iff : system.isIdle connection = true ↔
    connection ∈ system.inUse ∧ system.claimed connection = 0 := by
  simp [isIdle]

theorem spawned_of_step {connections : List Nat} {deadline : Option Deadline} {work : Work Reply}
    (h : system.step (.spawn connections deadline work) = some after) :
    connections.Nodup ∧ (∀ connection ∈ connections, system.isIdle connection = true) ∧
      after = (system.spawn connections deadline work).1 := by
  simp only [step] at h
  split at h
  · rename_i hidle
    exact ⟨hidle.1, List.all_eq_true.mp hidle.2, (Option.some.inj h).symm⟩
  · cases h

theorem released_of_step (h : system.step (.release connection) = some after) :
    system.isIdle connection = true ∧ after = system.giveBack connection := by
  simp only [step] at h
  split at h
  · exact ⟨‹_›, (Option.some.inj h).symm⟩
  · cases h

/-- Idle connections may be taken in hand. -/
theorem Orderly.takeIdle (h : Orderly [] [] system) {connections : List Nat}
    (hn : connections.Nodup) (hi : ∀ connection ∈ connections, system.isIdle connection = true) :
    Orderly [] connections system := by
  refine ⟨fun connection => ?_, h.nodup, h.lt_next, h.fresh, h.locks⟩
  by_cases hc : connection ∈ connections
  · obtain ⟨hin, hzero⟩ := isIdle_iff.mp (hi connection hc)
    have hone := List.nodup_iff_count_le_one.mp hn connection
    have hpos := List.count_pos_iff.mpr hin
    rw [hzero, List.count_nil]
    omega
  · have hle := h.claimed_le connection
    rw [List.count_eq_zero_of_not_mem hc]
    simpa using hle

/-- A task takes a place of its own. -/
theorem Orderly.append {task : Task} (h : Orderly [] task.connections system) :
    Orderly [] [] { system with tasks := system.tasks ++ [task] } := by
  refine ⟨fun connection => ?_, h.nodup, h.lt_next, h.fresh, h.locks⟩
  have hle := h.claimed_le connection
  have hclaims := task.count_claims_le connection
  rw [claimed_append]
  simp only [List.count_nil] at hle ⊢
  omega

theorem Orderly.spawn (h : Orderly [] [] system) {connections : List Nat}
    (hn : connections.Nodup) (hi : ∀ connection ∈ connections, system.isIdle connection = true)
    (deadline : Option Deadline) (work : Work Reply) :
    Orderly [] [] (system.spawn connections deadline work).1 :=
  Orderly.append (Orderly.proceed work (h.takeIdle hn hi))

theorem claimed_unstall (system : System) (connection : Nat) :
    system.unstall.claimed connection = system.claimed connection := by
  have hclaims : ∀ task : Task, ({ task with stage := task.stage.unstall system.now } : Task).claims =
      task.claims := by
    intro task
    unfold Task.claims
    rcases task.stage with _ | _ | ⟨_, _, _, _ | _ | _⟩ | _ <;> rfl
  unfold claimed unstall
  simp only [List.map_map, Function.comp_def, hclaims]

theorem Orderly.step (h : Orderly [] [] system) (hs : system.step event = some after) :
    Orderly [] [] after := by
  cases event with
  | move move => exact h.moves (System.moves (Twists.any system) hs)
  | spawn connections deadline work =>
    obtain ⟨hnodup, hidle, rfl⟩ := spawned_of_step hs
    exact h.spawn hnodup hidle deadline work
  | release connection =>
    obtain ⟨hidle, rfl⟩ := released_of_step hs
    exact (h.takeIdle (List.nodup_singleton connection) (by simpa using hidle)).giveBack
  | elapse | arm | closePool =>
    cases hs
    exact ⟨h.claimed_le, h.nodup, h.lt_next, h.fresh, h.locks⟩
  | tick clock =>
    cases hs
    exact ⟨h.claimed_le, h.nodup, h.lt_next, h.fresh, ⟨h.locks.nodup, h.locks.isSome⟩⟩
  | unstall =>
    cases hs
    refine ⟨fun connection => ?_, h.nodup, h.lt_next, h.fresh, h.locks⟩
    rw [claimed_unstall]
    exact h.claimed_le connection

end System

theorem Run.orderly {start system : System} {past : Past} (h : Run start past system)
    (ho : System.Orderly [] [] start) : System.Orderly [] [] system := by
  induction h with
  | refl => exact ho
  | step _ hs ih => exact ih.step hs

/-! ## What is sent, answered and published -/

/-- An answer that reaches a task, and whether the database has run the statement. -/
structure Told where
  index : Nat
  connection : Nat
  statement : Statement
  ran : Bool
  answer : statement.Answer

namespace System

/-- The answer that a statement has come to. -/
def Arrival.told? (arrival : Arrival) : Option Told :=
  match arrival.fate with
  | .answered _ ran answer =>
    some ⟨arrival.sending.index, arrival.sending.connection, arrival.sending.statement, ran, answer⟩
  | .held .. => none

/-- The answer that reaches a task by an event. -/
def told? (system : System) : Event → Option Told
  | .move move => (system.arrival? move).bind Arrival.told?
  | _ => none

/-- The connection on which a statement begins to wait that stands alone, and the clock when it has
arrived. -/
def Arrival.waiting? (arrival : Arrival) (db : Database) : Option (Nat × Instant) :=
  match arrival.fate with
  | .held held _ _ =>
    let connection := arrival.sending.connection
    if (db.session connection).waiting.isNone && (held.session connection).waiting.isSome then
      some (connection, db.clock)
    else none
  | .answered .. => none

/-- The connection on which a statement that stands alone begins to wait by an event, and the clock when
it has arrived. -/
def waiting? (system : System) : Event → Option (Nat × Instant)
  | .move move => (system.arrival? move).bind fun arrival => arrival.waiting? system.db
  | _ => none

/-- The task that sends a statement by an event, and the statement. -/
def sent? (system : System) : Event → Option (Nat × Statement)
  | .move (.send index) =>
    (system.arrival? (.send index)).map fun arrival => (index, arrival.sending.statement)
  | _ => none

/-- The task that takes a connection by an event, and the connection. -/
def taken? (system : System) : Event → Option (Nat × Nat)
  | .move (.connect index) => some (index, system.nextConnection)
  | _ => none

/-- What becomes public by an event, and from which connection. -/
def publication? (system : System) (event : Event) : Option (Nat × Books) :=
  (system.told? event).bind fun told =>
    if told.ran then
      (system.db.published? told.connection told.statement).map (told.connection, ·)
    else none

/-- The task whose statement the database runs by an event, and the changes that it makes. -/
def written? (system : System) (event : Event) : Option (Nat × Books) :=
  (system.told? event).bind fun told =>
    if told.ran then some (told.index, system.db.written told.connection told.statement) else none

end System

namespace Past

/-- All that became public, in order. -/
def publications (past : Past) : List (Nat × Books) :=
  past.filterMap fun (system, event) => system.publication? event

/-- What became public from one connection, in order. -/
def publicationsOf (past : Past) (connection : Nat) : List Books :=
  (past.publications.filter (·.1 == connection)).map (·.2)

/-- All changes that the statements of a task made, laid over each other. -/
def writes (past : Past) (index : Nat) : Books :=
  ((past.filterMap fun (system, event) => system.written? event).filter (·.1 == index)).foldl
    (fun books written => books.overlay written.2) .empty

/-- The answers that reached tasks, in order. -/
def answers (past : Past) : List Told :=
  past.filterMap fun (system, event) => system.told? event

/-- Whether a statement of the task was refused. -/
def refused (past : Past) (index : Nat) : Bool :=
  past.answers.any fun told => told.index == index && Statement.refuses told.answer

/-- Whether the task has sent the statement. -/
def Sent (past : Past) (index : Nat) (statement : Statement) : Prop :=
  (index, statement) ∈ past.filterMap fun (system, event) => system.sent? event

instance (past : Past) (index : Nat) (statement : Statement) :
    Decidable (past.Sent index statement) :=
  inferInstanceAs (Decidable (_ ∈ _))

/-- Whether the task has taken the connection from the pool. -/
def Took (past : Past) (index connection : Nat) : Prop :=
  (index, connection) ∈ past.filterMap fun (system, event) => system.taken? event

instance (past : Past) (index connection : Nat) : Decidable (past.Took index connection) :=
  inferInstanceAs (Decidable (_ ∈ _))

end Past

end Passbook
