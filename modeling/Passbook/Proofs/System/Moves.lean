import Mathlib.Data.Option.Basic
import Passbook.Proofs.Database.Answers
import Passbook.System.Basic

/-! # What a move does

One lemma for each way in which a task can move. A task that waits for a connection gets one or is
turned away, a statement whose turn has come is answered or has to wait (`Arrives`), a caller gives
up. In each case the lemma says all that has changed, and later modules do not open `System.move`. -/

namespace Passbook

/-- The number of the task that moves. -/
def Move.index : Move → Nat
  | connect index | turnAway index | send index | wake index | expire index | abandon index => index

namespace Stage

/-- What is still to be done, from the request on that the stage is about. -/
def work : Stage → Work Reply
  | queued _ next => .connect next
  | ready statement next => .exec statement next
  | sent statement next _ _ => .exec statement next
  | finished => .done .done

theorem isFinished_of_work {stage : Stage} {statement : Statement}
    {next : statement.Answer → Work Reply} (h : stage.work = .exec statement next) :
    stage.isFinished = false := by
  cases stage <;> first | rfl | cases h

theorem isFinished_of_isBounded {stage : Stage} (h : stage.isBounded = true) :
    stage.isFinished = false := by
  cases stage <;> first | rfl | cases h

theorem isEnd_of_isBounded {stage : Stage} {statement : Statement}
    {next : statement.Answer → Work Reply} (h : stage.isBounded = true)
    (hw : stage.work = .exec statement next) : statement.isEnd = false := by
  cases stage with
  | ready => cases hw; simpa [isBounded] using h
  | sent => cases hw; simpa [isBounded] using h
  | queued | finished => cases hw

theorem work_unstall (stage : Stage) (now : Nat) : (stage.unstall now).work = stage.work := by
  rcases stage with _ | _ | ⟨_, _, _, _ | _ | _⟩ | _ <;> rfl

/-- Whether a statement is under way. -/
def isSent : Stage → Bool
  | sent .. => true
  | _ => false

/-- The statement that is under way. -/
def underWay? : Stage → Option Statement
  | sent statement .. => some statement
  | _ => none

theorem underWay?_of_work {stage : Stage} {statement : Statement}
    {next : statement.Answer → Work Reply} (h : stage.work = .exec statement next) :
    stage.underWay? = if stage.isSent then some statement else none := by
  cases stage with
  | sent => cases h; rfl
  | _ => rfl

theorem underWay?_unstall (stage : Stage) (now : Nat) :
    (stage.unstall now).underWay? = stage.underWay? := by
  rcases stage with _ | _ | ⟨_, _, _, _ | _ | _⟩ | _ <;> rfl

theorem isSent_unstall (stage : Stage) (now : Nat) : (stage.unstall now).isSent = stage.isSent := by
  rcases stage with _ | _ | ⟨_, _, _, _ | _ | _⟩ | _ <;> rfl

theorem isFinished_of_isSent {stage : Stage} (h : stage.isSent = true) :
    stage.isFinished = false := by
  cases stage <;> first | rfl | cases h

/-- The twist that an answer still to come is given. -/
def twist : Stage → Twist
  | sent _ _ twist _ => twist
  | _ => .none

theorem twist_unstall (stage : Stage) (now : Nat) : (stage.unstall now).twist = stage.twist := by
  rcases stage with _ | _ | ⟨_, _, _, _ | _ | _⟩ | _ <;> rfl

end Stage

namespace System

variable {Allowed : Twist → Prop} {system after : System} {move : Move} {arrival : Arrival}
  {connection index : Nat} {statement : Statement}

/-- No other twists than the given ones are under way or armed. -/
structure Twists (Allowed : Twist → Prop) (system : System) : Prop where
  none : Allowed .none
  armed : ∀ armed ∈ system.faults, Allowed armed.fault.twist
  stage : ∀ task ∈ system.tasks, Allowed task.stage.twist

theorem Twists.any (system : System) : system.Twists fun _ => True :=
  ⟨trivial, fun _ _ => trivial, fun _ _ => trivial⟩

/-- What comes of a statement that runs or meets a fault. -/
inductive Fate.From (Allowed : Twist → Prop) (db : Database) (connection : Nat)
    {statement : Statement} : Fate statement → Prop
  | answered {db' : Database} {ran : Bool} {answer : statement.Answer} :
      db.Answers Allowed connection statement db' ran answer →
      From Allowed db connection (.answered db' ran answer)
  | held {db' : Database} {twist : Twist} {hold : Hold} : Allowed twist →
      db.Waits connection statement db' → (statement = .begin → db' = db) →
      From Allowed db connection (.held db' twist hold)

theorem attempt_from {twist : Twist} (h : Allowed twist) :
    (system.attempt connection statement twist).From Allowed system.db connection := by
  unfold attempt
  cases hr : system.db.run connection statement with
  | blocked =>
    have hq := (Database.run_blocked hr).1
    refine .held h ?_ fun hbegin => absurd hbegin (Statement.ne_begin_of_isQuery hq)
    cases ht : system.db.transaction? connection with
    | none => exact .arrived hq ht
    | some => rw [Database.wait_of_open ht]; exact .unnoted
  | answered db answer => exact .answered (.ran twist h hr)

theorem meet_from (hn : Allowed .none) {fault : Option Fault}
    (hf : ∀ struck, fault = some struck → Allowed struck.twist) :
    (system.meet connection statement fault).From Allowed system.db connection := by
  unfold meet
  split
  · exact .answered (.refused _)
  · exact .answered .lost
  · exact .held hn .unnoted fun _ => rfl
  · exact .held hn .unnoted fun _ => rfl
  · exact attempt_from (hf _ rfl)
  · exact attempt_from hn

/-- The system that a statement meets: faults are counted, and the client notes that it has sent the
beginning of a transaction. -/
structure Meets (system : System) (connection : Nat) (statement : Statement) (met : System) :
    Prop where
  eq : met = { system with faults := met.faults, db := met.db }
  faults : met.faults.Sublist (system.faults.map (ArmedFault.count statement.name)) ∨
    met.faults = system.faults
  db : met.db = system.db ∨
    statement = .begin ∧ (system.db.session connection).alive = true ∧
      met.db = system.db.note connection true

theorem Meets.refl (system : System) (connection : Nat) (statement : Statement) :
    Meets system connection statement system := ⟨rfl, .inr rfl, .inl rfl⟩

theorem strike_allowed (h : ∀ armed ∈ system.faults, Allowed armed.fault.twist)
    {struck : Fault} (hs : (ArmedFault.strike statement.name system.faults).1 = some struck) :
    Allowed struck.twist := by
  unfold ArmedFault.strike at hs
  obtain ⟨armed, hfind, rfl⟩ := Option.map_eq_some_iff.mp hs
  obtain ⟨original, ho, rfl⟩ := List.mem_map.mp (List.mem_of_find?_eq_some hfind)
  have hcount : (original.count statement.name).fault = original.fault := by
    unfold ArmedFault.count
    split <;> rfl
  rw [hcount]
  exact h original ho

theorem send_from (h : system.Twists Allowed) (connection : Nat) (statement : Statement) :
    Meets system connection statement (system.send connection statement).1 ∧
      (system.send connection statement).2.From Allowed
        (system.send connection statement).1.db connection := by
  unfold send
  split
  · exact ⟨.refl .., .answered (.dead ‹_›)⟩
  split
  · exact ⟨.refl .., .answered (.aborted ‹_›)⟩
  · rename_i halive _
    refine ⟨⟨rfl, .inl List.eraseP_sublist, ?_⟩,
      meet_from h.none fun struck hs => strike_allowed h.armed hs⟩
    dsimp only
    split
    · exact .inr ⟨‹_›, by simpa using halive, rfl⟩
    · exact .inl rfl

/-! ## Statements whose turn has come -/

/-- A statement is due: it is sent, or the lock that it has waited for is free, or it has waited for it
too long. -/
inductive Due (system : System) : Move → Arrival → Prop
  | sent {index connection : Nat} {task : Task} {statement : Statement}
      {next : statement.Answer → Work Reply} :
      system.tasks[index]? = some task → task.stage = .ready statement next →
      task.connections.head? = some connection →
      Due system (.send index) ⟨⟨index, task, connection, statement, next⟩,
        (system.send connection statement).1, (system.send connection statement).2⟩
  | woken {index connection : Nat} {task : Task} {statement : Statement}
      {next : statement.Answer → Work Reply} {twist : Twist} {hold : Hold} :
      system.tasks[index]? = some task → task.stage = .sent statement next twist hold →
      task.connections.head? = some connection →
      system.mayWake connection statement hold = true →
      Due system (.wake index) ⟨⟨index, task, connection, statement, next⟩, system,
        system.attempt connection statement twist⟩
  | expired {index connection limit : Nat} {task : Task} {statement : Statement}
      {next : statement.Answer → Work Reply} {twist : Twist} {hold : Hold} :
      system.tasks[index]? = some task → task.stage = .sent statement next twist hold →
      task.connections.head? = some connection →
      system.lockWaitEnd? connection hold = some limit → limit ≤ system.now →
      Due system (.expire index) ⟨⟨index, task, connection, statement, next⟩, system,
        .answered (system.db.refuse connection statement) false (.error (.rejected .lockTimeout))⟩

theorem due_of_arrival (h : system.arrival? move = some arrival) : system.Due move arrival := by
  cases move with
  | connect | turnAway | abandon => cases h
  | send index =>
    simp only [arrival?, Option.bind_eq_bind, Option.bind_eq_some_iff, Option.pure_def] at h
    obtain ⟨task, ht, h⟩ := h
    split at h
    · obtain ⟨connection, hc, h⟩ := Option.bind_eq_some_iff.mp h
      cases h
      exact .sent ht ‹_› hc
    · cases h
  | wake index =>
    simp only [arrival?, Option.bind_eq_bind, Option.bind_eq_some_iff, Option.pure_def] at h
    obtain ⟨task, ht, h⟩ := h
    split at h
    · simp only [Option.bind_eq_some_iff, Option.guard_eq_some'] at h
      obtain ⟨connection, hc, _, hwake, h⟩ := h
      cases h
      exact .woken ht ‹_› hc hwake
    · cases h
  | expire index =>
    simp only [arrival?, Option.bind_eq_bind, Option.bind_eq_some_iff, Option.pure_def] at h
    obtain ⟨task, ht, h⟩ := h
    split at h
    · simp only [Option.bind_eq_some_iff, Option.guard_eq_some'] at h
      obtain ⟨connection, hc, limit, hlimit, _, hle, h⟩ := h
      cases h
      exact .expired ht ‹_› hc hlimit hle
    · cases h

theorem arrival?_eq_some_iff :
    system.arrival? move = some arrival ↔ system.Due move arrival := by
  refine ⟨due_of_arrival, fun h => ?_⟩
  cases h with
  | sent ht hs hc => simp [arrival?, ht, hs, hc]
  | woken ht hs hc hwake => simp [arrival?, ht, hs, hc, hwake]
  | expired ht hs hc hlimit hle => simp [arrival?, ht, hs, hc, hlimit, hle]

/-- Whose statement it is, what system it meets, and that its fate is one that the database and the
faults can give it. It is sent unless it is under way, and on a dead connection nothing is sent. -/
structure Arrives (Allowed : Twist → Prop) (system : System) (move : Move) (arrival : Arrival) :
    Prop where
  index : arrival.sending.index = move.index
  task : system.tasks[move.index]? = some arrival.sending.task
  stage : arrival.sending.task.stage.work = .exec arrival.sending.statement arrival.sending.next
  connection : arrival.sending.task.connections.head? = some arrival.sending.connection
  meets : Meets system arrival.sending.connection arrival.sending.statement arrival.system
  fate : arrival.fate.From Allowed arrival.system.db arrival.sending.connection
  send : move = .send move.index ↔ arrival.sending.task.stage.isSent = false
  dead : arrival.sending.task.stage.isSent = false →
    (system.db.session arrival.sending.connection).alive = false →
    arrival = ⟨arrival.sending, system, .answered system.db false (.error .connectionLost)⟩

theorem arrives (h : system.Twists Allowed) (ha : system.arrival? move = some arrival) :
    Arrives Allowed system move arrival := by
  cases due_of_arrival ha with
  | @sent _ connection _ statement _ ht hs hc =>
    obtain ⟨hm, hf⟩ := send_from h connection statement
    refine ⟨rfl, ht, by rw [hs]; rfl, hc, hm, hf, by rw [hs]; exact iff_of_true rfl rfl,
      fun _ hdead => ?_⟩
    dsimp only at hdead ⊢
    rw [send, if_pos hdead]
  | @woken _ _ task _ _ twist _ ht hs hc =>
    have htwist : Allowed twist := by
      have hstage := h.stage task (List.mem_of_getElem? ht)
      rwa [hs] at hstage
    refine ⟨rfl, ht, by rw [hs]; rfl, hc, .refl .., attempt_from htwist,
      by rw [hs]; exact iff_of_false nofun nofun, fun hready => ?_⟩
    rw [hs] at hready
    cases hready
  | expired ht hs hc =>
    refine ⟨rfl, ht, by rw [hs]; rfl, hc, .refl .., .answered (.refused _),
      by rw [hs]; exact iff_of_false nofun nofun, fun hready => ?_⟩
    rw [hs] at hready
    cases hready

/-! ## Moves -/

/-- How a task moves, and what becomes of the system. -/
inductive Moves (Allowed : Twist → Prop) (system : System) (move : Move) : System → Prop
  | connected {task : Task} {next : Except StorageError Unit → Work Reply} :
      move = .connect move.index → system.tasks[move.index]? = some task →
      task.stage.work = .connect next → task.stage.isFinished = false →
      system.inUse.length < system.capacity →
      Moves Allowed system move
        ({ system with
            inUse := system.nextConnection :: system.inUse
            nextConnection := system.nextConnection + 1 }.carryOn move.index
          { task with connections := system.nextConnection :: task.connections } (next (.ok ())))
  | turnedAway {task : Task} {next : Except StorageError Unit → Work Reply}
      (error : StorageError) :
      move = .turnAway move.index → system.tasks[move.index]? = some task →
      task.stage.work = .connect next → task.stage.isFinished = false →
      Moves Allowed system move (system.carryOn move.index task (next (.error error)))
  | arrived {arrival : Arrival} :
      system.arrival? move = some arrival → Arrives Allowed system move arrival →
      Moves Allowed system move (arrival.system.settle arrival.sending arrival.fate)
  | gaveUp {task : Task} {deadline : Deadline} :
      move = .abandon move.index → system.tasks[move.index]? = some task →
      task.deadline = some deadline → task.stage.isBounded = true →
      (∀ statement next twist hold, task.stage ≠ .sent statement next twist hold) →
      Moves Allowed system move
        (system.carryOn move.index
          { task with
            deadline := none
            reply := task.reply <|> some (.failed (.timeout deadline.unit)) } task.leave)
  | leftBehind {task : Task} {deadline : Deadline} {statement : Statement}
      {next : statement.Answer → Work Reply} {twist : Twist} {hold : Hold} :
      move = .abandon move.index → system.tasks[move.index]? = some task →
      task.deadline = some deadline → task.stage = .sent statement next twist hold →
      statement.isEnd = false →
      Moves Allowed system move
        (system.setTask move.index
          { task with
            deadline := none
            reply := task.reply <|> some (.failed (.timeout deadline.unit))
            stage := .sent statement (fun _ => task.leave) twist hold })

theorem moves_of_arrival (h : system.Twists Allowed)
    (hm : (system.arrival? move).map (fun arrival =>
      arrival.system.settle arrival.sending arrival.fate) = some after) :
    Moves Allowed system move after := by
  obtain ⟨arrival, ha, rfl⟩ := Option.map_eq_some_iff.mp hm
  exact .arrived ha (arrives h ha)

theorem moves (h : system.Twists Allowed) (hm : system.move move = some after) :
    Moves Allowed system move after := by
  cases move with
  | connect index =>
    simp only [System.move, Option.bind_eq_bind, Option.bind_eq_some_iff, Option.pure_def] at hm
    obtain ⟨task, ht, hm⟩ := hm
    split at hm
    · rename_i since next hs
      simp only [Option.bind_eq_some_iff, Option.guard_eq_some', Bool.and_eq_true,
        decide_eq_true_eq] at hm
      obtain ⟨_, ⟨_, hfree⟩, hm⟩ := hm
      cases hm
      exact .connected rfl ht (by rw [hs]; rfl) (by rw [hs]; rfl) hfree
    · cases hm
  | turnAway index =>
    simp only [System.move, Option.bind_eq_bind, Option.bind_eq_some_iff, Option.pure_def] at hm
    obtain ⟨task, ht, hm⟩ := hm
    split at hm
    · rename_i since next hs
      split at hm
      · cases hm
        exact .turnedAway .poolClosed rfl ht (by rw [hs]; rfl) (by rw [hs]; rfl)
      · obtain ⟨_, _, hm⟩ := Option.bind_eq_some_iff.mp hm
        cases hm
        exact .turnedAway .poolTimedOut rfl ht (by rw [hs]; rfl) (by rw [hs]; rfl)
    · cases hm
  | abandon index =>
    simp only [System.move, Option.bind_eq_bind, Option.bind_eq_some_iff, Option.pure_def,
      Option.guard_eq_some', Bool.and_eq_true, decide_eq_true_eq] at hm
    obtain ⟨task, ht, deadline, hd, _, ⟨hb, _⟩, hm⟩ := hm
    split at hm
    · rename_i statement next twist hold hs
      cases hm
      have hend : statement.isEnd = false := by simpa [hs, Stage.isBounded] using hb
      exact .leftBehind rfl ht hd hs hend
    · rename_i hs
      cases hm
      exact .gaveUp rfl ht hd hb hs
  | send index => exact moves_of_arrival h hm
  | wake index => exact moves_of_arrival h hm
  | expire index => exact moves_of_arrival h hm

end System

end Passbook
