import Passbook.Proofs.UnitOfWork.Course

/-! # Statements that no fault strikes

Where no fault is armed a statement that is sent is run, or it waits for the lock on a row; and a
statement that waits is run as soon as it may be woken (`System.waits_or_told`). The beginning and the
end of a transaction neither wait nor fail, and neither does a bound on lock waits that is in range. -/

namespace Passbook

/-- Whether no transaction is refused the statement that can still be committed: it is about the
transaction, and the bound that it sets on lock waits is in range. -/
def Statement.isGranted : Statement → Bool
  | begin | commit | rollback => true
  | setLockTimeout millis => decide (millis ≤ Database.maxLockTimeout)
  | _ => false

namespace Database

variable {db db' : Database} {connection : Nat} {statement : Statement} {answer : statement.Answer}

theorem not_isQuery_of_granted (h : statement.isGranted = true) : statement.isQuery = false := by
  cases statement <;> first | rfl | cases h

theorem run_granted (h : db.run connection statement = .answered db' answer)
    (hs : statement.isGranted = true) (hopen : db.refusesAborted connection statement = false) :
    answer.toBool = true := by
  cases runs_of_run h with
  | begun | committed | rolledBack | bounded | nothingToBound | performed => rfl
  | aborted haborted => cases hopen.symm.trans haborted
  | outOfRange hrange => exact absurd (of_decide_eq_true hs) (Nat.not_le_of_lt hrange)
  | rejected hq => cases (not_isQuery_of_granted hs).symm.trans hq

theorem twisted_none (db : Database) (connection : Nat) (answer : statement.Answer) :
    db.twisted connection statement .none answer = (db, answer) := by
  cases answer <;> rfl

end Database

/-- If a statement is under way, it is one about rows and waits for a lock. -/
def Stage.AwaitsLock : Stage → Prop
  | .sent statement _ _ hold => statement.isQuery = true ∧ ∃ since, hold = .locked since
  | .queued .. | .ready .. | .finished => True

namespace System

variable {system after : System} {move : Move} {task : Task} {index connection : Nat}
  {statement : Statement} {next : statement.Answer → Work Reply}

theorem send_faultless (hf : system.faults = [])
    (halive : (system.db.session connection).alive = true)
    (haborted : system.db.refusesAborted connection statement = false) :
    ∃ db, (db = system.db ∨ statement = .begin) ∧ db.refusesAborted connection statement = false ∧
      system.send connection statement =
        ({ system with db }, attempt { system with db } connection statement .none) := by
  obtain ⟨db, now, faults, capacity, closed, inUse, nextConnection, tasks⟩ := system
  obtain rfl : faults = [] := hf
  refine ⟨if statement = .begin then db.note connection true else db, ?_, ?_, ?_⟩
  · by_cases hbegin : statement = .begin
    · exact .inr hbegin
    · exact .inl (if_neg hbegin)
  · by_cases hbegin : statement = .begin
    · rw [if_pos hbegin, Database.refusesAborted, Database.transaction?_note]
      exact haborted
    · rw [if_neg hbegin]
      exact haborted
  · have hliving : ¬ (db.session connection).alive = false := by simp [halive]
    have hopen : ¬ db.refusesAborted connection statement = true := by simp [haborted]
    unfold send
    rw [if_neg hliving, if_neg hopen]
    rfl

/-- A statement that is attempted waits for a lock, or the database answers it. -/
theorem attempt_cases (system : System) (connection : Nat) (statement : Statement) :
    system.attempt connection statement .none =
          .held (system.db.wait connection) .none (.locked system.now) ∧
        statement.isQuery = true ∧ (system.db.obstacle? connection statement).isSome = true ∨
      ∃ db answer, system.attempt connection statement .none = .answered db true answer ∧
        (statement.isGranted = true → system.db.refusesAborted connection statement = false →
          answer.toBool = true) := by
  unfold attempt
  cases hr : system.db.run connection statement with
  | blocked => exact .inl ⟨rfl, Database.run_blocked hr⟩
  | answered db answer =>
    refine .inr ⟨db, answer, ?_, Database.run_granted hr⟩
    dsimp only
    rw [Database.twisted_none]

theorem attempt_of_free (twist : Twist) (h : system.db.obstacle? connection statement = none) :
    ∃ db answer, system.attempt connection statement twist = .answered db true answer := by
  unfold attempt
  cases hr : system.db.run connection statement with
  | blocked =>
    have hsome := (Database.run_blocked hr).2
    rw [h] at hsome
    cases hsome
  | answered db answer => exact ⟨_, _, rfl⟩

/-- What a statement comes to whose turn it is, where no fault is armed: it waits for a lock, and has
not waited before, or it is answered. It is run unless it has waited too long, or cannot be. -/
theorem fate_cases {arrival : Arrival} (hf : system.faults = [])
    (hl : arrival.sending.task.stage.AwaitsLock) (ha : system.arrival? move = some arrival) :
    (arrival.sending.task.stage.isSent = false ∧ arrival.sending.statement.isQuery = true ∧
        arrival.system = system ∧ arrival.fate =
          .held (system.db.wait arrival.sending.connection) .none (.locked system.now)) ∨
      ∃ db ran answer, arrival.fate = .answered db ran answer ∧
        ((system.db.session arrival.sending.connection).alive = true →
          system.db.refusesAborted arrival.sending.connection arrival.sending.statement = false →
          (arrival.sending.statement.isGranted = true → answer.toBool = true) ∧
            (move ≠ .expire move.index → ran = true)) := by
  cases due_of_arrival ha with
  | @sent _ connection _ statement _ _ hstage =>
    dsimp only
    by_cases hdead : (system.db.session connection).alive = false
    · rw [send, if_pos hdead]
      exact .inr ⟨_, _, _, rfl, fun halive => by cases hdead.symm.trans halive⟩
    by_cases haborted : system.db.refusesAborted connection statement = true
    · rw [send, if_neg hdead, if_pos haborted]
      exact .inr ⟨_, _, _, rfl, fun _ hopen => by cases haborted.symm.trans hopen⟩
    obtain ⟨db, hdb, hopen, hsend⟩ :=
      send_faultless hf (by simpa using hdead) (by simpa using haborted)
    rw [hsend]
    rcases attempt_cases { system with db } connection statement with
      ⟨hheld, hq, -⟩ | ⟨db', answer, hanswered, hok⟩
    · obtain rfl : db = system.db := by
        rcases hdb with hdb | rfl
        · exact hdb
        · cases hq
      exact .inl ⟨by rw [hstage]; rfl, hq, rfl, hheld⟩
    · exact .inr ⟨_, _, _, hanswered, fun _ _ => ⟨fun hgranted => hok hgranted hopen, fun _ => rfl⟩⟩
  | @woken _ _ _ _ _ twist _ _ hstage _ hwake =>
    dsimp only at hl ⊢
    rw [hstage] at hl
    obtain ⟨hq, since, rfl⟩ := hl
    obtain ⟨db, answer, hanswered⟩ := attempt_of_free twist (by simpa [mayWake] using hwake)
    refine .inr ⟨_, _, _, hanswered, fun _ _ => ⟨fun hgranted => ?_, fun _ => rfl⟩⟩
    cases hq.symm.trans (Database.not_isQuery_of_granted hgranted)
  | expired _ hstage =>
    dsimp only at hl ⊢
    rw [hstage] at hl
    refine .inr ⟨_, _, _, rfl, fun _ _ => ⟨fun hgranted => ?_, fun hne => absurd rfl hne⟩⟩
    cases hl.1.symm.trans (Database.not_isQuery_of_granted hgranted)

/-- The move of a task that has something to ask, where no fault is armed and its caller does not give
up: its statement is sent and has to wait for a lock, or it is told an answer. On a living connection
and in a transaction that is not aborted, the statement has been run unless it has waited too long,
and what the database grants is not refused. -/
theorem waits_or_told (hf : system.faults = []) (ht : system.tasks[move.index]? = some task)
    (hc : task.connections.head? = some connection)
    (hd : move = .abandon move.index → task.deadline = none)
    (hw : task.stage.work = .exec statement next) (hl : task.stage.AwaitsLock)
    (hs : system.step (.move move) = some after) :
    (task.stage.isSent = false ∧ statement.isQuery = true ∧ system.told? (.move move) = none ∧
        system.sent? (.move move) = some (move.index, statement) ∧
        after = { system with db := system.db.wait connection }.setTask move.index
          { task with stage := .sent statement next .none (.locked system.now) }) ∨
      ∃ ran answer,
        system.told? (.move move) = some ⟨move.index, connection, statement, ran, answer⟩ ∧
          ((system.db.session connection).alive = true →
            system.db.refusesAborted connection statement = false →
            (statement.isGranted = true → answer.toBool = true) ∧
              (move ≠ .expire move.index → ran = true)) := by
  have htask : ∀ {other}, system.tasks[move.index]? = some other → task = other :=
    fun ho => Option.some.inj (ht.symm.trans ho)
  cases System.moves (Twists.any system) hs with
  | connected _ ho hw' | turnedAway _ _ ho hw' =>
    obtain rfl := htask ho
    cases hw.symm.trans hw'
  | gaveUp hmove ho hd' | leftBehind hmove ho hd' =>
    obtain rfl := htask ho
    cases (hd hmove).symm.trans hd'
  | @arrived arrival harrival ha =>
    have htold := told?_of_arrival harrival
    have hsent := sent?_of_arrival harrival ha
    have hown := ha.task
    obtain rfl := htask hown
    have hfate := fate_cases hf hl harrival
    obtain ⟨⟨index, sender, own, asked, then'⟩, met, fate⟩ := arrival
    obtain ⟨hindex, -, hstage, howner, -⟩ := ha
    dsimp only [Arrival.told?] at hindex hstage howner hfate hsent htold hc hw hl ⊢
    obtain rfl := hindex
    obtain rfl : own = connection := Option.some.inj (howner.symm.trans hc)
    cases hstage.symm.trans hw
    rcases hfate with ⟨hready, hq, rfl, rfl⟩ | ⟨db, ran, answer, rfl, hok⟩
    · rw [hready] at hsent
      exact .inl ⟨hready, hq, htold, hsent, rfl⟩
    · exact .inr ⟨ran, answer, htold, hok⟩

/-! ## Moves that can happen -/

section

variable (ht : system.tasks[index]? = some task)
include ht

theorem isSome_send (hs : task.stage = .ready statement next)
    (hc : task.connections.head? = some connection) :
    (system.step (.move (.send index))).isSome = true := by
  simp [step, System.move, arrival?, ht, hs, hc]

theorem isSome_wake {twist : Twist} {since : Nat}
    (hs : task.stage = .sent statement next twist (.locked since))
    (hc : task.connections.head? = some connection)
    (ho : system.db.obstacle? connection statement = none) :
    (system.step (.move (.wake index))).isSome = true := by
  simp [step, System.move, arrival?, ht, hs, hc, mayWake, ho]

theorem isSome_connect {since : Nat} {next : Except StorageError Unit → Work Reply}
    (hs : task.stage = .queued since next) (ho : system.closed = false)
    (hfree : system.inUse.length < system.capacity) :
    (system.step (.move (.connect index))).isSome = true := by
  simp [step, System.move, ht, hs, ho, hfree]

end

end System

end Passbook
