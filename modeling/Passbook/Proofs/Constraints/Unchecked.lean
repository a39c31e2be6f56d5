import Passbook.Proofs.Database.Transactions
import Passbook.Proofs.System.Runs

/-! # A database that checks nothing

The same database without the CHECK and FOREIGN KEY constraints of the schema
(`Database.runUnchecked`), and systems whose statements have another meaning than that of the database
(`System.stepBy`, `RunBy`). A statement that keeps to the constraints (`Statement.Admitted`) has the
same effect with them and without them (`Statement.unchecked_eq`), and where the statements that may
come next have the same meaning, the same comes of every event (`System.stepBy_congr`). -/

namespace Passbook

namespace Statement

/-- What the statement writes keeps to the CHECK and FOREIGN KEY constraints of the schema, and the
account whose balance it sets is there. -/
def Admitted (around : Surroundings) (view : Books) : Statement → Prop
  | updateAccount id balance =>
    (view.account? id).isSome = true ∧ 0 ≤ balance.value ∧ balance.value ≤ maxMoney
  | insertAccount id owner _ => AccountId.isValid id = true ∧ owner ∈ around.users
  | insertEntry entry =>
    0 < entry.amount.value ∧ 0 ≤ entry.balanceAfter.value ∧
      (view.account? entry.account).isSome = true
  | _ => True

/-- The effect of a statement where nothing but the uniqueness of rows is checked. -/
def unchecked (around : Surroundings) (view : Books) :
    (statement : Statement) → Except Rejection (Effect statement)
  | updateAccount id balance =>
    match view.account? id with
    | none => .ok ⟨[], .empty⟩
    | some row =>
      let row := { row with balance := balance.value, updatedAt := around.now }
      .ok ⟨[row], ⟨[row], []⟩⟩
  | insertAccount id owner kind =>
    if (view.account? id).isSome then .error .accountIdTaken
    else if view.accounts.any fun row => row.owner == owner && row.kind == kind then
      .error .accountKindTaken
    else
      let row : Account :=
        { id, owner, kind, balance := 0, createdAt := around.now, updatedAt := around.now }
      .ok ⟨[row], ⟨[row], []⟩⟩
  | insertEntry entry =>
    let row : Entry :=
      { id := around.draws.uuid around.serial
        transfer := entry.transfer
        account := entry.account
        amount := entry.amount.value
        balanceAfter := entry.balanceAfter.value
        side := entry.side
        createdAt := around.now }
    .ok ⟨[row], ⟨[], [row]⟩⟩
  | statement => statement.effect around view

variable {around : Surroundings} {view : Books} {statement : Statement}

theorem unchecked_eq (h : statement.Admitted around view) :
    statement.unchecked around view = statement.effect around view := by
  cases statement with
  | updateAccount id balance =>
    obtain ⟨-, hnonneg, -⟩ := h
    cases hrow : view.account? id <;>
      simp only [unchecked, effect, hrow, if_neg (Int.not_lt.mpr hnonneg)]
  | insertAccount id owner kind =>
    obtain ⟨hvalid, howner⟩ := h
    simp only [unchecked, effect, newAccount, hvalid, Bool.true_eq_false, if_false, howner,
      not_true_eq_false]
    split
    · rfl
    · split <;> rfl
  | insertEntry entry =>
    obtain ⟨hamount, hnonneg, hexist⟩ := h
    have hpresent : ¬ (view.account? entry.account).isNone = true := by
      rw [← Option.not_isSome, hexist]
      exact Bool.false_ne_true
    simp only [unchecked, effect, newEntry, if_neg (Int.not_le.mpr hamount),
      if_neg (Int.not_lt.mpr hnonneg), if_neg hpresent]
    rfl
  | _ => rfl

end Statement

namespace Database

variable {db : Database} {connection : Nat} {statement : Statement}

/-- What comes of a statement about rows that has this effect, its lock being free. -/
def conclude (db : Database) (connection : Nat) (statement : Statement) :
    Except Rejection (Effect statement) → Database × statement.Answer
  | .ok effect =>
    ((db.lockFor connection statement).change connection effect.changes, .ok effect.rows)
  | .error rejection =>
    ((db.lockFor connection statement).abort connection, .error (.rejected rejection))

theorem perform_eq (db : Database) (connection : Nat) (statement : Statement) :
    db.perform connection statement = db.conclude connection statement
      (statement.effect (db.surroundings connection) (db.view connection)) := by
  unfold perform
  cases statement.effect (db.surroundings connection) (db.view connection) <;> rfl

/-- Runs a statement on a connection where the constraints of the schema are not checked. -/
def runUnchecked (db : Database) (connection : Nat) (statement : Statement) : Outcome statement :=
  if statement.isQuery then
    if db.refusesAborted connection statement then .answered db (.error (.rejected .aborted))
    else if (db.obstacle? connection statement).isSome then .blocked
    else
      let (db, answer) := db.conclude connection statement
        (statement.unchecked (db.surroundings connection) (db.view connection))
      .answered db answer
  else db.run connection statement

theorem runUnchecked_eq
    (h : statement.Admitted (db.surroundings connection) (db.view connection)) :
    db.runUnchecked connection statement = db.run connection statement := by
  unfold runUnchecked
  split
  · rw [run_eq_of_isQuery db connection ‹_›, perform_eq, Statement.unchecked_eq h]
  · rfl

end Database

/-- What a statement means on a connection. -/
abbrev Meaning := Database → Nat → (statement : Statement) → Outcome statement

namespace System

/-! ## Systems with another meaning of statements -/

section

variable (meaning : Meaning)

/-- The statement runs, or waits for a lock. -/
def attemptBy (system : System) (connection : Nat) (statement : Statement) (twist : Twist) :
    Fate statement :=
  match meaning system.db connection statement with
  | .blocked => .held (system.db.wait connection) twist (.locked system.now)
  | .answered db answer =>
    let (db, answer) := db.twisted connection statement twist answer
    .answered db true answer

/-- The statement meets the fault that strikes it. -/
def meetBy (system : System) (connection : Nat) (statement : Statement) :
    Option Fault → Fate statement
  | some .disconnectAfter => system.attemptBy meaning connection statement .disconnect
  | some .noRows => system.attemptBy meaning connection statement .noRows
  | some (.setBalance value) => system.attemptBy meaning connection statement (.setBalance value)
  | none => system.attemptBy meaning connection statement .none
  | fault => system.meet connection statement fault

/-- The statement is sent. -/
def sendBy (system : System) (connection : Nat) (statement : Statement) :
    System × Fate statement :=
  if (system.db.session connection).alive = false then
    (system, .answered system.db false (.error .connectionLost))
  else if system.db.refusesAborted connection statement then
    (system, .answered system.db false (.error (.rejected .aborted)))
  else
    let (fault, faults) := ArmedFault.strike statement.name system.faults
    let db := if statement = .begin then system.db.note connection true else system.db
    let system := { system with faults, db }
    (system, system.meetBy meaning connection statement fault)

/-- The statement whose turn comes with a move. -/
def arrivalBy? (system : System) : Move → Option Arrival
  | .send index => do
    let task ← system.tasks[index]?
    let .ready statement next := task.stage | none
    let connection ← task.connections.head?
    let (system, fate) := system.sendBy meaning connection statement
    return ⟨⟨index, task, connection, statement, next⟩, system, fate⟩
  | .wake index => do
    let task ← system.tasks[index]?
    let .sent statement next twist hold := task.stage | none
    let connection ← task.connections.head?
    guard (system.mayWake connection statement hold)
    return ⟨⟨index, task, connection, statement, next⟩, system,
      system.attemptBy meaning connection statement twist⟩
  | move => system.arrival? move

/-- What a move makes of the system. -/
def moveBy (system : System) : Move → Option System
  | .send index => (system.arrivalBy? meaning (.send index)).map fun ⟨sending, system, fate⟩ =>
    system.settle sending fate
  | .wake index => (system.arrivalBy? meaning (.wake index)).map fun ⟨sending, system, fate⟩ =>
    system.settle sending fate
  | move => system.move move

/-- What an event makes of the system. -/
def stepBy (system : System) : Event → Option System
  | .move move => system.moveBy meaning move
  | event => system.step event

end

variable {meaning : Meaning} {system : System} {connection : Nat} {statement : Statement}

theorem attemptBy_congr (h : meaning system.db connection statement =
      system.db.run connection statement) (twist : Twist) :
    system.attemptBy meaning connection statement twist =
      system.attempt connection statement twist := by
  cases hrun : system.db.run connection statement <;> simp only [attemptBy, attempt, h, hrun]

theorem meetBy_congr (h : meaning system.db connection statement =
      system.db.run connection statement) (fault : Option Fault) :
    system.meetBy meaning connection statement fault =
      system.meet connection statement fault := by
  rcases fault with _ | fault
  · exact attemptBy_congr h .none
  · cases fault with
    | disconnectAfter | noRows | setBalance => exact attemptBy_congr h _
    | _ => rfl

/-- The statement means in the system what it means to the database, also when its sender has noted
that it begins a transaction. -/
def Means (meaning : Meaning) (system : System) (connection : Nat) (statement : Statement) : Prop :=
  ∀ db, db = system.db ∨ statement = .begin ∧ db = system.db.note connection true →
    meaning db connection statement = db.run connection statement

theorem sendBy_congr (h : system.Means meaning connection statement) :
    system.sendBy meaning connection statement = system.send connection statement := by
  unfold sendBy send
  split
  · rfl
  · split
    · rfl
    · dsimp only
      rw [meetBy_congr]
      split
      · exact h _ (.inr ⟨‹_›, rfl⟩)
      · exact h _ (.inl rfl)

/-- The same comes of a move if all statements that may come next mean the same. -/
theorem moveBy_congr (h : ∀ task ∈ system.tasks, ∀ connection statement next,
      task.stage.work = .exec statement next → task.connections.head? = some connection →
      system.Means meaning connection statement) (move : Move) :
    system.moveBy meaning move = system.move move := by
  cases move with
  | send index =>
    suffices harrival : system.arrivalBy? meaning (.send index) = system.arrival? (.send index) by
      rw [moveBy, harrival]
      rfl
    unfold arrivalBy? arrival?
    refine Option.bind_congr fun task ht => ?_
    cases hstage : task.stage with
    | ready statement next =>
      refine Option.bind_congr fun connection hc => ?_
      rw [sendBy_congr (h task (List.mem_of_getElem? ht) connection _ _ (by rw [hstage]; rfl) hc)]
    | _ => rfl
  | wake index =>
    suffices harrival : system.arrivalBy? meaning (.wake index) = system.arrival? (.wake index) by
      rw [moveBy, harrival]
      rfl
    unfold arrivalBy? arrival?
    refine Option.bind_congr fun task ht => ?_
    cases hstage : task.stage with
    | sent statement next twist hold =>
      refine Option.bind_congr fun connection hc => ?_
      have hmeans :=
        h task (List.mem_of_getElem? ht) connection _ _ (by rw [hstage]; rfl) hc _ (.inl rfl)
      rw [attemptBy_congr hmeans]
    | _ => rfl
  | _ => rfl

theorem stepBy_congr (h : ∀ task ∈ system.tasks, ∀ connection statement next,
      task.stage.work = .exec statement next → task.connections.head? = some connection →
      system.Means meaning connection statement) (event : Event) :
    system.stepBy meaning event = system.step event := by
  cases event with
  | move move => exact moveBy_congr h move
  | _ => rfl

/-- With the meaning of the database it is the system as it is. -/
theorem stepBy_run (system : System) (event : Event) :
    system.stepBy Database.run event = system.step event :=
  stepBy_congr (fun _ _ _ _ _ _ _ _ _ => rfl) event

end System

/-- The runs of a system whose statements have another meaning. -/
inductive RunBy (meaning : Meaning) (start : System) : Past → System → Prop
  | refl : RunBy meaning start [] start
  | step {past : Past} {system after : System} {event : Event} :
      RunBy meaning start past system → system.stepBy meaning event = some after →
      RunBy meaning start (past ++ [(system, event)]) after

end Passbook
