import Passbook.Database.Fault

/-! # Connections of the database

What each operation of the database does to the connection it works on (its session and its locks),
and that it leaves every other connection untouched. The books change in two places only: where a
transaction is published and where a statement outside of a transaction writes. -/

namespace Passbook.Database

variable {db db' db'' : Database} {connection other : Nat}

/-! ## Sessions -/

theorem lookup_filter_ne {α : Type} {key other : Nat} (h : other ≠ key) (rows : List (Nat × α)) :
    (rows.filter (·.1 != key)).lookup other = rows.lookup other := by
  induction rows with
  | nil => rfl
  | cons row rows ih =>
    obtain ⟨name, value⟩ := row
    by_cases hname : name = key
    · have hne : (other == name) = false := by simpa [hname] using h
      simp only [List.filter_cons, hname, bne_self_eq_false, Bool.false_eq_true, if_false]
      rw [ih, List.lookup_cons, ← hname, hne]
    · have hkept : (name != key) = true := by simpa using hname
      simp only [List.filter_cons, hkept, if_true, List.lookup_cons, ih]

theorem lookup_filter_self {α : Type} (key : Nat) (rows : List (Nat × α)) :
    (rows.filter (·.1 != key)).lookup key = none := by
  rw [List.lookup_eq_none_iff]
  intro row hrow
  rw [bne_comm]
  exact (List.mem_filter.mp hrow).2

@[simp] theorem session_setSession (db : Database) (connection other : Nat) (session : Session) :
    (db.setSession connection session).session other =
      if other = connection then session else db.session other := by
  by_cases h : other = connection
  · simp [Database.session, setSession, h]
  · have hne : (other == connection) = false := by simpa using h
    simp [Database.session, setSession, List.lookup_cons, hne, h, lookup_filter_ne h]

@[simp] theorem session_setTransaction (db : Database) (connection other : Nat)
    (transaction : Option Transaction) :
    (db.setTransaction connection transaction).session other =
      if other = connection then { db.session connection with transaction }
      else db.session other := by
  simp [setTransaction]

@[simp] theorem session_forget (db : Database) (connection other : Nat) :
    (db.forget connection).session other =
      if other = connection then { db.session connection with transaction := none }
      else db.session other := by
  simp [forget]; rfl

@[simp] theorem session_note (db : Database) (connection other : Nat) (unended : Bool) :
    (db.note connection unended).session other =
      if other = connection then { db.session connection with unended } else db.session other := by
  simp [note]

@[simp] theorem session_disconnect (db : Database) (connection other : Nat) :
    (db.disconnect connection).session other =
      if other = connection then
        { db.session connection with transaction := none, alive := false }
      else db.session other := by
  by_cases h : other = connection <;> simp [disconnect, h]

@[simp] theorem session_close (db : Database) (connection other : Nat) :
    (db.close connection).session other =
      if other = connection then .fresh else db.session other := by
  by_cases h : other = connection
  · simp [close, Database.session, h, lookup_filter_self]
  · have hforget := session_forget db connection other
    simp only [h, if_false] at hforget ⊢
    rw [← hforget]
    simp [close, Database.session, lookup_filter_ne h]

theorem session_publish (db : Database) (connection other : Nat) :
    (db.publish connection).session other =
      if other = connection then { db.session connection with transaction := none }
      else db.session other := by
  unfold publish
  cases h : db.transaction? connection with
  | none =>
    by_cases ho : other = connection
    · have hsession : (db.session connection).transaction = none := h
      simp [ho, ← hsession]
    · simp [ho]
  | some transaction =>
    by_cases ha : transaction.aborted
    · simp [ha]
    · simp only [ha, Bool.false_eq_true, if_false, session_forget]
      rfl

theorem session_abort {transaction : Transaction}
    (h : db.transaction? connection = some transaction) :
    (db.abort connection).session connection =
      { db.session connection with transaction := some { transaction with aborted := true } } := by
  simp [abort, h]

theorem session_change {transaction : Transaction}
    (h : db.transaction? connection = some transaction) (changes : Books) :
    (db.change connection changes).session connection =
      { db.session connection with
        transaction := some { transaction with changes := transaction.changes.overlay changes } } := by
  have h' : Database.transaction? { db with serial := db.serial + changes.entries.length }
      connection = some transaction := h
  simp only [change, h', session_setTransaction, if_true]
  rfl

theorem wait_of_open {transaction : Transaction}
    (h : db.transaction? connection = some transaction) : db.wait connection = db := by
  simp [wait, h]

theorem waiting_wait (ht : db.transaction? connection = none)
    (hw : (db.session connection).waiting = none) :
    ((db.wait connection).session connection).waiting = some db.clock := by
  simp [wait, ht, hw]

/-- A statement that waits has waited before or arrives now. -/
theorem of_waiting_wait {other : Nat} {time : Instant}
    (hw : ((db.wait connection).session other).waiting = some time) :
    (db.session other).waiting = some time ∨ other = connection ∧
      (db.session connection).waiting = none ∧ time = db.clock := by
  unfold wait at hw
  split at hw
  · exact .inl hw
  · rw [session_setSession] at hw
    split at hw
    · rename_i h
      subst h
      cases hbefore : (db.session other).waiting with
      | none =>
        rw [hbefore] at hw
        cases hw
        exact .inr ⟨rfl, rfl, rfl⟩
      | some before =>
        rw [hbefore] at hw
        exact .inl hw
    · exact .inl hw

/-- When a statement waits, nothing else changes in a session than that. -/
theorem session_wait (db : Database) (connection other : Nat) : ∃ waiting,
    (db.wait connection).session other = { db.session other with waiting } := by
  unfold wait
  split
  · exact ⟨_, rfl⟩
  · rw [session_setSession]
    split
    · rename_i h
      exact ⟨_, by rw [h]⟩
    · exact ⟨_, rfl⟩

@[simp] theorem transaction?_note (db : Database) (connection : Nat) (unended : Bool)
    (other : Nat) : (db.note connection unended).transaction? other = db.transaction? other := by
  by_cases h : other = connection <;> simp [transaction?, h]

@[simp] theorem transaction?_wait (db : Database) (connection other : Nat) :
    (db.wait connection).transaction? other = db.transaction? other := by
  obtain ⟨_, h⟩ := session_wait db connection other
  rw [transaction?, h]
  rfl

@[simp] theorem alive_note (db : Database) (connection : Nat) (unended : Bool) (other : Nat) :
    ((db.note connection unended).session other).alive = (db.session other).alive := by
  by_cases h : other = connection <;> simp [h]

@[simp] theorem waiting_note (db : Database) (connection : Nat) (unended : Bool) (other : Nat) :
    ((db.note connection unended).session other).waiting = (db.session other).waiting := by
  by_cases h : other = connection <;> simp [h]

/-- Nothing waits on a connection that has been closed. -/
theorem waiting_of_close {other : Nat} {time : Instant}
    (hw : ((db.close connection).session other).waiting = some time) :
    (db.session other).waiting = some time := by
  rw [session_close] at hw
  split at hw
  · cases hw
  · exact hw

@[simp] theorem alive_wait (db : Database) (connection other : Nat) :
    ((db.wait connection).session other).alive = (db.session other).alive := by
  obtain ⟨_, h⟩ := session_wait db connection other
  rw [h]

/-! ## The books -/

@[simp] theorem books_forget (db : Database) (connection : Nat) :
    (db.forget connection).books = db.books := rfl

@[simp] theorem books_disconnect (db : Database) (connection : Nat) :
    (db.disconnect connection).books = db.books := rfl

@[simp] theorem books_close (db : Database) (connection : Nat) :
    (db.close connection).books = db.books := rfl

@[simp] theorem books_note (db : Database) (connection : Nat) (unended : Bool) :
    (db.note connection unended).books = db.books := rfl

@[simp] theorem books_wait (db : Database) (connection : Nat) :
    (db.wait connection).books = db.books := by
  unfold wait; split <;> rfl

@[simp] theorem books_abort (db : Database) (connection : Nat) :
    (db.abort connection).books = db.books := by
  unfold abort; split <;> rfl

@[simp] theorem books_refuse (db : Database) (connection : Nat) (statement : Statement) :
    (db.refuse connection statement).books = db.books := by
  unfold refuse; split <;> simp

@[simp] theorem books_enter (db : Database) (connection : Nat) :
    (db.enter connection).books = db.books := by
  unfold enter; split <;> rfl

@[simp] theorem books_lock (db : Database) (connection : Nat) (account : Int) :
    (db.lock connection account).books = db.books := by
  unfold lock; split <;> rfl

theorem books_change (db : Database) (connection : Nat) (changes : Books) :
    (db.change connection changes).books =
      if (db.transaction? connection).isSome then db.books else db.books.overlay changes := by
  have h : Database.transaction? { db with serial := db.serial + changes.entries.length }
      connection = db.transaction? connection := rfl
  simp only [change, h]
  cases db.transaction? connection <;> rfl

/-! ## Locks -/

@[simp] theorem mem_locks_forget (db : Database) (connection : Nat) (account : Int) (other : Nat) :
    (account, other) ∈ (db.forget connection).locks ↔
      (account, other) ∈ db.locks ∧ other ≠ connection := by
  simp [forget, setTransaction, setSession]

theorem mem_locks_disconnect (db : Database) (connection : Nat) (account : Int) (other : Nat) :
    (account, other) ∈ (db.disconnect connection).locks ↔
      (account, other) ∈ db.locks ∧ other ≠ connection :=
  mem_locks_forget db connection account other

theorem mem_locks_close (db : Database) (connection : Nat) (account : Int) (other : Nat) :
    (account, other) ∈ (db.close connection).locks ↔
      (account, other) ∈ db.locks ∧ other ≠ connection :=
  mem_locks_forget db connection account other

theorem mem_of_holder? {account : Int} (h : db.holder? account = some connection) :
    (account, connection) ∈ db.locks := by
  obtain ⟨before, after, hl, -⟩ := List.lookup_eq_some_iff.mp h
  rw [hl]
  exact List.mem_append_right _ List.mem_cons_self

theorem mem_locks_lock (db : Database) (connection : Nat) (account : Int) (lock : Int × Nat) :
    lock ∈ (db.lock connection account).locks ↔
      lock ∈ db.locks ∨ lock = (account, connection) := by
  unfold Database.lock
  split
  · rename_i h
    constructor
    · exact Or.inl
    · rintro (hl | rfl)
      · exact hl
      · exact mem_of_holder? h
  · simp

/-- What stands in the way of a statement does not depend on when another arrived. -/
theorem obstacle?_wait (db : Database) (waiting connection : Nat) (statement : Statement) :
    (db.wait waiting).obstacle? connection statement = db.obstacle? connection statement := by
  unfold wait; split <;> rfl

theorem serial_wait (db : Database) (connection : Nat) :
    (db.wait connection).serial = db.serial := by
  unfold wait; split <;> rfl

@[simp] theorem locks_wait (db : Database) (connection : Nat) :
    (db.wait connection).locks = db.locks := by
  unfold wait; split <;> rfl

@[simp] theorem locks_abort (db : Database) (connection : Nat) :
    (db.abort connection).locks = db.locks := by
  unfold abort; split <;> rfl

@[simp] theorem locks_change (db : Database) (connection : Nat) (changes : Books) :
    (db.change connection changes).locks = db.locks := by
  unfold change; dsimp only; split <;> rfl

@[simp] theorem locks_enter (db : Database) (connection : Nat) :
    (db.enter connection).locks = db.locks := by
  unfold enter; split <;> rfl

/-! ## Other connections -/

/-- Nothing has happened to the connection, and draws are what they were. -/
structure Untouched (connection : Nat) (db db' : Database) : Prop where
  session : db'.session connection = db.session connection
  locks : ∀ account, (account, connection) ∈ db'.locks ↔ (account, connection) ∈ db.locks
  draws : db'.draws = db.draws

namespace Untouched

theorem refl (connection : Nat) (db : Database) : Untouched connection db db :=
  ⟨rfl, fun _ => Iff.rfl, rfl⟩

theorem trans (h : Untouched connection db db') (h' : Untouched connection db' db'') :
    Untouched connection db db'' :=
  ⟨h'.session.trans h.session, fun account => (h'.locks account).trans (h.locks account),
    h'.draws.trans h.draws⟩

theorem transaction? (h : Untouched connection db db') :
    db'.transaction? connection = db.transaction? connection := by
  unfold Database.transaction?
  rw [h.session]

theorem alive (h : Untouched connection db db') :
    (db'.session connection).alive = (db.session connection).alive := by
  rw [h.session]

/-- The sessions, the locks and the draws are all that counts. -/
theorem of_eq (hsessions : db'.sessions = db.sessions) (hlocks : db'.locks = db.locks)
    (hdraws : db'.draws = db.draws) : Untouched connection db db' := by
  refine ⟨?_, fun account => by rw [hlocks], hdraws⟩
  unfold Database.session
  rw [hsessions]

variable (hne : connection ≠ other)
include hne

theorem setTransaction (db : Database) (transaction : Option Transaction) :
    Untouched connection db (db.setTransaction other transaction) :=
  ⟨by simp [hne], fun _ => Iff.rfl, rfl⟩

theorem setSession (db : Database) (session : Session) :
    Untouched connection db (db.setSession other session) :=
  ⟨by simp [hne], fun _ => Iff.rfl, rfl⟩

theorem note (db : Database) (unended : Bool) :
    Untouched connection db (db.note other unended) :=
  setSession hne db _

theorem wait (db : Database) : Untouched connection db (db.wait other) := by
  unfold Database.wait
  split
  · exact refl connection db
  · exact setSession hne db _

theorem forget (db : Database) : Untouched connection db (db.forget other) :=
  ⟨by simp [hne], fun account => by simp [hne], rfl⟩

theorem disconnect (db : Database) : Untouched connection db (db.disconnect other) :=
  ⟨by simp [hne], fun account => by simp [mem_locks_disconnect, hne], rfl⟩

theorem close (db : Database) : Untouched connection db (db.close other) :=
  ⟨by simp [hne], fun account => by simp [mem_locks_close, hne], rfl⟩

theorem publish (db : Database) : Untouched connection db (db.publish other) := by
  unfold Database.publish
  split
  · rename_i transaction _
    split
    · exact forget hne db
    · have h := forget hne { db with books := db.books.overlay transaction.changes }
      exact ⟨h.session, h.locks, h.draws⟩
  · exact refl connection db

theorem enter (db : Database) : Untouched connection db (db.enter other) := by
  unfold Database.enter
  split
  · exact refl connection db
  · exact setTransaction hne db _

theorem abort (db : Database) : Untouched connection db (db.abort other) := by
  unfold Database.abort
  split
  · exact setTransaction hne db _
  · exact refl connection db

theorem refuse (db : Database) (statement : Statement) :
    Untouched connection db (db.refuse other statement) := by
  unfold Database.refuse
  split
  · exact forget hne db
  · exact abort hne db

theorem lock (db : Database) (account : Int) :
    Untouched connection db (db.lock other account) := by
  refine ⟨?_, fun account' => by simp [mem_locks_lock, hne], ?_⟩
  all_goals
    unfold Database.lock
    split <;> rfl

theorem change (db : Database) (changes : Books) :
    Untouched connection db (db.change other changes) := by
  unfold Database.change
  dsimp only
  split
  · have h := setTransaction hne { db with serial := db.serial + changes.entries.length }
    exact ⟨(h _).session, (h none).locks, rfl⟩
  · exact of_eq rfl rfl rfl

theorem lockFor (db : Database) (statement : Statement) :
    Untouched connection db (db.lockFor other statement) := by
  unfold Database.lockFor
  split
  · exact lock hne db _
  · exact refl connection db
  · exact setSession hne db _

theorem perform (db : Database) (statement : Statement) :
    Untouched connection db (db.perform other statement).1 := by
  unfold Database.perform
  split
  · exact (lockFor hne db statement).trans (change hne _ _)
  · exact (lockFor hne db statement).trans (abort hne _)

theorem run {statement : Statement} {answer : statement.Answer}
    (h : db.run other statement = .answered db' answer) : Untouched connection db db' := by
  have hperform := perform hne db statement
  cases statement with
  | begin => cases h; exact enter hne db
  | commit => cases h; exact publish hne db
  | rollback => cases h; exact forget hne db
  | setLockTimeout millis =>
    simp only [Database.run] at h
    split at h
    · cases h; exact refl connection db
    · split at h
      · cases h; exact abort hne db
      · split at h
        · cases h; exact setTransaction hne db _
        · cases h; exact refl connection db
  | _ =>
    simp only [Database.run] at h
    split at h
    · cases h; exact refl connection db
    · split at h
      · cases h
      · cases h; exact hperform

theorem twisted {statement : Statement} (db : Database) (twist : Twist)
    (answer : statement.Answer) :
    Untouched connection db (db.twisted other statement twist answer).1 := by
  unfold Database.twisted
  split
  all_goals first | exact refl connection db | exact disconnect hne db

end Untouched

end Passbook.Database
