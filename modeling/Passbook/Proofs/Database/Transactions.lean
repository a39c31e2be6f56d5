import Passbook.Proofs.Database.Connections

/-! # Statements in transactions

What running a statement makes of the transaction that is open on its connection, of the locks and
of the committed books. All that it can come to is said once (`Runs`), and what later proofs know of
it follows from that. A statement that is about rows only adds to the changes of its transaction
(`run_query`); the committed books change where a transaction that was not aborted is committed, and
where a statement that writes stands alone (`books_run`). -/

namespace Passbook

namespace Statement

/-- Whether the statement is about rows, and not about the transaction that it is in. -/
def isQuery : Statement → Bool
  | begin | setLockTimeout _ | commit | rollback => false
  | _ => true

/-- Whether the statement can change rows. -/
def isWrite : Statement → Bool
  | updateAccount .. | insertAccount .. | insertEntry _ => true
  | _ => false

theorem isEnd_of_isQuery {statement : Statement} (h : statement.isQuery = true) :
    statement.isEnd = false := by
  cases statement <;> first | rfl | cases h

theorem ne_begin_of_isQuery {statement : Statement} (h : statement.isQuery = true) :
    statement ≠ .begin := by
  rintro rfl
  cases h

theorem ne_commit_of_isQuery {statement : Statement} (h : statement.isQuery = true) :
    statement ≠ .commit := by
  rintro rfl
  cases h

theorem isQuery_of_isWrite {statement : Statement} (h : statement.isWrite = true) :
    statement.isQuery = true := by
  cases statement <;> first | rfl | cases h

variable {around : Surroundings} {view : Books} {id : Int}

theorem changes_of_not_isWrite {statement : Statement} {effect : Effect statement}
    (h : statement.isWrite = false) (he : statement.effect around view = .ok effect) :
    effect.changes = .empty := by
  cases statement with
  | updateAccount | insertAccount | insertEntry => cases h
  | _ => cases he; rfl

theorem of_updateAccount {balance : Balance} {effect : Effect (updateAccount id balance)}
    (he : (updateAccount id balance).effect around view = .ok effect) :
    (view.account? id = none ∧ effect = ⟨[], .empty⟩) ∨
      ∃ row row', view.account? id = some row ∧
        row' = { row with balance := balance.value, updatedAt := around.now } ∧
        effect = ⟨[row'], ⟨[row'], []⟩⟩ := by
  simp only [Statement.effect] at he
  split at he
  · rename_i hnone
    cases he
    exact .inl ⟨hnone, rfl⟩
  · rename_i row hrow
    split at he <;> cases he
    exact .inr ⟨row, _, hrow, rfl, rfl⟩

/-- A row that is added was not there, and the new account is empty. -/
theorem newAccount_ok {owner : Uuid} {kind : AccountKind} {row : Account}
    (h : newAccount around view id owner kind = .ok row) :
    row.id = id ∧ row.balance = 0 ∧ view.account? id = none := by
  unfold newAccount at h
  repeat' split at h
  all_goals cases h
  rename_i hfree _ _
  exact ⟨rfl, rfl, by simpa using hfree⟩

theorem of_insertAccount {owner : Uuid} {kind : AccountKind}
    {effect : Effect (insertAccount id owner kind)}
    (he : (insertAccount id owner kind).effect around view = .ok effect) :
    ∃ row, newAccount around view id owner kind = .ok row ∧ effect = ⟨[row], ⟨[row], []⟩⟩ := by
  simp only [Statement.effect] at he
  cases hrow : newAccount around view id owner kind with
  | error => rw [hrow] at he; cases he
  | ok row =>
    rw [hrow] at he
    cases he
    exact ⟨row, rfl, rfl⟩

theorem of_insertEntry {entry : NewEntry} {effect : Effect (insertEntry entry)}
    (he : (insertEntry entry).effect around view = .ok effect) :
    ∃ row, newEntry around view entry = .ok row ∧ effect = ⟨[row], ⟨[], [row]⟩⟩ := by
  simp only [Statement.effect] at he
  cases hrow : newEntry around view entry with
  | error => rw [hrow] at he; cases he
  | ok row =>
    rw [hrow] at he
    cases he
    exact ⟨row, rfl, rfl⟩

end Statement

namespace Database

variable {db db' : Database} {connection : Nat} {statement : Statement}
  {transaction : Transaction} {answer : statement.Answer}

/-- The changes that a statement makes when it runs on a connection. -/
def written (db : Database) (connection : Nat) (statement : Statement) : Books :=
  if db.refusesAborted connection statement then .empty
  else match statement.effect (db.surroundings connection) (db.view connection) with
    | .ok effect => effect.changes
    | .error _ => .empty

theorem written_of_not_isWrite (db : Database) (connection : Nat) (h : statement.isWrite = false) :
    db.written connection statement = .empty := by
  unfold written
  split
  · rfl
  · split
    · exact Statement.changes_of_not_isWrite h ‹_›
    · rfl

/-- What becomes public when a statement runs on a connection: the changes of a transaction that it
commits, or its own if it stands alone. -/
def published? (db : Database) (connection : Nat) (statement : Statement) : Option Books :=
  match db.transaction? connection with
  | some transaction =>
    if statement = .commit ∧ transaction.aborted = false then some transaction.changes else none
  | none => if statement.isWrite then some (db.written connection statement) else none

/-- What becomes public has been changed by a transaction that is committed now, or is written by a
statement that stands alone. -/
theorem published?_cases {changes : Books} (h : db.published? connection statement = some changes) :
    (∃ transaction, db.transaction? connection = some transaction ∧ statement = .commit ∧
      transaction.aborted = false ∧ changes = transaction.changes) ∨
    db.transaction? connection = none ∧ statement.isWrite = true ∧
      changes = db.written connection statement := by
  unfold published? at h
  split at h
  · rename_i transaction ht
    split at h <;> cases h
    rename_i hcommit
    exact .inl ⟨transaction, ht, hcommit.1, hcommit.2, rfl⟩
  · rename_i ht
    split at h <;> cases h
    exact .inr ⟨ht, ‹_›, rfl⟩

/-- An aborted transaction refuses all but its end. -/
theorem refusesAborted_of_open (ht : db.transaction? connection = some transaction)
    (hend : statement.isEnd = false) :
    db.refusesAborted connection statement = transaction.aborted := by
  simp [refusesAborted, ht, hend]

theorem exists_of_refusesAborted (h : db.refusesAborted connection statement = true) :
    ∃ transaction, db.transaction? connection = some transaction ∧ transaction.aborted = true ∧
      statement.isEnd = false := by
  unfold refusesAborted at h
  rw [Bool.and_eq_true, Option.any_eq_true, Bool.not_eq_true'] at h
  obtain ⟨⟨transaction, ht, ha⟩, hend⟩ := h
  exact ⟨transaction, ht, ha, hend⟩

theorem refusesAborted_of_closed (ht : db.transaction? connection = none) :
    db.refusesAborted connection statement = false := by
  simp [refusesAborted, ht]

/-! ## Statements about rows -/

/-- A statement about rows is refused, waits, or is performed. -/
theorem run_eq_of_isQuery (db : Database) (connection : Nat) (h : statement.isQuery = true) :
    db.run connection statement =
      if db.refusesAborted connection statement then
        .answered db (.error (.rejected .aborted))
      else if (db.obstacle? connection statement).isSome then .blocked
      else .answered (db.perform connection statement).1 (db.perform connection statement).2 := by
  cases statement with
  | begin | setLockTimeout | commit | rollback => cases h
  | _ => rfl

/-- Only a statement about rows has to wait, and only for a lock that somebody else holds. -/
theorem run_blocked (h : db.run connection statement = .blocked) :
    statement.isQuery = true ∧ (db.obstacle? connection statement).isSome = true := by
  cases hq : statement.isQuery with
  | true =>
    rw [run_eq_of_isQuery db connection hq] at h
    split at h
    · cases h
    · split at h
      · exact ⟨rfl, by assumption⟩
      · cases h
  | false =>
    cases statement with
    | begin | commit | rollback => cases h
    | setLockTimeout millis =>
      simp only [run] at h
      split at h
      · cases h
      · split at h
        · cases h
        · split at h <;> cases h
    | _ => cases hq

/-- All that running a statement can come to: the database afterwards, and the answer. -/
inductive Runs (db : Database) (connection : Nat) :
    (statement : Statement) → Database → statement.Answer → Prop
  | begun : Runs db connection .begin (db.enter connection) (.ok [])
  | committed : Runs db connection .commit (db.publish connection) (.ok [])
  | rolledBack : Runs db connection .rollback (db.forget connection) (.ok [])
  | aborted {statement : Statement} : db.refusesAborted connection statement = true →
      Runs db connection statement db (.error (.rejected .aborted))
  | outOfRange {millis : Nat} : maxLockTimeout < millis →
      Runs db connection (.setLockTimeout millis) (db.abort connection)
        (.error (.rejected (.invalidLockTimeout millis)))
  | bounded {millis : Nat} {transaction : Transaction} : millis ≤ maxLockTimeout →
      db.transaction? connection = some transaction → transaction.aborted = false →
      Runs db connection (.setLockTimeout millis)
        (db.setTransaction connection (some { transaction with lockTimeoutMillis := millis }))
        (.ok [])
  | nothingToBound {millis : Nat} : millis ≤ maxLockTimeout →
      db.transaction? connection = none → Runs db connection (.setLockTimeout millis) db (.ok [])
  | performed {statement : Statement} {effect : Effect statement} : statement.isQuery = true →
      db.refusesAborted connection statement = false → db.obstacle? connection statement = none →
      statement.effect (db.surroundings connection) (db.view connection) = .ok effect →
      Runs db connection statement
        ((db.lockFor connection statement).change connection effect.changes) (.ok effect.rows)
  | rejected {statement : Statement} {rejection : Rejection} : statement.isQuery = true →
      db.refusesAborted connection statement = false → db.obstacle? connection statement = none →
      statement.effect (db.surroundings connection) (db.view connection) = .error rejection →
      Runs db connection statement ((db.lockFor connection statement).abort connection)
        (.error (.rejected rejection))

theorem runs_of_isQuery (hq : statement.isQuery = true)
    (h : db.run connection statement = .answered db' answer) :
    db.Runs connection statement db' answer := by
  rw [run_eq_of_isQuery db connection hq] at h
  split at h
  · cases h
    exact .aborted ‹_›
  · rename_i hrefuses
    split at h
    · cases h
    · rename_i hobstacle
      rw [Bool.not_eq_true] at hrefuses
      rw [Option.not_isSome_iff_eq_none] at hobstacle
      unfold perform at h
      split at h <;> cases h
      · exact .performed hq hrefuses hobstacle ‹_›
      · exact .rejected hq hrefuses hobstacle ‹_›

theorem runs_of_run (h : db.run connection statement = .answered db' answer) :
    db.Runs connection statement db' answer := by
  cases hq : statement.isQuery with
  | true => exact runs_of_isQuery hq h
  | false =>
    cases statement with
    | begin => cases h; exact .begun
    | commit => cases h; exact .committed
    | rollback => cases h; exact .rolledBack
    | setLockTimeout millis =>
      simp only [run] at h
      split at h
      · cases h
        exact .aborted ‹_›
      · rename_i hrefuses
        split at h
        · cases h
          exact .outOfRange ‹_›
        · rename_i hrange
          split at h <;> cases h
          · rename_i transaction ht
            refine .bounded (Nat.le_of_not_lt hrange) ht ?_
            rw [refusesAborted_of_open ht rfl] at hrefuses
            exact Bool.eq_false_iff.mpr hrefuses
          · exact .nothingToBound (Nat.le_of_not_lt hrange) ‹_›
    | _ => cases hq

theorem session_lockFor (db : Database) (connection : Nat) (statement : Statement)
    (other : Nat) : ∃ waiting, (waiting = none ∨ waiting = (db.session other).waiting) ∧
      (db.lockFor connection statement).session other = { db.session other with waiting } := by
  unfold lockFor
  split
  · unfold Database.lock
    split <;> exact ⟨_, .inr rfl, rfl⟩
  · exact ⟨_, .inr rfl, rfl⟩
  · rw [session_setSession]
    split
    · rename_i h
      exact ⟨none, .inl rfl, by rw [h]⟩
    · exact ⟨_, .inr rfl, rfl⟩

theorem session_lockFor_of_open (ht : db.transaction? connection = some transaction)
    (statement : Statement) :
    (db.lockFor connection statement).session connection = db.session connection := by
  unfold lockFor
  rw [ht]
  cases statement.lockedAccount? db.books with
  | none => rfl
  | some account =>
    dsimp only
    unfold Database.lock
    split <;> rfl

theorem transaction?_lockFor (db : Database) (connection : Nat) (statement : Statement)
    (other : Nat) :
    (db.lockFor connection statement).transaction? other = db.transaction? other := by
  obtain ⟨_, -, h⟩ := session_lockFor db connection statement other
  unfold transaction?
  rw [h]

@[simp] theorem books_lockFor (db : Database) (connection : Nat) (statement : Statement) :
    (db.lockFor connection statement).books = db.books := by
  unfold lockFor
  split
  · exact books_lock _ _ _
  · rfl
  · rfl

theorem mem_locks_lockFor (h : db.transaction? connection = some transaction)
    (lock : Int × Nat) :
    lock ∈ (db.lockFor connection statement).locks ↔
      lock ∈ db.locks ∨
        lock.2 = connection ∧ statement.lockedAccount? db.books = some lock.1 := by
  obtain ⟨account, other⟩ := lock
  unfold lockFor
  rw [h]
  cases hl : statement.lockedAccount? db.books with
  | none => simp
  | some locked => simp [mem_locks_lock, and_comm, eq_comm]

/-- A statement about rows adds to the changes of the transaction it runs in, and aborts it if it is
refused; its lock is taken. -/
theorem run_query (hq : statement.isQuery = true)
    (ht : db.transaction? connection = some transaction)
    (h : db.run connection statement = .answered db' answer) :
    ∃ transaction', db'.session connection =
        { db.session connection with transaction := some transaction' } ∧
      transaction'.began = transaction.began ∧
      transaction'.changes = transaction.changes.overlay (db.written connection statement) ∧
      transaction'.aborted = (transaction.aborted || !answer.toBool) ∧
      db'.books = db.books := by
  have hrefuses := refusesAborted_of_open ht (Statement.isEnd_of_isQuery hq)
  have hlocked : (db.lockFor connection statement).transaction? connection = some transaction := by
    rw [transaction?_lockFor, ht]
  have hs := session_lockFor_of_open ht statement
  unfold written
  cases runs_of_run h with
  | begun | committed | rolledBack | outOfRange | bounded | nothingToBound => cases hq
  | aborted haborted =>
    have hsame : (db.session connection).transaction = some transaction := ht
    have ha : transaction.aborted = true := hrefuses.symm.trans haborted
    exact ⟨transaction, by rw [← hsame], rfl, by simp [haborted, Books.overlay_empty], by simp [ha],
      rfl⟩
  | @performed _ effect _ hopen _ he =>
    rw [hopen, he]
    refine ⟨{ transaction with changes := transaction.changes.overlay effect.changes },
      ?_, rfl, by simp, by simp [Except.toBool], by simp [books_change, hlocked]⟩
    rw [session_change hlocked, hs]
  | rejected _ hopen _ he =>
    rw [hopen, he]
    refine ⟨{ transaction with aborted := true }, ?_, rfl,
      by simp [Books.overlay_empty], by simp [Except.toBool], by simp⟩
    rw [session_abort hlocked, hs]

/-- The locks after a statement about rows: those before it, and that of the row it is about. -/
theorem mem_locks_run (hq : statement.isQuery = true)
    (ht : db.transaction? connection = some transaction) (ha : transaction.aborted = false)
    (h : db.run connection statement = .answered db' answer) (lock : Int × Nat) :
    lock ∈ db'.locks ↔ lock ∈ db.locks ∨
      lock.2 = connection ∧ statement.lockedAccount? db.books = some lock.1 := by
  have hrefuses := refusesAborted_of_open ht (Statement.isEnd_of_isQuery hq)
  rw [← mem_locks_lockFor ht]
  cases runs_of_run h with
  | begun | committed | rolledBack | outOfRange | bounded | nothingToBound => cases hq
  | aborted haborted => cases ha.symm.trans (hrefuses.symm.trans haborted)
  | performed => rw [locks_change]
  | rejected => rw [locks_abort]

/-! ## The connection itself -/

theorem session_set (db : Database) (connection : Nat) (transaction : Option Transaction) :
    (db.setTransaction connection transaction).session connection =
      { db.session connection with
        transaction := (db.setTransaction connection transaction).transaction? connection } := by
  simp [transaction?]

theorem session_aborted (db : Database) (connection : Nat) :
    (db.abort connection).session connection =
      { db.session connection with
        transaction := (db.abort connection).transaction? connection } := by
  unfold abort
  split
  · exact session_set ..
  · rfl

theorem session_changed (db : Database) (connection : Nat) (changes : Books) :
    (db.change connection changes).session connection =
      { db.session connection with
        transaction := (db.change connection changes).transaction? connection } := by
  unfold change
  dsimp only
  split
  · exact session_set ..
  · rfl

/-- A statement that is run does nothing to its connection but to the transaction that is open on it;
and if it has waited, it waits no longer. -/
theorem session_run (h : db.run connection statement = .answered db' answer) : ∃ waiting,
    (waiting = none ∨ waiting = (db.session connection).waiting) ∧
      db'.session connection =
        { db.session connection with transaction := db'.transaction? connection, waiting } := by
  cases runs_of_run h with
  | begun =>
    unfold enter
    split
    · exact ⟨_, .inr rfl, rfl⟩
    · exact ⟨_, .inr rfl, session_set ..⟩
  | committed => exact ⟨_, .inr rfl, by rw [transaction?, session_publish, if_pos rfl]⟩
  | rolledBack => exact ⟨_, .inr rfl, by rw [transaction?, session_forget, if_pos rfl]⟩
  | aborted | nothingToBound => exact ⟨_, .inr rfl, rfl⟩
  | outOfRange => exact ⟨_, .inr rfl, session_aborted db connection⟩
  | bounded => exact ⟨_, .inr rfl, session_set ..⟩
  | performed =>
    obtain ⟨waiting, hwaiting, hlocked⟩ := session_lockFor db connection statement connection
    exact ⟨waiting, hwaiting, by rw [session_changed, hlocked]⟩
  | rejected =>
    obtain ⟨waiting, hwaiting, hlocked⟩ := session_lockFor db connection statement connection
    exact ⟨waiting, hwaiting, by rw [session_aborted, hlocked]⟩

/-! ## Statements of every kind -/

theorem books_publish (db : Database) (connection : Nat) :
    (db.publish connection).books =
      (db.published? connection .commit).elim db.books db.books.overlay := by
  unfold publish published?
  cases ht : db.transaction? connection with
  | none => rfl
  | some transaction => cases ha : transaction.aborted <;> simp [ha]

/-- The committed books change by what the statement makes public, and by nothing else. -/
theorem books_run (h : db.run connection statement = .answered db' answer) :
    db'.books = (db.published? connection statement).elim db.books db.books.overlay := by
  have hkeep : statement ≠ .commit → statement.isWrite = false →
      (db.published? connection statement).elim db.books db.books.overlay = db.books := by
    intro hc hw
    unfold published?
    cases db.transaction? connection <;> simp [hc, hw]
  cases runs_of_run h with
  | begun => simpa using (hkeep nofun rfl).symm
  | rolledBack => simpa using (hkeep nofun rfl).symm
  | committed => exact books_publish db connection
  | outOfRange => simpa using (hkeep nofun rfl).symm
  | bounded | nothingToBound => exact (hkeep nofun rfl).symm
  | aborted haborted =>
    obtain ⟨transaction, ht, ha, -⟩ := exists_of_refusesAborted haborted
    simp [published?, ht, ha]
  | @performed _ effect hq hopen _ he =>
    have hc := Statement.ne_commit_of_isQuery hq
    rw [books_change, transaction?_lockFor, books_lockFor]
    unfold published? written
    cases ht : db.transaction? connection with
    | some transaction => simp [hc]
    | none =>
      cases hw : statement.isWrite with
      | true => simp [hopen, he]
      | false => simp [Statement.changes_of_not_isWrite hw he, Books.overlay_empty]
  | rejected hq hopen _ he =>
    have hc := Statement.ne_commit_of_isQuery hq
    unfold published? written
    cases db.transaction? connection <;> cases statement.isWrite <;>
      simp [hc, hopen, he, Books.overlay_empty]

end Database

end Passbook
