import Passbook.Proofs.Database.Answers

/-! # What a statement depends on

A statement that reads rows only under their locks (`Statement.isGuarded`) sees nothing of the
committed books but which accounts there are, and the row that it locks. Books that agree so far
answer it in the same way (`Statement.effect_congr`). What a transaction publishes under its locks
leaves all books in agreement for whoever holds other locks (`Books.agree_overlay`). -/

namespace Passbook

namespace Books

variable {Held Held' : Int → Prop} {books books' changes written : Books} {id : Int}

/-- An account after changes is the last of its changed rows, or the row that it had. -/
theorem account?_overlay (books changes : Books) (id : Int) :
    (books.overlay changes).account? id =
      (changes.accounts.reverse.find? (·.id == id)).or (books.account? id) := by
  obtain ⟨accounts, entries⟩ := changes
  unfold overlay account?
  dsimp only
  generalize books.accounts = rows
  induction accounts generalizing rows with
  | nil => rfl
  | cons account accounts ih =>
    rw [List.foldl_cons, ih, List.reverse_cons, List.find?_append, find?_put, Option.or_assoc]
    by_cases h : account.id = id <;> simp [h]

/-- No account ever disappears. -/
theorem isSome_overlay (changes : Books) (h : (books.account? id).isSome = true) :
    ((books.overlay changes).account? id).isSome = true := by
  rw [account?_overlay, Option.isSome_or, h, Bool.or_true]

theorem id_of_account? {row : Account} (h : books.account? id = some row) : row.id = id := by
  have hid := List.find?_some h
  simpa using hid

theorem map_id_account? (books : Books) (id : Int) :
    (books.account? id).map (·.id) = if (books.account? id).isSome then some id else none := by
  cases h : books.account? id with
  | none => rfl
  | some row => simp [id_of_account? h]

theorem mem_put {account row : Account} {rows : List Account} (h : row ∈ put account rows) :
    row = account ∨ row ∈ rows := by
  induction rows with
  | nil => exact .inl (List.mem_singleton.mp h)
  | cons other rows ih =>
    unfold put at h
    split at h
    · rcases List.mem_cons.mp h with rfl | h
      · exact .inl rfl
      · exact .inr (List.mem_cons_of_mem other h)
    · rcases List.mem_cons.mp h with rfl | h
      · exact .inr List.mem_cons_self
      · exact (ih h).imp_right (List.mem_cons_of_mem other)

theorem mem_overlay {row : Account} (h : row ∈ (books.overlay changes).accounts) :
    row ∈ books.accounts ∨ row ∈ changes.accounts := by
  obtain ⟨accounts, entries⟩ := changes
  unfold overlay at h
  dsimp only at h ⊢
  generalize books.accounts = rows at h ⊢
  induction accounts generalizing rows with
  | nil => exact .inl h
  | cons account accounts ih =>
    rcases ih (put account rows) h with h | h
    · rcases mem_put h with rfl | h
      · exact .inr List.mem_cons_self
      · exact .inl h
    · exact .inr (List.mem_cons_of_mem account h)

/-! ## Agreement -/

/-- The books have the same accounts, and the same rows of the accounts that are held. -/
structure Agree (Held : Int → Prop) (books books' : Books) : Prop where
  exist : ∀ id, (books'.account? id).isSome = (books.account? id).isSome
  rows : ∀ id, Held id → books'.account? id = books.account? id

namespace Agree

theorem refl (Held : Int → Prop) (books : Books) : Agree Held books books :=
  ⟨fun _ => rfl, fun _ _ => rfl⟩

theorem account? (h : Agree Held books books')
    (hid : ∀ row, books.account? id = some row → Held id) :
    books'.account? id = books.account? id := by
  cases hrow : books.account? id with
  | some row => rw [← hrow, h.rows id (hid row hrow)]
  | none =>
    have hexist := h.exist id
    rw [hrow] at hexist
    simpa using hexist

theorem overlay (h : Agree Held books books') (changes : Books) :
    Agree Held (books.overlay changes) (books'.overlay changes) where
  exist id := by rw [account?_overlay, account?_overlay, Option.isSome_or, Option.isSome_or, h.exist]
  rows id hid := by rw [account?_overlay, account?_overlay, h.rows id hid]

end Agree

/-- All changed rows are those of accounts that exist and are held. -/
def Covers (Held : Int → Prop) (books changes : Books) : Prop :=
  ∀ row ∈ changes.accounts, Held row.id ∧ (books.account? row.id).isSome = true

namespace Covers

theorem empty (Held : Int → Prop) (books : Books) : Covers Held books .empty :=
  fun _ hrow => absurd hrow List.not_mem_nil

theorem overlay (h : Covers Held books changes) (hw : Covers Held books written) :
    Covers Held books (changes.overlay written) := fun row hrow => by
  rcases mem_overlay hrow with hrow | hrow
  · exact h row hrow
  · exact hw row hrow

theorem of_exist (h : Covers Held books changes)
    (he : ∀ id, (books.account? id).isSome = true → (books'.account? id).isSome = true) :
    Covers Held books' changes := fun row hrow =>
  ⟨(h row hrow).1, he row.id (h row hrow).2⟩

/-- Covered changes add no accounts. -/
theorem exist (h : Covers Held books changes) (id : Int) :
    ((books.overlay changes).account? id).isSome = (books.account? id).isSome := by
  rw [account?_overlay, Option.isSome_or]
  cases hrow : changes.accounts.reverse.find? (·.id == id) with
  | none => rfl
  | some row =>
    have hid : row.id = id := by simpa using List.find?_some hrow
    have hmem := List.mem_reverse.mp (List.mem_of_find?_eq_some hrow)
    rw [← hid, (h row hmem).2]
    rfl

end Covers

/-- What is published under locks is not seen by those who hold other locks. -/
theorem agree_overlay (h : Covers Held books changes) (hne : ∀ id, Held' id → ¬ Held id) :
    Agree Held' books (books.overlay changes) where
  exist := h.exist
  rows id hid := by
    rw [account?_overlay]
    cases hrow : changes.accounts.reverse.find? (·.id == id) with
    | none => rfl
    | some row =>
      have hrowid : row.id = id := by simpa using List.find?_some hrow
      have hmem := List.mem_reverse.mp (List.mem_of_find?_eq_some hrow)
      rw [← hrowid] at hid
      exact absurd (h row hmem).1 (hne row.id hid)

end Books

/-! ## Statements -/

namespace Statement

variable {Held : Int → Prop} {books books' changes : Books} {around around' : Surroundings}
  {statement : Statement}

/-- Whether the statement reads rows only under their locks. -/
def isGuarded : Statement → Bool
  | selectAccount lookup => lookup.locking
  | updateAccount .. | insertEntry _ => true
  | _ => false

theorem isQuery_of_isGuarded (h : statement.isGuarded = true) : statement.isQuery = true := by
  cases statement <;> first | rfl | cases h

/-- The row that the statement locks is held. -/
def Locks (Held : Int → Prop) (books : Books) (statement : Statement) : Prop :=
  ∀ account, statement.lockedAccount? books = some account → Held account

theorem lockedAccount?_congr (ha : books.Agree Held books') :
    statement.lockedAccount? books' = statement.lockedAccount? books := by
  have hmap : ∀ id, (books'.account? id).map (·.id) = (books.account? id).map (·.id) := by
    intro id
    rw [Books.map_id_account?, Books.map_id_account?, ha.exist]
  cases statement with
  | selectAccount lookup => simp only [lockedAccount?, hmap]
  | updateAccount id balance => exact hmap id
  | _ => rfl

/-- The account that a guarded statement reads is held, if there is one. -/
theorem Locks.of_account? (hl : statement.Locks Held books) {id : Int} {row : Account}
    (hid : statement.lockedAccount? books = (books.account? id).map (·.id))
    (hrow : books.account? id = some row) : Held id := by
  refine hl id ?_
  rw [hid, hrow, Option.map_some, Books.id_of_account? hrow]

/-- A guarded statement does the same on books that agree on what it locks. -/
theorem effect_congr (hg : statement.isGuarded = true) (ha : books.Agree Held books')
    (hl : statement.Locks Held books) (hnow : around'.now = around.now)
    (hserial : around'.serial = around.serial) (hdraws : around'.draws = around.draws) :
    statement.effect around' (books'.overlay changes) =
      statement.effect around (books.overlay changes) := by
  have hsame : ∀ id, (∀ row, books.account? id = some row → Held id) →
      (books'.overlay changes).account? id = (books.overlay changes).account? id := by
    intro id hid
    rw [Books.account?_overlay, Books.account?_overlay, ha.account? hid]
  cases statement with
  | selectAccount lookup =>
    have hlock : (selectAccount lookup).lockedAccount? books =
        (books.account? lookup.id).map (·.id) := if_pos hg
    simp only [effect, hsame lookup.id fun _ => hl.of_account? hlock]
  | updateAccount id balance =>
    simp only [effect, hsame id fun _ => hl.of_account? rfl, hnow]
  | insertEntry entry =>
    have hexist := (ha.overlay changes).exist entry.account
    have hnone : ((books'.overlay changes).account? entry.account).isNone =
        ((books.overlay changes).account? entry.account).isNone := by
      rw [← Option.not_isSome, ← Option.not_isSome, hexist]
    simp only [effect, newEntry, hnone, hnow, hserial, hdraws]
  | _ => cases hg

/-- The rows that a guarded statement changes are held. -/
theorem covers_effect {effect : Effect statement} (hg : statement.isGuarded = true)
    (hl : statement.Locks Held books) (hc : books.Covers Held changes)
    (he : statement.effect around (books.overlay changes) = .ok effect) :
    books.Covers Held effect.changes := by
  cases hw : statement.isWrite with
  | false =>
    rw [changes_of_not_isWrite hw he]
    exact .empty Held books
  | true =>
    cases statement with
    | updateAccount id balance =>
      rcases of_updateAccount he with ⟨-, rfl⟩ | ⟨row, row', hrow, rfl, rfl⟩
      · exact .empty Held books
      · intro changed hchanged
        obtain rfl := List.mem_singleton.mp hchanged
        have hid : row.id = id := Books.id_of_account? hrow
        have hexist : (books.account? id).isSome = true := by
          rw [← hc.exist, hrow]
          rfl
        obtain ⟨own, hown⟩ := Option.isSome_iff_exists.mp hexist
        dsimp only
        rw [hid]
        exact ⟨hl.of_account? rfl hown, hexist⟩
    | insertEntry entry =>
      obtain ⟨_, -, rfl⟩ := of_insertEntry he
      exact fun _ hrow => absurd hrow List.not_mem_nil
    | insertAccount => cases hg
    | _ => cases hw

end Statement

/-! ## Answers -/

/-- Whether the answer is what the database has found, if it comes. -/
def Twist.isHonest : Twist → Bool
  | none | disconnect => true
  | noRows | setBalance _ => false

namespace Database

variable {db db' : Database} {connection : Nat} {statement : Statement} {transaction : Transaction}
  {ran : Bool} {rows : List statement.Row}

/-- The connection holds the lock on the account's row. -/
def Holds (db : Database) (connection : Nat) (account : Int) : Prop :=
  (account, connection) ∈ db.locks

theorem Waits.holds {other : Nat} {id : Int} (h : db.Waits connection statement db') :
    db'.Holds other id ↔ db.Holds other id := by
  rw [Holds, h.locks]
  rfl

/-- The answer to a statement about rows in a transaction is its effect on what the transaction
sees. -/
theorem run_ok (hq : statement.isQuery = true)
    (ht : db.transaction? connection = some transaction)
    (h : db.run connection statement = .answered db' (.ok rows)) :
    transaction.aborted = false ∧ ∃ effect,
      statement.effect (db.surroundings connection) (db.view connection) = .ok effect ∧
        rows = effect.rows ∧ db.written connection statement = effect.changes := by
  have hrefuses := refusesAborted_of_open ht (Statement.isEnd_of_isQuery hq)
  cases runs_of_run h with
  | begun | committed | rolledBack | bounded | nothingToBound => cases hq
  | @performed _ effect _ hopen _ he =>
    refine ⟨hrefuses.symm.trans hopen, effect, he, rfl, ?_⟩
    simp [written, hopen, he]

/-- A fault changes rows on their way or keeps them back, but it does not add any. -/
theorem length_le_of_twisted {twist : Twist} {found : List statement.Row}
    (h : (db.twisted connection statement twist (.ok found)).2 = .ok rows) :
    rows.length ≤ found.length := by
  cases twist with
  | none => cases h; exact Nat.le_refl _
  | noRows => cases h; exact Nat.zero_le _
  | disconnect => cases h
  | setBalance value =>
    cases h
    refine Nat.le_of_eq ?_
    cases statement <;> first | rfl | exact List.length_map _

/-- Rows come from a statement that has run, whatever a fault has made of them. -/
theorem Tells.carried {Allowed : Twist → Prop}
    (h : db.Tells Allowed connection statement db' ran (.ok rows))
    (hq : statement.isQuery = true) (ht : db.transaction? connection = some transaction) :
    transaction.aborted = false ∧ ∃ effect transaction' twist,
      statement.effect (db.surroundings connection) (db.view connection) = .ok effect ∧
        Allowed twist ∧ (db'.twisted connection statement twist (.ok effect.rows)).2 = .ok rows ∧
        db'.transaction? connection = some transaction' ∧
        transaction'.began = transaction.began ∧ transaction'.aborted = false ∧
        transaction'.changes = transaction.changes.overlay effect.changes ∧
        db'.books = db.books ∧ ∀ account, db'.Holds connection account ↔
          db.Holds connection account ∨ statement.lockedAccount? db.books = some account := by
  generalize hanswer : (.ok rows : statement.Answer) = answer at h
  cases h.answers (Statement.ne_begin_of_isQuery hq) (Statement.isEnd_of_isQuery hq) with
  | dead | aborted | refused | lost => cases hanswer
  | @ran ended own twist hallowed hr =>
    cases own with
    | error error => cases hanswer
    | ok found =>
      have hdb : (ended.twisted connection statement twist (.ok found)).1 = ended := by
        cases twist with
        | none | noRows | setBalance => rfl
        | disconnect => cases hanswer
      rw [hdb]
      obtain ⟨ha, effect, he, rfl, hwritten⟩ := run_ok hq ht hr
      obtain ⟨transaction', hsession, hbegan, hchanges, haborted, hbooks⟩ := run_query hq ht hr
      refine ⟨ha, effect, transaction', twist, he, hallowed, rfl, ?_, hbegan, ?_, ?_, hbooks, ?_⟩
      · rw [transaction?, hsession]
      · rw [haborted, ha]
        rfl
      · rw [hchanges, hwritten]
      · intro account
        simpa [Holds] using mem_locks_run hq ht ha hr (account, connection)

/-- Honestly told rows are what the transaction sees. -/
theorem Tells.performed
    (h : db.Tells (fun twist => twist.isHonest = true) connection statement db' ran (.ok rows))
    (hq : statement.isQuery = true) (ht : db.transaction? connection = some transaction) :
    transaction.aborted = false ∧ ∃ effect transaction',
      statement.effect (db.surroundings connection) (db.view connection) = .ok effect ∧
        rows = effect.rows ∧ db'.transaction? connection = some transaction' ∧
        transaction'.began = transaction.began ∧ transaction'.aborted = false ∧
        transaction'.changes = transaction.changes.overlay effect.changes ∧
        db'.books = db.books ∧ ∀ account, db'.Holds connection account ↔
          db.Holds connection account ∨ statement.lockedAccount? db.books = some account := by
  obtain ⟨ha, effect, transaction', twist, he, hhonest, htwisted, hrest⟩ := h.carried hq ht
  refine ⟨ha, effect, transaction', he, ?_, hrest⟩
  cases twist with
  | none => exact (Except.ok.inj htwisted).symm
  | disconnect => cases htwisted
  | noRows | setBalance => cases hhonest

end Database

end Passbook
