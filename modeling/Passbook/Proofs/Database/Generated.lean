import Passbook.Proofs.Database.Views

/-! # Generated values

The database generates the identifiers of entries and all times, and a transfer draws its own
identifier. What is left of rows, books and replies without these is their core. On databases that are
alike up to such values, statements that are alike are answered alike and leave the databases alike
(`Database.Alike.run`). -/

namespace Passbook

/-! ## Cores -/

/-- The row without the time of its last update. -/
def Account.core (row : Account) : Account := { row with updatedAt := ⟨0, 0⟩ }

theorem Account.id_of_core {row row' : Account} (h : row.core = row'.core) : row.id = row'.id := by
  change row.core.id = row'.core.id
  rw [h]

/-- The entry without its identifier, that of its transfer and its time. -/
def Entry.core (entry : Entry) : Entry :=
  { entry with id := .nil, transfer := .nil, createdAt := ⟨0, 0⟩ }

/-- The entry to be written, without the identifier of its transfer. -/
def NewEntry.core (entry : NewEntry) : NewEntry := { entry with transfer := .nil }

namespace Books

/-- The books with each account and each entry changed. -/
def map (onAccount : Account → Account) (onEntry : Entry → Entry) (books : Books) : Books :=
  ⟨books.accounts.map onAccount, books.entries.map onEntry⟩

def core (books : Books) : Books := ⟨books.accounts.map (·.core), books.entries.map (·.core)⟩

variable {books books' changes changes' : Books} {id : Int}

section

variable {onAccount : Account → Account} {onEntry : Entry → Entry}
  (hid : ∀ row, (onAccount row).id = row.id)
include hid

theorem account?_map (books : Books) (id : Int) :
    (books.map onAccount onEntry).account? id = (books.account? id).map onAccount := by
  unfold account? map
  rw [List.find?_map]
  congr 2
  funext row
  exact congrArg (· == id) (hid row)

theorem map_put (account : Account) (rows : List Account) :
    (put account rows).map onAccount = put (onAccount account) (rows.map onAccount) := by
  induction rows with
  | nil => rfl
  | cons row rows ih =>
    rw [List.map_cons, put, put, hid row, hid account]
    by_cases h : row.id = account.id <;> simp [h, ih]

/-- Changed books are changed part by part. -/
theorem map_overlay (books changes : Books) :
    (books.overlay changes).map onAccount onEntry =
      (books.map onAccount onEntry).overlay (changes.map onAccount onEntry) := by
  obtain ⟨accounts, entries⟩ := changes
  unfold overlay map
  dsimp only
  rw [List.map_append]
  congr 1
  generalize books.accounts = rows
  induction accounts generalizing rows with
  | nil => rfl
  | cons account accounts ih =>
    rw [List.foldl_cons, ih, map_put hid, List.map_cons, List.foldl_cons]

end

theorem account?_core (books : Books) (id : Int) :
    books.core.account? id = (books.account? id).map (·.core) :=
  @account?_map Account.core Entry.core (fun _ => rfl) books id

theorem account?_of_core (h : books.core = books'.core) (id : Int) :
    (books.account? id).map (·.core) = (books'.account? id).map (·.core) := by
  rw [← account?_core, ← account?_core, h]

theorem core_overlay (books changes : Books) :
    (books.overlay changes).core = books.core.overlay changes.core :=
  @map_overlay Account.core Entry.core (fun _ => rfl) books changes

/-- Under changes that are alike, an account is alike if it was so before. -/
theorem account?_overlay_of_core (hc : changes.core = changes'.core)
    (h : (books.account? id).map (·.core) = (books'.account? id).map (·.core)) :
    ((books.overlay changes).account? id).map (·.core) =
      ((books'.overlay changes').account? id).map (·.core) := by
  rw [← account?_core, ← account?_core, core_overlay, core_overlay, hc, account?_overlay,
    account?_overlay, account?_core, account?_core, h]

end Books

/-- Results that are the same when their values are changed: two values that are, or one error. -/
theorem cases_of_map {ε α β : Type} {f : α → β} {result result' : Except ε α}
    (h : result.map f = result'.map f) :
    (∃ value value', result = .ok value ∧ result' = .ok value' ∧ f value = f value') ∨
      ∃ error, result = .error error ∧ result' = .error error := by
  cases result with
  | error error =>
    cases result' with
    | error error' =>
      cases h
      exact .inr ⟨error, rfl, rfl⟩
    | ok value' => cases h
  | ok value =>
    cases result' with
    | error error' => cases h
    | ok value' => exact .inl ⟨value, value', rfl, rfl, Except.ok.inj h⟩

/-! ## Statements that are alike -/

/-- Answers are the same up to generated values: the same error, or rows with the same cores. -/
def Statement.AnsweredAlike {α : Type} (core : α → α) (answer answer' : Except StorageError (List α)) :
    Prop :=
  answer.map (·.map core) = answer'.map (·.map core)

namespace Statement

/-- The statements are alike, and so are their answers if they are related as given. -/
inductive Alike : (statement statement' : Statement) →
    (statement.Answer → statement'.Answer → Prop) → Prop
  | frame (statement : Statement) : statement.isQuery = false → Alike statement statement Eq
  | select {lookup : AccountLookup} : lookup.locking = true →
      Alike (.selectAccount lookup) (.selectAccount lookup) (AnsweredAlike Account.core)
  | update (id : Int) (balance : Balance) :
      Alike (.updateAccount id balance) (.updateAccount id balance) (AnsweredAlike Account.core)
  | insert {entry entry' : NewEntry} : entry.core = entry'.core →
      Alike (.insertEntry entry) (.insertEntry entry') (AnsweredAlike Entry.core)

variable {around around' : Surroundings} {view view' : Books} {statement statement' : Statement}
  {Related : statement.Answer → statement'.Answer → Prop}

theorem Alike.isQuery (h : statement.Alike statement' Related) :
    statement'.isQuery = statement.isQuery := by
  cases h <;> rfl

theorem Alike.isEnd (h : statement.Alike statement' Related) :
    statement'.isEnd = statement.isEnd := by
  cases h <;> rfl

theorem Alike.error (h : statement.Alike statement' Related) (error : StorageError) :
    Related (.error error) (.error error) := by
  cases h <;> rfl

theorem AnsweredAlike.toBool {α : Type} {core : α → α} {answer answer' : Except StorageError (List α)}
    (h : AnsweredAlike core answer answer') : answer'.toBool = answer.toBool := by
  cases answer <;> cases answer' <;> first | rfl | cases h

theorem Alike.toBool (h : statement.Alike statement' Related) {answer : statement.Answer}
    {answer' : statement'.Answer} (hr : Related answer answer') : answer'.toBool = answer.toBool := by
  cases h with
  | frame => rw [hr]
  | select | update | insert => exact AnsweredAlike.toBool hr

/-- The account that the statement reads or changes, or that its entry is about. -/
def subject? : Statement → Option Int
  | selectAccount lookup => some lookup.id
  | updateAccount id _ => some id
  | insertEntry entry => some entry.account
  | _ => none

theorem Alike.subject? (h : statement.Alike statement' Related) :
    statement'.subject? = statement.subject? := by
  cases h with
  | frame | select | update => rfl
  | insert hentry => exact congrArg some (congrArg NewEntry.account hentry).symm

/-- The entries that are written are the same up to what is generated, or refused for one reason. -/
theorem newEntry_alike {entry entry' : NewEntry} (h : entry.core = entry'.core)
    (hv : (view.account? entry.account).map (·.core) =
      (view'.account? entry.account).map (·.core)) :
    (newEntry around view entry).map (·.core) = (newEntry around' view' entry').map (·.core) := by
  obtain ⟨transfer, account, amount, balanceAfter, side⟩ := entry
  obtain ⟨transfer', account', amount', balanceAfter', side'⟩ := entry'
  obtain ⟨-, rfl, rfl, rfl, rfl⟩ := NewEntry.mk.inj h
  have hsame := congrArg Option.isNone hv
  rw [Option.isNone_map, Option.isNone_map] at hsame
  unfold newEntry
  rw [hsame]
  split
  · rfl
  split
  · rfl
  split
  · rfl
  · simp [Except.map, Entry.core]

/-- Where the account that they are about is alike, statements that are alike have effects that are
alike. -/
theorem Alike.effect (h : statement.Alike statement' Related) (hq : statement.isQuery = true)
    (hv : ∀ id, statement.subject? = some id →
      (view.account? id).map (·.core) = (view'.account? id).map (·.core)) :
    (∃ effect effect', statement.effect around view = .ok effect ∧
        statement'.effect around' view' = .ok effect' ∧
        effect.changes.core = effect'.changes.core ∧ Related (.ok effect.rows) (.ok effect'.rows)) ∨
      ∃ rejection, statement.effect around view = .error rejection ∧
        statement'.effect around' view' = .error rejection := by
  cases h with
  | frame _ hf => cases hf.symm.trans hq
  | @select lookup _ =>
    refine .inl ⟨_, _, rfl, rfl, rfl, ?_⟩
    have hrows : (view.account? lookup.id).toList.map (·.core) =
        (view'.account? lookup.id).toList.map (·.core) := by
      rw [← Option.toList_map, hv _ rfl, Option.toList_map]
    exact congrArg Except.ok hrows
  | update id balance =>
    have hrow := hv id rfl
    simp only [Statement.effect]
    cases hfound : view.account? id with
    | none =>
      cases hfound' : view'.account? id with
      | none => exact .inl ⟨_, _, rfl, rfl, rfl, rfl⟩
      | some row' => rw [hfound, hfound'] at hrow; cases hrow
    | some row =>
      cases hfound' : view'.account? id with
      | none => rw [hfound, hfound'] at hrow; cases hrow
      | some row' =>
        rw [hfound, hfound'] at hrow
        have hcore : row.core = row'.core := Option.some.inj hrow
        dsimp only
        split
        · exact .inr ⟨_, rfl, rfl⟩
        · obtain ⟨id, owner, _, kind, createdAt, _⟩ := row
          obtain ⟨id', owner', _, kind', createdAt', _⟩ := row'
          obtain ⟨rfl, rfl, -, rfl, rfl, -⟩ := Account.mk.inj hcore
          exact .inl ⟨_, _, rfl, rfl, rfl, rfl⟩
  | @insert entry entry' hentry =>
    have hsame := @newEntry_alike around around' view view' entry entry' hentry (hv _ rfl)
    simp only [Statement.effect]
    rcases cases_of_map hsame with ⟨row, row', hnew, hnew', hcore⟩ | ⟨rejection, hnew, hnew'⟩
    · rw [hnew, hnew']
      refine .inl ⟨_, _, rfl, rfl, ?_, ?_⟩
      · simp [Books.core, hcore]
      · simp [AnsweredAlike, Except.map, hcore]
    · rw [hnew, hnew']
      exact .inr ⟨rejection, rfl, rfl⟩

theorem Alike.isWrite (h : statement.Alike statement' Related) :
    statement'.isWrite = statement.isWrite := by
  cases h <;> rfl

end Statement

/-! ## Databases that are alike -/

/-- The transaction without its time, and with the cores of its changes. -/
def Transaction.core (transaction : Transaction) : Transaction :=
  { transaction with began := ⟨0, 0⟩, changes := transaction.changes.core }

namespace Database

theorem transaction?_setTransaction (db : Database) (connection : Nat)
    (transaction : Option Transaction) :
    (db.setTransaction connection transaction).transaction? connection = transaction := by
  simp [transaction?]

theorem transaction?_forget (db : Database) (connection : Nat) :
    (db.forget connection).transaction? connection = none := by
  simp [transaction?]

/-- What is open on the one connection is the same as what is open on the other one in the other
database, up to generated values. -/
def Matches (connection connection' : Nat) (db db' : Database) : Prop :=
  (db.transaction? connection).map (·.core) = (db'.transaction? connection').map (·.core)

namespace Matches

variable {connection connection' : Nat} {db db' ended ended' : Database} {changes changes' : Books}
  {statement statement' : Statement} {Related : statement.Answer → statement'.Answer → Prop}
  {answer : statement.Answer} {answer' : statement'.Answer}

theorem of_eq (h : Matches connection connection' db db')
    (ht : ended.transaction? connection = db.transaction? connection)
    (ht' : ended'.transaction? connection' = db'.transaction? connection') :
    Matches connection connection' ended ended' := by
  rw [Matches, ht, ht', h]

theorem cases (h : Matches connection connection' db db') :
    db.transaction? connection = none ∧ db'.transaction? connection' = none ∨
      ∃ transaction transaction', db.transaction? connection = some transaction ∧
        db'.transaction? connection' = some transaction' ∧
        transaction.changes.core = transaction'.changes.core ∧
        transaction.lockTimeoutMillis = transaction'.lockTimeoutMillis ∧
        transaction.aborted = transaction'.aborted := by
  unfold Matches at h
  cases ht : db.transaction? connection with
  | none =>
    cases ht' : db'.transaction? connection' with
    | none => exact .inl ⟨rfl, rfl⟩
    | some transaction' => rw [ht, ht'] at h; cases h
  | some transaction =>
    cases ht' : db'.transaction? connection' with
    | none => rw [ht, ht'] at h; cases h
    | some transaction' =>
      rw [ht, ht'] at h
      obtain ⟨-, hchanges, hmillis, haborted⟩ := Transaction.mk.inj (Option.some.inj h)
      exact .inr ⟨transaction, transaction', rfl, rfl, hchanges, hmillis, haborted⟩

/-- Connections see an account alike that is so in the committed books. -/
theorem view (h : Matches connection connection' db db') {id : Int}
    (hbooks : (db.books.account? id).map (·.core) = (db'.books.account? id).map (·.core)) :
    ((db.view connection).account? id).map (·.core) =
      ((db'.view connection').account? id).map (·.core) := by
  unfold Database.view
  rcases h.cases with ⟨ht, ht'⟩ | ⟨transaction, transaction', ht, ht', hchanges, -⟩
  · rw [ht, ht']
    exact hbooks
  · rw [ht, ht']
    exact Books.account?_overlay_of_core hchanges hbooks

theorem refusesAborted (h : Matches connection connection' db db')
    (hend : statement'.isEnd = statement.isEnd) :
    db'.refusesAborted connection' statement' = db.refusesAborted connection statement := by
  unfold Database.refusesAborted
  rcases h.cases with ⟨ht, ht'⟩ | ⟨transaction, transaction', ht, ht', -, -, haborted⟩
  · rw [ht, ht', hend]
  · rw [ht, ht', hend, Option.any_some, Option.any_some, haborted]

theorem lockTimeoutMillis (h : Matches connection connection' db db') :
    db'.lockTimeoutMillis connection' = db.lockTimeoutMillis connection := by
  unfold Database.lockTimeoutMillis
  rcases h.cases with ⟨ht, ht'⟩ | ⟨transaction, transaction', ht, ht', -, hmillis, -⟩
  · rw [ht, ht']
  · rw [ht, ht', Option.map_some, Option.map_some, hmillis]

theorem of_none (ht : db.transaction? connection = none)
    (ht' : db'.transaction? connection' = none) : Matches connection connection' db db' := by
  rw [Matches, ht, ht']

theorem forget (db db' : Database) :
    Matches connection connection' (db.forget connection) (db'.forget connection') :=
  of_none (transaction?_forget ..) (transaction?_forget ..)

theorem setTransaction (db db' : Database) {transaction transaction' : Transaction}
    (hcore : transaction.core = transaction'.core) :
    Matches connection connection' (db.setTransaction connection (some transaction))
      (db'.setTransaction connection' (some transaction')) := by
  rw [Matches, transaction?_setTransaction, transaction?_setTransaction, Option.map_some,
    Option.map_some, hcore]

theorem abort (h : Matches connection connection' db db') :
    Matches connection connection' (db.abort connection) (db'.abort connection') := by
  unfold Database.abort
  rcases h.cases with ⟨ht, ht'⟩ | ⟨transaction, transaction', ht, ht', hchanges, hmillis, -⟩
  · rw [ht, ht']
    exact h
  · rw [ht, ht']
    exact setTransaction db db' (by simp [Transaction.core, hchanges, hmillis])

theorem change (h : Matches connection connection' db db') (hc : changes.core = changes'.core) :
    Matches connection connection' (db.change connection changes) (db'.change connection' changes') := by
  have hsame : ∀ (db : Database) (serial connection : Nat),
      Database.transaction? { db with serial } connection = db.transaction? connection :=
    fun _ _ _ => rfl
  unfold Database.change
  simp only [hsame]
  rcases h.cases with ⟨ht, ht'⟩ | ⟨transaction, transaction', ht, ht', hchanges, hmillis, haborted⟩
  · rw [ht, ht']
    exact of_none ht ht'
  · rw [ht, ht']
    refine setTransaction _ _ ?_
    simp [Transaction.core, Books.core_overlay, hchanges, hc, hmillis, haborted]

theorem publish (db db' : Database) :
    Matches connection connection' (db.publish connection) (db'.publish connection') := by
  have hnone : ∀ (db : Database) (connection : Nat),
      (db.publish connection).transaction? connection = none := by
    intro db connection
    simp [transaction?, session_publish]
  exact of_none (hnone db connection) (hnone db' connection')

theorem enter (h : Matches connection connection' db db') :
    Matches connection connection' (db.enter connection) (db'.enter connection') := by
  unfold Database.enter
  rcases h.cases with ⟨ht, ht'⟩ | ⟨transaction, transaction', ht, ht', -⟩
  · rw [ht, ht']
    exact setTransaction db db' rfl
  · rw [ht, ht']
    exact h

section

variable (h : Matches connection connection' db db') (hs : statement.Alike statement' Related)
  (hbooks : ∀ id, statement.subject? = some id →
    (db.books.account? id).map (·.core) = (db'.books.account? id).map (·.core))
include h hs hbooks

theorem run_query (hq : statement.isQuery = true)
    (hr : db.run connection statement = .answered ended answer)
    (hr' : db'.run connection' statement' = .answered ended' answer') :
    Matches connection connection' ended ended' ∧ Related answer answer' := by
  rw [run_eq_of_isQuery db connection hq] at hr
  rw [run_eq_of_isQuery db' connection' (hs.isQuery.trans hq), h.refusesAborted hs.isEnd] at hr'
  cases ha : db.refusesAborted connection statement with
  | true =>
    rw [if_pos ha] at hr hr'
    cases hr
    cases hr'
    exact ⟨h, hs.error _⟩
  | false =>
    simp only [ha, Bool.false_eq_true, if_false] at hr hr'
    split at hr
    · cases hr
    split at hr'
    · cases hr'
    cases hr
    cases hr'
    unfold perform
    have hlocked : Matches connection connection' (db.lockFor connection statement)
        (db'.lockFor connection' statement') :=
      h.of_eq (transaction?_lockFor ..) (transaction?_lockFor ..)
    rcases hs.effect hq fun id hid => h.view (hbooks id hid) with
      ⟨effect, effect', he, he', hchanges, hrows⟩ | ⟨rejection, he, he'⟩
    · rw [he, he']
      exact ⟨hlocked.change hchanges, hrows⟩
    · rw [he, he']
      exact ⟨hlocked.abort, hs.error _⟩

/-- Statements that are alike are answered alike, and what is open afterwards is alike. -/
theorem run (hr : db.run connection statement = .answered ended answer)
    (hr' : db'.run connection' statement' = .answered ended' answer') :
    Matches connection connection' ended ended' ∧ Related answer answer' := by
  cases hq : statement.isQuery with
  | true => exact h.run_query hs hbooks hq hr hr'
  | false =>
    cases hs with
    | select | update | insert => cases hq
    | frame _ _ =>
      cases statement with
      | begin => cases hr; cases hr'; exact ⟨h.enter, rfl⟩
      | commit => cases hr; cases hr'; exact ⟨publish db db', rfl⟩
      | rollback => cases hr; cases hr'; exact ⟨forget db db', rfl⟩
      | setLockTimeout millis =>
        simp only [Database.run] at hr hr'
        rw [h.refusesAborted rfl] at hr'
        split at hr
        · rw [if_pos ‹_›] at hr'
          cases hr
          cases hr'
          exact ⟨h, rfl⟩
        rw [if_neg ‹_›] at hr'
        split at hr
        · rw [if_pos ‹_›] at hr'
          cases hr
          cases hr'
          exact ⟨h.abort, rfl⟩
        rw [if_neg ‹_›] at hr'
        rcases h.cases with ⟨ht, ht'⟩ | ⟨transaction, transaction', ht, ht', hchanges, -, haborted⟩
        · rw [ht] at hr
          rw [ht'] at hr'
          cases hr
          cases hr'
          exact ⟨h, rfl⟩
        · rw [ht] at hr
          rw [ht'] at hr'
          cases hr
          cases hr'
          exact ⟨setTransaction db db' (by simp [Transaction.core, hchanges, haborted]), rfl⟩
      | _ => cases hq

/-- They write the same. -/
theorem written (hq : statement.isQuery = true) :
    (db.written connection statement).core = (db'.written connection' statement').core := by
  unfold Database.written
  rw [h.refusesAborted hs.isEnd]
  split
  · rfl
  · rcases hs.effect hq fun id hid => h.view (hbooks id hid) with
      ⟨effect, effect', he, he', hchanges, -⟩ | ⟨rejection, he, he'⟩
    · rw [he, he']
      exact hchanges
    · rw [he, he']

/-- They make the same public. -/
theorem published? :
    (db.published? connection statement).map (·.core) =
      (db'.published? connection' statement').map (·.core) := by
  have hcommit : statement = .commit ↔ statement' = .commit := by
    cases hs <;> simp
  unfold Database.published?
  rcases h.cases with ⟨ht, ht'⟩ | ⟨transaction, transaction', ht, ht', hchanges, -, haborted⟩
  · rw [ht, ht', hs.isWrite]
    dsimp only
    split
    · have hq : statement.isQuery = true := by cases statement <;> first | rfl | contradiction
      exact congrArg some (h.written hs hbooks hq)
    · rfl
  · rw [ht, ht']
    simp only [haborted, hcommit]
    split
    · exact congrArg some hchanges
    · rfl

end

end Matches

/-- The books are the same up to generated values, and so is what is open on the connection. -/
structure Alike (connection : Nat) (db db' : Database) : Prop where
  books : db.books.core = db'.books.core
  transaction : Matches connection connection db db'

namespace Alike

variable {connection : Nat} {db db' ended ended' : Database}
  {statement statement' : Statement} {Related : statement.Answer → statement'.Answer → Prop}
  {answer : statement.Answer} {answer' : statement'.Answer}

theorem refl (connection : Nat) (db : Database) : Alike connection db db := ⟨rfl, rfl⟩

theorem close (h : Alike connection db db') :
    Alike connection (db.close connection) (db'.close connection) := by
  refine ⟨h.books, .of_none ?_ ?_⟩ <;> simp [transaction?, Session.fresh]

/-- On databases that are alike, statements that are alike are answered alike, and the databases are
alike afterwards. -/
theorem run (h : Alike connection db db') (hs : statement.Alike statement' Related)
    (hr : db.run connection statement = .answered ended answer)
    (hr' : db'.run connection statement' = .answered ended' answer') :
    Alike connection ended ended' ∧ Related answer answer' := by
  have hbooks := fun id (_ : statement.subject? = some id) => Books.account?_of_core h.books id
  obtain ⟨htransaction, hanswers⟩ := h.transaction.run hs hbooks hr hr'
  refine ⟨⟨?_, htransaction⟩, hanswers⟩
  have hpublished := h.transaction.published? hs hbooks
  rw [books_run hr, books_run hr']
  cases hp : db.published? connection statement with
  | none =>
    rw [hp] at hpublished
    rw [Option.map_eq_none_iff.mp hpublished.symm]
    exact h.books
  | some changes =>
    rw [hp] at hpublished
    obtain ⟨changes', hp', hchanges⟩ := Option.map_eq_some_iff.mp hpublished.symm
    rw [hp']
    show (db.books.overlay changes).core = (db'.books.overlay changes').core
    rw [Books.core_overlay, Books.core_overlay, h.books, hchanges]

end Alike

end Database

end Passbook
