import Passbook.Proofs.Database.Generated
import Passbook.Proofs.Database.Origins

/-! # What a connection sees of the others

A statement about one account looks at its row in the committed books and at who else has locked it, and
at nothing else that is not its own. So take two databases in which the rows of some accounts are alike
and the same others hold their locks (`Concurs`), and in each a connection that has done the same so far
(`Mirrors`): statements about these accounts that are alike wait for the same lock in both, or they are
answered alike and what the connections have done is the same again (`Mirrors.run`). -/

namespace Passbook

/-- The rows are those of the given accounts, and so are the entries. -/
structure Books.About (Mine : Int → Prop) (books : Books) : Prop where
  accounts : ∀ row ∈ books.accounts, Mine row.id
  entries : ∀ entry ∈ books.entries, Mine entry.account

namespace Books.About

variable {Mine : Int → Prop} {books books' changes : Books} {id : Int}

theorem empty (Mine : Int → Prop) : About Mine .empty :=
  ⟨fun _ hmem => absurd hmem List.not_mem_nil, fun _ hmem => absurd hmem List.not_mem_nil⟩

theorem overlay (h : About Mine books) (hc : About Mine changes) :
    About Mine (books.overlay changes) where
  accounts _ hmem := (mem_overlay hmem).elim (h.accounts _) (hc.accounts _)
  entries _ hmem := (List.mem_append.mp hmem).elim (h.entries _) (hc.entries _)

/-- Other accounts are not changed. -/
theorem account?_overlay (h : About Mine changes) (books : Books) (hid : ¬ Mine id) :
    (books.overlay changes).account? id = books.account? id := by
  rw [Books.account?_overlay]
  cases hrow : changes.accounts.reverse.find? (·.id == id) with
  | none => rfl
  | some row =>
    have hrowid : row.id = id := by simpa using List.find?_some hrow
    have hmem := List.mem_reverse.mp (List.mem_of_find?_eq_some hrow)
    exact absurd (hrowid ▸ h.accounts row hmem) hid

end Books.About

namespace Statement

variable {Mine : Int → Prop} {books books' view : Books} {around : Surroundings}
  {statement statement' : Statement} {Related : statement.Answer → statement'.Answer → Prop}

/-- The statement is about none but the given accounts. -/
def About (Mine : Int → Prop) (statement : Statement) : Prop :=
  ∀ id, statement.subject? = some id → Mine id

/-- A statement locks no row but that of the account that it is about. -/
theorem subject?_of_locked {id : Int} (h : statement.lockedAccount? books = some id) :
    statement.subject? = some id := by
  cases statement with
  | selectAccount lookup =>
    simp only [lockedAccount?] at h
    split at h
    · rw [Books.map_id_account?] at h
      split at h
      · exact h
      · cases h
    · cases h
  | updateAccount account balance =>
    rw [lockedAccount?, Books.map_id_account?] at h
    split at h
    · exact h
    · cases h
  | _ => cases h

theorem Alike.lockedAccount? (h : statement.Alike statement' Related)
    (hbooks : ∀ id, statement.subject? = some id →
      (books.account? id).map (·.core) = (books'.account? id).map (·.core)) :
    statement'.lockedAccount? books' = statement.lockedAccount? books := by
  have hid : ∀ id, statement.subject? = some id →
      (books'.account? id).map (·.id) = (books.account? id).map (·.id) := by
    intro id hsubject
    have hsome := congrArg (Option.map (·.id)) (hbooks id hsubject)
    rw [Option.map_map, Option.map_map] at hsome
    exact hsome.symm
  cases h with
  | frame _ hf => cases statement <;> first | rfl | cases hf
  | select => simp only [Statement.lockedAccount?, hid _ rfl]
  | update id => exact hid id rfl
  | insert => rfl

/-- Such a statement changes no rows but those of the account that it is about. -/
theorem Alike.changes_about (h : statement.Alike statement' Related) (hm : statement.About Mine)
    {effect : Effect statement} (he : statement.effect around view = .ok effect) :
    effect.changes.About Mine := by
  cases h with
  | frame _ hf => cases statement <;> first | (cases he; exact .empty Mine) | cases hf
  | select => cases he; exact .empty Mine
  | update id =>
    rcases of_updateAccount he with ⟨-, rfl⟩ | ⟨row, row', hrow, rfl, rfl⟩
    · exact .empty Mine
    · refine ⟨fun changed hmem => ?_, fun _ hmem => absurd hmem List.not_mem_nil⟩
      obtain rfl := List.mem_singleton.mp hmem
      have hid : row.id = id := Books.id_of_account? hrow
      exact hm _ (congrArg some hid.symm)
  | @insert entry =>
    obtain ⟨row, hrow, rfl⟩ := of_insertEntry he
    refine ⟨fun _ hmem => absurd hmem List.not_mem_nil, fun written hmem => ?_⟩
    obtain rfl := List.mem_singleton.mp hmem
    unfold newEntry at hrow
    repeat' split at hrow
    all_goals cases hrow
    exact hm _ rfl

end Statement

namespace Database

variable {db db' ended ended' : Database} {connection connection' : Nat} {hands hands' : List Nat}
  {statement statement' : Statement} {answer : statement.Answer} {answer' : statement'.Answer}
  {Mine : Int → Prop} {Related : statement.Answer → statement'.Answer → Prop} {id : Int}

/-! ## Locks of others -/

/-- The connection that holds the lock on an account's row, unless it is one of those in hand. -/
def rival? (db : Database) (hands : List Nat) (account : Int) : Option Nat :=
  (db.holder? account).filter fun holder => !hands.contains holder

theorem rival?_iff (hl : db.LocksSound) {holder : Nat} :
    db.rival? hands id = some holder ↔ db.Holds holder id ∧ holder ∉ hands := by
  rw [rival?, Option.filter_eq_some_iff, hl.holder?_iff]
  simp [Holds]

theorem lockable_eq (db : Database) (connection : Nat) (account : Int) :
    db.lockable connection account = (db.rival? [connection] account).isNone := by
  unfold lockable rival?
  cases db.holder? account with
  | none => rfl
  | some holder => by_cases h : holder = connection <;> simp [h]

/-- It is enough that nothing has happened to the others. -/
theorem rival?_of_untouched (hl : db.LocksSound) (hl' : db'.LocksSound)
    (hu : ∀ other, other ∉ hands → Untouched other db db') :
    db'.rival? hands id = db.rival? hands id := by
  refine Option.ext fun holder => ?_
  rw [rival?_iff hl, rival?_iff hl']
  exact and_congr_left fun hne => (hu holder hne).holds

/-! ## The connection itself -/

/-- The locks of a connection on which a statement has been run: they are gone with the end of the
transaction, and otherwise the one that the statement takes has been added. -/
theorem holds_run (hl : db.LocksSound) (hr : db.run connection statement = .answered ended answer) :
    ended.Holds connection id ↔ statement.isEnd = false ∧ (db.Holds connection id ∨
      (db.transaction? connection).any (fun transaction => !transaction.aborted) = true ∧
        statement.lockedAccount? db.books = some id) := by
  cases hend : statement.isEnd with
  | true =>
    refine iff_of_false (fun hheld => ?_) (by simp)
    have hopen := (hl.run hr).isSome id connection hheld
    rw [transaction?_run_end hend hr] at hopen
    cases hopen
  | false =>
    cases hq : statement.isQuery with
    | true =>
      cases ht : db.transaction? connection with
      | none => simp [Holds, (run_outside_leaves hq ht hr).2]
      | some transaction =>
        cases ha : transaction.aborted with
        | false => simp [Holds, mem_locks_run hq ht ha hr, ha]
        | true =>
          have hrefuses := (refusesAborted_of_open ht hend).trans ha
          cases runs_of_run hr with
          | begun | committed | rolledBack | outOfRange | bounded | nothingToBound => cases hq
          | aborted => simp [ha]
          | performed _ hopen | rejected _ hopen => cases hopen.symm.trans hrefuses
    | false =>
      have hlocked : statement.lockedAccount? db.books = none := by
        cases statement <;> first | rfl | cases hq
      suffices hlocks : ended.locks = db.locks by simp [Holds, hlocks, hlocked]
      cases runs_of_run hr with
      | begun => exact locks_enter db connection
      | aborted | bounded | nothingToBound => rfl
      | outOfRange => exact locks_abort db connection
      | committed | rolledBack => cases hend
      | performed hquery | rejected hquery => cases hq.symm.trans hquery

/-- What an answer leaves of the locks on its connection: all of them, or none, or the statement has
taken one more. -/
theorem Tells.holds_cases {Allowed : Twist → Prop} {ran : Bool}
    (h : db.Tells Allowed connection statement ended ran answer) (hl : db.LocksSound) :
    (∀ id, ended.Holds connection id ↔ db.Holds connection id) ∨
      (∀ id, ¬ ended.Holds connection id) ∨
        ∃ locked, statement.lockedAccount? db.books = some locked ∧
          ∀ id, ended.Holds connection id ↔ db.Holds connection id ∨ id = locked := by
  cases h with
  | dead => exact .inl fun _ => Iff.rfl
  | @living met ended _ answer _ hmet hanswers =>
    have hsame : met.books = db.books ∧ met.locks = db.locks := by
      rcases hmet with rfl | ⟨-, rfl⟩ <;> exact ⟨rfl, rfl⟩
    have hmetsound : met.LocksSound := by
      rcases hmet with rfl | ⟨-, rfl⟩
      · exact hl
      · exact hl.note ..
    suffices hended : (∀ id, ended.Holds connection id ↔ met.Holds connection id) ∨
        (∀ id, ¬ ended.Holds connection id) ∨
          ∃ locked, statement.lockedAccount? met.books = some locked ∧
            ∀ id, ended.Holds connection id ↔ met.Holds connection id ∨ id = locked by
      simp only [Holds, hsame] at hended ⊢
      split
      · exact hended
      · exact hended
    cases hanswers with
    | dead | aborted => exact .inl fun _ => Iff.rfl
    | refused rejection =>
      unfold refuse
      split
      · exact .inr (.inl fun id => by simp [Holds])
      · exact .inl fun id => by simp [Holds]
    | lost => exact .inr (.inl fun id => by simp [Holds, mem_locks_disconnect])
    | @ran ended answer twist _ hr =>
      rcases twisted_cases ended connection twist answer with ⟨hdb, -⟩ | ⟨-, htwisted⟩
      · rw [hdb]
        have hheld := fun id => @holds_run _ _ _ _ _ id hmetsound hr
        cases hend : statement.isEnd with
        | true => exact .inr (.inl fun id => by simp [hheld, hend])
        | false =>
          by_cases hopen :
              (met.transaction? connection).any (fun transaction => !transaction.aborted) = true
          · cases hlocked : statement.lockedAccount? met.books with
            | none => exact .inl fun id => by simp [hheld, hend, hlocked]
            | some locked =>
              refine .inr (.inr ⟨locked, rfl, fun id => ?_⟩)
              simp [hheld, hend, hopen, hlocked, eq_comm]
          · exact .inl fun id => by simp [hheld, hend, hopen]
      · rw [htwisted]
        exact .inr (.inl fun id => by simp [Holds, mem_locks_disconnect])

/-! ## Two databases -/

/-- The rows of the given accounts are alike in the committed books, and the same others have locked
them, where some connections are left out of account. -/
structure Concurs (Mine : Int → Prop) (hands hands' : List Nat) (db db' : Database) : Prop where
  rows : ∀ id, Mine id →
    (db.books.account? id).map (·.core) = (db'.books.account? id).map (·.core)
  rivals : ∀ id, Mine id → db.rival? hands id = db'.rival? hands' id

/-- What has been done on the one connection is what has been done on the other one in the other
database, and all of it was about the given accounts. -/
structure Mirrors (Mine : Int → Prop) (connection connection' : Nat) (db db' : Database) : Prop where
  alive : (db'.session connection').alive = (db.session connection).alive
  unended : (db'.session connection').unended = (db.session connection).unended
  transaction : Matches connection connection' db db'
  holds : ∀ id, db'.Holds connection' id ↔ db.Holds connection id
  mine : ∀ id, db.Holds connection id → Mine id
  changes : ∀ transaction, db.transaction? connection = some transaction →
    transaction.changes.About Mine

/-- All that has been published in both databases is alike, and it is about the given accounts. -/
def ChangeAlike (Mine : Int → Prop) (db db' ended ended' : Database) : Prop :=
  ∃ made made' : List Books, ended.books = made.foldl Books.overlay db.books ∧
    ended'.books = made'.foldl Books.overlay db'.books ∧
    made.map Books.core = made'.map Books.core ∧ ∀ changes ∈ made, changes.About Mine

namespace ChangeAlike

theorem refl (Mine : Int → Prop) (hbooks : ended.books = db.books) (hbooks' : ended'.books = db'.books) :
    ChangeAlike Mine db db' ended ended' :=
  ⟨[], [], hbooks, hbooks', rfl, fun _ hmem => absurd hmem List.not_mem_nil⟩

theorem single {changes changes' : Books} (hbooks : ended.books = db.books.overlay changes)
    (hbooks' : ended'.books = db'.books.overlay changes') (hsame : changes.core = changes'.core)
    (hm : changes.About Mine) : ChangeAlike Mine db db' ended ended' := by
  refine ⟨[changes], [changes'], hbooks, hbooks', by simp [hsame], fun made hmem => ?_⟩
  rwa [List.mem_singleton.mp hmem]

theorem trans {last last' : Database} (h : ChangeAlike Mine db db' ended ended')
    (hlast : ChangeAlike Mine ended ended' last last') : ChangeAlike Mine db db' last last' := by
  obtain ⟨made, made', hbooks, hbooks', hsame, hm⟩ := h
  obtain ⟨later, later', hlater, hlater', hsame', hm'⟩ := hlast
  refine ⟨made ++ later, made' ++ later', ?_, ?_, ?_, fun changes hmem => ?_⟩
  · rw [List.foldl_append, ← hbooks, hlater]
  · rw [List.foldl_append, ← hbooks', hlater']
  · rw [List.map_append, List.map_append, hsame, hsame']
  · exact (List.mem_append.mp hmem).elim (hm changes) (hm' changes)

/-- Rows that are alike stay alike. -/
theorem rows (h : ChangeAlike Mine db db' ended ended')
    (hrows : (db.books.account? id).map (·.core) = (db'.books.account? id).map (·.core)) :
    (ended.books.account? id).map (·.core) = (ended'.books.account? id).map (·.core) := by
  obtain ⟨made, made', hbooks, hbooks', hsame, -⟩ := h
  rw [hbooks, hbooks']
  generalize db.books = books at hrows
  generalize db'.books = books' at hrows
  clear hbooks hbooks'
  induction made generalizing made' books books' with
  | nil =>
    cases made' with
    | nil => exact hrows
    | cons => cases hsame
  | cons changes made ih =>
    cases made' with
    | nil => cases hsame
    | cons changes' made' =>
      obtain ⟨hchanges, hsame⟩ := List.cons.inj hsame
      exact ih made' hsame _ _ (Books.account?_overlay_of_core hchanges hrows)

/-- The rows of all other accounts are as they were. -/
theorem elsewhere (h : ChangeAlike Mine db db' ended ended') (hid : ¬ Mine id) :
    ended.books.account? id = db.books.account? id := by
  obtain ⟨made, -, hbooks, -, -, hm⟩ := h
  rw [hbooks]
  generalize db.books = books
  clear hbooks
  induction made generalizing books with
  | nil => rfl
  | cons changes made ih =>
    rw [List.foldl_cons, ih (fun other hmem => hm other (List.mem_cons_of_mem _ hmem)),
      (hm changes List.mem_cons_self).account?_overlay books hid]

/-- The entries that have come in are alike. -/
theorem entries (h : ChangeAlike Mine db db' ended ended') :
    ∃ added added', ended.books.entries = db.books.entries ++ added ∧
      ended'.books.entries = db'.books.entries ++ added' ∧
      added.map (·.core) = added'.map (·.core) := by
  obtain ⟨made, made', hbooks, hbooks', hsame, -⟩ := h
  have hentries : ∀ (made : List Books) (books : Books),
      (made.foldl Books.overlay books).entries = books.entries ++ made.flatMap (·.entries) := by
    intro made
    induction made with
    | nil => simp
    | cons changes made ih =>
      intro books
      rw [List.foldl_cons, ih, Books.overlay, List.flatMap_cons, List.append_assoc]
  have hcores : ∀ made : List Books,
      (made.flatMap (·.entries)).map (·.core) = (made.map Books.core).flatMap (·.entries) := by
    intro made
    rw [List.map_flatMap, List.flatMap_map]
    rfl
  refine ⟨made.flatMap (·.entries), made'.flatMap (·.entries), ?_, ?_, ?_⟩
  · rw [hbooks, hentries]
  · rw [hbooks', hentries]
  · rw [hcores, hcores, hsame]

end ChangeAlike

namespace Mirrors

theorem of_untouched (h : Mirrors Mine connection connection' db db')
    (hu : Untouched connection db ended) (hu' : Untouched connection' db' ended') :
    Mirrors Mine connection connection' ended ended' where
  alive := by rw [hu.session, hu'.session, h.alive]
  unended := by rw [hu.session, hu'.session, h.unended]
  transaction := h.transaction.of_eq hu.transaction? hu'.transaction?
  holds id := by rw [hu'.holds, h.holds, hu.holds]
  mine id hheld := h.mine id (hu.holds.mp hheld)
  changes transaction ht := h.changes transaction (hu.transaction?.symm.trans ht)

theorem of_fresh (h : db.session connection = .fresh) (h' : db'.session connection' = .fresh)
    (hl : db.LocksSound) (hl' : db'.LocksSound) : Mirrors Mine connection connection' db db' := by
  have hnone : ∀ {db : Database} {connection : Nat}, db.session connection = .fresh →
      db.transaction? connection = none := by
    intro db connection h
    rw [transaction?, h]
    rfl
  have hfree : ∀ {db : Database} {connection : Nat}, db.session connection = .fresh →
      db.LocksSound → ∀ id, ¬ db.Holds connection id := by
    intro db connection h hl id hheld
    have hopen := hl.isSome id connection hheld
    rw [hnone h] at hopen
    cases hopen
  refine ⟨by rw [h, h'], by rw [h, h'], .of_none (hnone h) (hnone h'), fun id => ?_, fun id hheld => ?_,
    fun transaction ht => ?_⟩
  · exact iff_of_false (hfree h' hl' id) (hfree h hl id)
  · exact absurd hheld (hfree h hl id)
  · cases (hnone h).symm.trans ht

theorem note (h : Mirrors Mine connection connection' db db') (unended : Bool) :
    Mirrors Mine connection connection' (db.note connection unended)
      (db'.note connection' unended) where
  alive := by rw [alive_note, alive_note, h.alive]
  unended := by simp
  transaction := h.transaction.of_eq (transaction?_note ..) (transaction?_note ..)
  holds := h.holds
  mine := h.mine
  changes transaction ht := h.changes transaction ((transaction?_note ..).symm.trans ht)

/-- It cannot be told when the statements arrived that wait. -/
theorem wait (h : Mirrors Mine connection connection' db db') :
    Mirrors Mine connection connection' (db.wait connection) (db'.wait connection') where
  alive := by rw [alive_wait, alive_wait, h.alive]
  unended := by
    obtain ⟨_, hsession⟩ := session_wait db connection connection
    obtain ⟨_, hsession'⟩ := session_wait db' connection' connection'
    rw [hsession, hsession']
    exact h.unended
  transaction := h.transaction.of_eq (transaction?_wait ..) (transaction?_wait ..)
  holds id := by
    rw [Holds, Holds, locks_wait, locks_wait]
    exact h.holds id
  mine id hheld := by
    rw [Holds, locks_wait] at hheld
    exact h.mine id hheld
  changes transaction ht := h.changes transaction ((transaction?_wait ..).symm.trans ht)

theorem abort (h : Mirrors Mine connection connection' db db') :
    Mirrors Mine connection connection' (db.abort connection) (db'.abort connection') where
  alive := by
    rw [session_aborted, session_aborted]
    exact h.alive
  unended := by
    rw [session_aborted, session_aborted]
    exact h.unended
  transaction := h.transaction.abort
  holds id := by
    rw [Holds, Holds, locks_abort, locks_abort]
    exact h.holds id
  mine id hheld := by
    rw [Holds, locks_abort] at hheld
    exact h.mine id hheld
  changes transaction ht := by
    obtain ⟨former, hformer, -, hchanges⟩ := transaction?_abort ht
    rw [hchanges]
    exact h.changes former hformer

end Mirrors

/-! ## Statements that are alike -/

theorem written_about (hs : statement.Alike statement' Related) (hm : statement.About Mine) :
    (db.written connection statement).About Mine :=
  written_of_effect (.empty Mine) fun _ he => hs.changes_about hm he

/-- A statement that is about a transaction does not wait. -/
theorem run_of_not_isQuery (db : Database) (connection : Nat) (h : statement.isQuery = false) :
    ∃ ended answer, db.run connection statement = .answered ended answer := by
  cases statement with
  | begin | commit | rollback => exact ⟨_, _, rfl⟩
  | setLockTimeout millis =>
    unfold run
    dsimp only
    split
    · exact ⟨_, _, rfl⟩
    split
    · exact ⟨_, _, rfl⟩
    split <;> exact ⟨_, _, rfl⟩
  | _ => cases h

/-- The lock that is in the way of the one is in the way of the other. -/
theorem Concurs.obstacle? (hc : Concurs Mine [connection] [connection'] db db')
    (hs : statement.Alike statement' Related) (hm : statement.About Mine) :
    db'.obstacle? connection' statement' = db.obstacle? connection statement := by
  unfold Database.obstacle?
  rw [hs.lockedAccount? fun id hid => hc.rows id (hm id hid)]
  cases hlocked : statement.lockedAccount? db.books with
  | none => rfl
  | some id =>
    have hrival := hc.rivals id (hm id (Statement.subject?_of_locked hlocked))
    simp [Option.filter, lockable_eq, hrival]

namespace Mirrors

section

variable (h : Mirrors Mine connection connection' db db')
  (hs : statement.Alike statement' Related) (hm : statement.About Mine)
include h hs hm

/-- What is made public is about the given accounts. -/
theorem published_about {changes : Books} (hp : db.published? connection statement = some changes) :
    changes.About Mine := by
  rcases published?_cases hp with ⟨_, ht, -, -, rfl⟩ | ⟨-, -, rfl⟩
  · exact h.changes _ ht
  · exact written_about hs hm

variable (hc : Concurs Mine [connection] [connection'] db db')
include hc

theorem run_cases :
    (db.run connection statement = .blocked ∧ db'.run connection' statement' = .blocked) ∨
      ∃ ended answer ended' answer', db.run connection statement = .answered ended answer ∧
        db'.run connection' statement' = .answered ended' answer' := by
  cases hq : statement.isQuery with
  | false =>
    obtain ⟨ended, answer, hr⟩ := run_of_not_isQuery db connection hq
    obtain ⟨ended', answer', hr'⟩ := run_of_not_isQuery db' connection' (hs.isQuery.trans hq)
    exact .inr ⟨ended, answer, ended', answer', hr, hr'⟩
  | true =>
    rw [run_eq_of_isQuery db connection hq, run_eq_of_isQuery db' connection' (hs.isQuery.trans hq),
      h.transaction.refusesAborted hs.isEnd, hc.obstacle? hs hm]
    split
    · exact .inr ⟨_, _, _, _, rfl, rfl⟩
    split
    · exact .inl ⟨rfl, rfl⟩
    · exact .inr ⟨_, _, _, _, rfl, rfl⟩

/-- Both statements have to wait, or both are answered: alike, and with the same done on the connections
as far as it can be told. -/
theorem run (hl : db.LocksSound) (hl' : db'.LocksSound) :
    (db.run connection statement = .blocked ∧ db'.run connection' statement' = .blocked) ∨
      ∃ ended answer ended' answer', db.run connection statement = .answered ended answer ∧
        db'.run connection' statement' = .answered ended' answer' ∧
        Mirrors Mine connection connection' ended ended' ∧ Related answer answer' := by
  have hbooks := fun id hid => hc.rows id (hm id hid)
  rcases h.run_cases hs hm hc with hblocked | ⟨ended, answer, ended', answer', hr, hr'⟩
  · exact .inl hblocked
  obtain ⟨htransaction, hanswers⟩ := h.transaction.run hs hbooks hr hr'
  refine .inr ⟨ended, answer, ended', answer', hr, hr', ⟨?_, ?_, htransaction, ?_, ?_, ?_⟩, hanswers⟩
  · obtain ⟨_, -, hsession⟩ := session_run hr
    obtain ⟨_, -, hsession'⟩ := session_run hr'
    rw [hsession, hsession']
    exact h.alive
  · obtain ⟨_, -, hsession⟩ := session_run hr
    obtain ⟨_, -, hsession'⟩ := session_run hr'
    rw [hsession, hsession']
    exact h.unended
  · intro id
    have hopen : (db'.transaction? connection').any (fun transaction => !transaction.aborted) =
        (db.transaction? connection).any fun transaction => !transaction.aborted := by
      rcases h.transaction.cases with ⟨ht, ht'⟩ | ⟨_, _, ht, ht', -, -, haborted⟩
      · rw [ht, ht']
      · rw [ht, ht', Option.any_some, Option.any_some, haborted]
    rw [holds_run hl hr, holds_run hl' hr', hs.isEnd, h.holds, hopen, hs.lockedAccount? hbooks]
  · intro id hheld
    rcases ((holds_run hl hr).mp hheld).2 with hheld | ⟨-, hlocked⟩
    · exact h.mine id hheld
    · exact hm id (Statement.subject?_of_locked hlocked)
  · intro transaction ht
    cases run_origin hr ht with
    | continued former hformer _ hchanges =>
      rw [hchanges]
      exact (h.changes former hformer).overlay (written_about hs hm)
    | begun _ _ _ _ _ hchanges =>
      rw [hchanges]
      exact .empty Mine

/-- What is made public is alike, and it is about the given accounts. -/
theorem run_changes {answer : statement.Answer} {answer' : statement'.Answer}
    (hr : db.run connection statement = .answered ended answer)
    (hr' : db'.run connection' statement' = .answered ended' answer') :
    ChangeAlike Mine db db' ended ended' := by
  have hpublished := h.transaction.published? hs fun id hid => hc.rows id (hm id hid)
  have hbooks := books_run hr
  have hbooks' := books_run hr'
  cases hp : db.published? connection statement with
  | none =>
    rw [hp] at hpublished
    rw [hp] at hbooks
    rw [Option.map_eq_none_iff.mp hpublished.symm] at hbooks'
    exact .refl Mine hbooks hbooks'
  | some changes =>
    rw [hp] at hpublished
    obtain ⟨changes', hp', hchanges⟩ := Option.map_eq_some_iff.mp hpublished.symm
    rw [hp] at hbooks
    rw [hp'] at hbooks'
    exact .single hbooks hbooks' hchanges.symm (h.published_about hs hm hp)

end

end Mirrors

end Database

end Passbook
