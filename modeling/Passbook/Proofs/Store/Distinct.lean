import Passbook.Proofs.Constraints.Defence
import Passbook.Proofs.Ledger.Revisions
import Passbook.Proofs.Store.Creation
import Passbook.Proofs.System.Asks

/-! # Accounts stay distinct

No two accounts have the same number, nor the same owner and kind (`Books.Distinct`). The schema checks
a new account against what its transaction sees, so this takes that no account is added while another
open transaction has added one with its number or of its kind (`Past.NamesHold`). It is so of itself
where nobody keeps a transaction open, as in runs of nothing but creations. -/

namespace Passbook

namespace Books

/-- No two accounts have the same number, and none the same owner and kind. -/
structure Distinct (books : Books) : Prop where
  ids : (books.accounts.map (·.id)).Nodup
  kinds : (books.accounts.map fun row => (row.owner, row.kind)).Nodup

variable {books : Books} {row other : Account}

/-- In distinct books, rows of one owner and kind are rows of one account. -/
theorem Distinct.id_eq (h : books.Distinct) (hmem : row ∈ books.accounts)
    (hother : other ∈ books.accounts) (howner : row.owner = other.owner)
    (hkind : row.kind = other.kind) : row.id = other.id := by
  have hsame : row = other := List.inj_on_of_nodup_map h.kinds hmem hother (by simp [howner, hkind])
  rw [hsame]

theorem distinct_of_keyed (h : books.Keyed)
    (hkinds : ∀ row ∈ books.accounts, ∀ other ∈ books.accounts, row.owner = other.owner →
      row.kind = other.kind → row.id = other.id) : books.Distinct := by
  refine ⟨h, ?_⟩
  unfold Keyed at h
  rw [List.Nodup, List.pairwise_map] at h ⊢
  refine h.imp_of_mem fun hmem hother hne hsame => ?_
  obtain ⟨howner, hkind⟩ := Prod.mk.inj hsame
  exact hne (hkinds _ hmem _ hother howner hkind)

end Books

namespace Database

variable {Allowed : Twist → Prop} {db db' : Database} {connection : Nat} {statement : Statement}
  {ran : Bool} {answer : statement.Answer} {row other : Account}

/-- No other open transaction has added an account with the number, or for the owner and of the kind,
of an account that the statement adds. -/
def NamesFree (db : Database) (connection : Nat) : Statement → Prop
  | .insertAccount id owner kind => ∀ other transaction, other ≠ connection →
      db.transaction? other = some transaction → transaction.aborted = false →
      ∀ row ∈ transaction.changes.accounts, db.books.account? row.id = none →
        row.id ≠ id ∧ ¬ (row.owner = owner ∧ row.kind = kind)
  | _ => True

theorem NamesFree.keysFree (h : db.NamesFree connection statement) :
    db.KeysFree connection statement := by
  cases statement with
  | insertAccount id owner kind =>
    intro hfree other hne halters
    obtain ⟨transaction, ht, hopen, hsome⟩ := halters
    obtain ⟨row, hrow⟩ := Option.isSome_iff_exists.mp hsome
    have hid : row.id = id := Books.id_of_account? hrow
    rw [← hid] at hfree
    exact (h other transaction hne ht hopen row (List.mem_of_find?_eq_some hrow) hfree).1 hid
  | _ => exact trivial

/-- The row is committed, or it is what an open transaction has made of one or added. -/
def InSight (db : Database) (row : Account) : Prop :=
  row ∈ db.books.accounts ∨ ∃ connection transaction, db.transaction? connection = some transaction ∧
    transaction.aborted = false ∧ row ∈ transaction.changes.accounts

/-- Rows in sight of one owner and kind are rows of one account. -/
def Distinct (db : Database) : Prop :=
  ∀ row other, db.InSight row → db.InSight other → row.owner = other.owner → row.kind = other.kind →
    row.id = other.id

theorem Distinct.of_inSight (h : db.Distinct) (hsame : ∀ row, db'.InSight row → db.InSight row) :
    db'.Distinct :=
  fun row other hrow hother => h row other (hsame row hrow) (hsame other hother)

theorem inSight_of_view (hopen : ∀ transaction, db.transaction? connection = some transaction →
    transaction.aborted = false) (hmem : row ∈ (db.view connection).accounts) : db.InSight row := by
  unfold view at hmem
  split at hmem
  · rename_i transaction ht
    rcases Books.mem_overlay hmem with hmem | hmem
    · exact .inl hmem
    · exact .inr ⟨connection, transaction, ht, hopen transaction ht, hmem⟩
  · exact .inl hmem

/-- Where a row that is written comes from: it takes the place of one in sight, or it is new. -/
inductive Wrote (db : Database) (connection : Nat) : Statement → Account → Prop
  | replaced {statement : Statement} {old row : Account} : db.InSight old → old.Same row →
      Wrote db connection statement row
  | added {id : Int} {owner : Uuid} {kind : AccountKind} {row : Account} :
      Statement.newAccount (db.surroundings connection) (db.view connection) id owner kind = .ok row →
      Wrote db connection (.insertAccount id owner kind) row

theorem wrote_of_written
    (hopen : ∀ transaction, db.transaction? connection = some transaction →
      transaction.aborted = false)
    (hmem : row ∈ (db.written connection statement).accounts) : db.Wrote connection statement row := by
  revert hmem
  refine written_of_effect (P := fun books => row ∈ books.accounts → _) nofun fun effect he hmem => ?_
  cases statement with
  | updateAccount id balance =>
    rcases Statement.of_updateAccount he with ⟨-, rfl⟩ | ⟨former, row', hformer, rfl, rfl⟩
    · cases hmem
    · obtain rfl := List.mem_singleton.mp hmem
      exact .replaced (inSight_of_view hopen (List.mem_of_find?_eq_some hformer)) ⟨rfl, rfl, rfl, rfl⟩
  | insertAccount id owner kind =>
    obtain ⟨row', hrow, rfl⟩ := Statement.of_insertAccount he
    obtain rfl := List.mem_singleton.mp hmem
    exact .added hrow
  | insertEntry entry =>
    obtain ⟨row', -, rfl⟩ := Statement.of_insertEntry he
    cases hmem
  | _ => cases he; cases hmem

/-- A row that comes in sight takes the place of one in sight, or it is new. -/
theorem Tells.inSight (h : db.Tells Allowed connection statement db' ran answer)
    (hrow : db'.InSight row) :
    db.InSight row ∨ ran = true ∧ db.Wrote connection statement row ∧
      ∀ transaction, db.transaction? connection = some transaction → transaction.aborted = false := by
  rcases hrow with hmem | ⟨other, transaction, ht, hopen, hmem⟩
  · rw [h.books] at hmem
    cases hp : (if ran then db.published? connection statement else none) with
    | none =>
      rw [hp] at hmem
      exact .inl (.inl hmem)
    | some books =>
      rw [hp] at hmem
      rcases Books.mem_overlay hmem with hmem | hmem
      · exact .inl (.inl hmem)
      · split at hp
        · rcases published?_cases hp with ⟨transaction, ht, -, hopen, rfl⟩ | ⟨hnone, -, rfl⟩
          · exact .inl (.inr ⟨connection, transaction, ht, hopen, hmem⟩)
          · have hnever : ∀ transaction, db.transaction? connection = some transaction →
                transaction.aborted = false := fun _ ht => by cases hnone.symm.trans ht
            exact .inr ⟨‹_›, wrote_of_written hnever hmem, hnever⟩
        · cases hp
  · by_cases hc : other = connection
    · subst hc
      cases h.origin ht with
      | continued former hf _ hchanges =>
        have hformer := h.unaborted hf ht hopen
        rw [hchanges] at hmem
        rcases Books.mem_overlay hmem with hmem | hmem
        · exact .inl (.inr ⟨other, former, hf, hformer, hmem⟩)
        · split at hmem
          · have honly : ∀ transaction, db.transaction? other = some transaction →
                transaction.aborted = false := fun _ ht' => by cases hf.symm.trans ht'; exact hformer
            exact .inr ⟨‹_›, wrote_of_written honly hmem, honly⟩
          · cases hmem
      | begun _ _ _ _ _ hchanges =>
        rw [hchanges] at hmem
        cases hmem
    · rw [(h.untouched hc).transaction?] at ht
      exact .inl (.inr ⟨other, transaction, ht, hopen, hmem⟩)

/-- Whoever may add an account sees one that is committed with its owner and kind, or no other open
transaction has added one. -/
theorem exists_view_of_inSight {id : Int} {owner : Uuid} {kind : AccountKind} (hkeyed : db.books.Keyed)
    (hcustody : db.Custody) (hsparing : db.Sparing)
    (hnames : db.NamesFree connection (.insertAccount id owner kind))
    (hopen : ∀ transaction, db.transaction? connection = some transaction →
      transaction.aborted = false)
    (hrow : db.InSight row) (howner : row.owner = owner) (hkind : row.kind = kind) :
    ∃ seen ∈ (db.view connection).accounts, seen.owner = owner ∧ seen.kind = kind := by
  have hcommitted : ∀ old ∈ db.books.accounts, old.owner = owner → old.kind = kind →
      ∃ seen ∈ (db.view connection).accounts, seen.owner = owner ∧ seen.kind = kind := by
    intro old hmem howner hkind
    have hold := hkeyed.account?_of_mem hmem
    cases ht : db.transaction? connection with
    | none =>
      rw [view, ht]
      exact ⟨old, hmem, howner, hkind⟩
    | some transaction =>
      have hview := (hcustody.keeps connection).account?_view ht old.id
      cases hown : transaction.changes.account? old.id with
      | none =>
        rw [hown, hold] at hview
        exact ⟨old, List.mem_of_find?_eq_some hview, howner, hkind⟩
      | some own =>
        rw [hown] at hview
        have hid : own.id = old.id := Books.id_of_account? hown
        have hsame := hsparing connection transaction ht (hopen transaction ht) own
          (List.mem_of_find?_eq_some hown) old (hid ▸ hold)
        exact ⟨own, List.mem_of_find?_eq_some hview, hsame.owner.trans howner,
          hsame.kind.trans hkind⟩
  rcases hrow with hmem | ⟨other, transaction, ht, hunaborted, hmem⟩
  · exact hcommitted row hmem howner hkind
  by_cases hc : other = connection
  · subst hc
    have hview := (hcustody.keeps other).account?_view ht row.id
    have hown := ((hcustody.keeps other).keyed transaction ht).account?_of_mem hmem
    rw [hown] at hview
    exact ⟨row, List.mem_of_find?_eq_some hview, howner, hkind⟩
  · cases hold : db.books.account? row.id with
    | none => exact absurd ⟨howner, hkind⟩ (hnames other transaction hc ht hunaborted row hmem hold).2
    | some old =>
      have hsame := hsparing other transaction ht hunaborted row hmem old hold
      exact hcommitted old (List.mem_of_find?_eq_some hold) (hsame.owner.symm.trans howner)
        (hsame.kind.symm.trans hkind)

/-- What is in sight stays distinct, whatever statement is answered. -/
theorem Distinct.tells (h : db.Distinct) (hkeyed : db.books.Keyed) (hcustody : db.Custody)
    (hsparing : db.Sparing) (hnames : ran = true → db.NamesFree connection statement)
    (htells : db.Tells Allowed connection statement db' ran answer) : db'.Distinct := by
  -- a row in sight is one of an account that was in sight, or it is the new one
  have hcases : ∀ row, db'.InSight row → (∃ old, db.InSight old ∧ old.Same row) ∨
      ∃ id owner kind, statement = .insertAccount id owner kind ∧ row.id = id ∧
        ∀ old, db.InSight old → ¬ (old.owner = row.owner ∧ old.kind = row.kind) := by
    intro row hrow
    rcases htells.inSight hrow with hrow | ⟨hran, hwrote, hopen⟩
    · exact .inl ⟨row, hrow, .refl row⟩
    cases hwrote with
    | replaced hold hsame => exact .inl ⟨_, hold, hsame⟩
    | @added id owner kind row hnew =>
      have hcreatable : Store.Creatable db.users (db.view connection) id owner kind := by
        by_contra hnot
        obtain ⟨rejection, herror, -⟩ :=
          @Store.newAccount_of_not_creatable _ _ _ _ (db.surroundings connection) hnot
        cases hnew.symm.trans herror
      have hcreated := @Store.newAccount_of_creatable _ _ _ _ (db.surroundings connection) hcreatable
      cases hnew.symm.trans hcreated
      refine .inr ⟨id, owner, kind, rfl, rfl, fun old hold hsame => ?_⟩
      obtain ⟨seen, hseen, howner, hkind⟩ := exists_view_of_inSight hkeyed hcustody hsparing
        (hnames hran) hopen hold hsame.1 hsame.2
      exact hcreatable.kindFree seen hseen howner hkind
  intro row other hrow hother howner hkind
  rcases hcases row hrow with ⟨old, hold, hsame⟩ | ⟨_, _, _, hadds, rfl, hnone⟩
  · rcases hcases other hother with ⟨old', hold', hsame'⟩ | ⟨_, _, _, -, -, hnone⟩
    · rw [hsame.id, hsame'.id]
      refine h old old' hold hold' ?_ ?_
      · rw [← hsame.owner, ← hsame'.owner, howner]
      · rw [← hsame.kind, ← hsame'.kind, hkind]
    · exact absurd ⟨hsame.owner.symm.trans howner, hsame.kind.symm.trans hkind⟩ (hnone old hold)
  · rcases hcases other hother with ⟨old', hold', hsame'⟩ | ⟨_, _, _, hadds', rfl, -⟩
    · exact absurd ⟨hsame'.owner.symm.trans howner.symm, hsame'.kind.symm.trans hkind.symm⟩
        (hnone old' hold')
    · exact (Statement.insertAccount.inj (hadds.symm.trans hadds')).1

end Database

/-! ## Along a run -/

variable {db : Database} {capacity : Nat} {past : Past} {system after : System} {event : Event}
  {connection : Nat}

/-- Whenever an account was added, no other open transaction had added one with its number or of its
kind. The keys of the table see to it: they make an addition wait for such a transaction until it has
ended. The database of the model knows no such wait, and this stands for it. -/
def Past.NamesHold (past : Past) : Prop :=
  ∀ before event told, (before, event) ∈ past → before.told? event = some told → told.ran = true →
    before.db.NamesFree told.connection told.statement

theorem Past.NamesHold.of_append {later : Past} (h : Past.NamesHold (past ++ later)) :
    past.NamesHold :=
  fun before event told hmem => h before event told (List.mem_append_left later hmem)

/-- What is relied on about the rows that come in sight. -/
structure System.Peopled (system : System) : Prop where
  underway : system.Underway
  orderly : System.Orderly [] [] system
  custody : system.db.Custody
  sparing : system.db.Sparing
  keyed : system.db.books.Keyed
  distinct : system.db.Distinct

namespace System

open Database

theorem peopled_start (hrest : db.AtRest) (hdistinct : db.books.Distinct) (capacity : Nat) :
    (start db capacity).Peopled := by
  have hnone : ∀ connection, db.transaction? connection = none := fun connection => by
    rw [transaction?, session, hrest.sessions]
    rfl
  refine ⟨underway_start db capacity, orderly_start hrest capacity, hrest.custody, ?_, hdistinct.ids, ?_⟩
  · intro connection transaction ht
    cases (hnone connection).symm.trans ht
  · have hcommitted : ∀ row, db.InSight row → row ∈ db.books.accounts := by
      rintro row (hmem | ⟨connection, transaction, ht, -⟩)
      · exact hmem
      · cases (hnone connection).symm.trans ht
    exact fun row other hrow hother => hdistinct.id_eq (hcommitted row hrow) (hcommitted other hother)

theorem Peopled.step (h : system.Peopled) (hs : system.step event = some after)
    (hnames : ∀ told, system.told? event = some told → told.ran = true →
      system.db.NamesFree told.connection told.statement) : after.Peopled := by
  obtain ⟨hu, ho, hcustody, hsparing, hkeyed, hdistinct⟩ := h
  have hkeys : system.KeysFree event := fun told htold hran => (hnames told htold hran).keysFree
  refine ⟨hu.step ho hs, ho.step hs, custody_step hu ho.locks hcustody hkeys hs,
    sparing_step hu ho.locks hcustody hkeys hs hsparing, ?_, ?_⟩
  · rw [books_step hs]
    cases system.publication? event with
    | none => exact hkeyed
    | some publication => exact hkeyed.overlay publication.2
  · have hsame : ∀ db db' : Database, db'.books = db.books →
        (∀ other transaction, db'.transaction? other = some transaction →
          db.transaction? other = some transaction) → db.Distinct → db'.Distinct := by
      intro db db' hbooks htransactions hdistinct
      refine hdistinct.of_inSight fun row hrow => ?_
      rcases hrow with hmem | ⟨other, transaction, ht, hopen, hmem⟩
      · exact .inl (hbooks ▸ hmem)
      · exact .inr ⟨other, transaction, htransactions other transaction ht, hopen, hmem⟩
    refine database_step (P := Database.Distinct) hu hs hdistinct ?_ ?_ ?_ ?_ ?_ ?_
    · exact fun db connection unended => hsame db _ rfl fun other _ ht => by
        rwa [transaction?_note] at ht
    · exact fun connection _ _ => hsame system.db _ (books_wait ..) (fun other _ ht => by
        rwa [transaction?_wait] at ht) hdistinct
    · exact fun db connection => hsame db _ rfl fun _ _ ht => transaction?_of_close ht
    · exact fun db serial _ => hsame db _ rfl fun _ _ ht => ht
    · exact fun db clock _ => hsame db _ rfl fun _ _ ht => ht
    · exact fun told _ htold htells =>
        hdistinct.tells hkeyed hcustody hsparing (hnames told htold) htells

/-- What anybody sees whose transaction is not aborted is distinct. -/
theorem Peopled.distinct_view (h : system.Peopled)
    (hopen : ∀ transaction, system.db.transaction? connection = some transaction →
      transaction.aborted = false) : (system.db.view connection).Distinct := by
  refine Books.distinct_of_keyed ?_ fun row hmem other hother => ?_
  · unfold view
    split
    · exact h.keyed.overlay _
    · exact h.keyed
  · exact h.distinct row other (inSight_of_view hopen hmem) (inSight_of_view hopen hother)

end System

theorem Run.peopled (h : Run (.start db capacity) past system) (hrest : db.AtRest)
    (hdistinct : db.books.Distinct) (hnames : past.NamesHold) : system.Peopled := by
  induction h with
  | refl => exact System.peopled_start hrest hdistinct capacity
  | @step past system after event _ hs ih =>
    refine (ih hnames.of_append).step hs fun told htold => ?_
    exact hnames system event told (List.mem_append_right _ List.mem_cons_self) htold

/-- Where no transaction has begun, none is open. -/
theorem Run.none_open (h : Run (.start db capacity) past system) (hrest : db.AtRest)
    (hnever : ∀ before event told, (before, event) ∈ past → before.told? event = some told →
      told.statement ≠ .begin) : ∀ connection, system.db.transaction? connection = none := by
  induction h with
  | refl =>
    intro connection
    show db.transaction? connection = none
    rw [Database.transaction?, Database.session, hrest.sessions]
    rfl
  | @step past system after event hrun hs ih =>
    have hnone := ih fun before event told hmem =>
      hnever before event told (List.mem_append_left _ hmem)
    have hu := hrun.underway (System.orderly_start hrest capacity) (System.underway_start db capacity)
    refine System.database_step (P := fun db => ∀ connection, db.transaction? connection = none) hu hs
      hnone ?_ ?_ ?_ ?_ ?_ ?_
    · intro db connection unended h other
      rw [Database.transaction?_note]
      exact h other
    · intro connection _ _ other
      rw [Database.transaction?_wait]
      exact hnone other
    · intro db connection h other
      cases ht : (db.close connection).transaction? other with
      | none => rfl
      | some transaction => cases (h other).symm.trans (Database.transaction?_of_close ht)
    · exact fun _ _ _ h => h
    · exact fun _ _ _ h => h
    · intro told db htold htells other
      by_cases hc : other = told.connection
      · subst hc
        cases ht : db.transaction? told.connection with
        | none => rfl
        | some transaction =>
          cases htells.origin ht with
          | continued former hf => cases (hnone _).symm.trans hf
          | begun hbegin =>
            have hmem : (system, event) ∈ past ++ [(system, event)] :=
              List.mem_append_right _ List.mem_cons_self
            exact absurd hbegin (hnever system event told hmem htold)
      · rw [(htells.untouched hc).transaction?]
        exact hnone other

namespace Store

variable {id : Int} {owner : Uuid} {kind : AccountKind} {place : Place} {drawn : Draw}
  {reply : Account → Reply} {work : Work Reply}

/-- The statements of those who create accounts. -/
inductive Adds (Number : Int → Prop) : Statement → Prop
  | account {id : Int} (owner : Uuid) (kind : AccountKind) : Number id →
      Adds Number (.insertAccount id owner kind)
  | rollback : Adds Number .rollback

theorem asks_createAccount {Number : Int → Prop} (place : Place) (hid : Number id) (owner : Uuid)
    (kind : AccountKind) (reply : Account → Reply) :
    (Call.replying reply (createAccount place id owner kind)).Asks (Adds Number) := by
  refine @Work.asks_replying _ _ (createAccount .callers id owner kind) ?_ place reply
  rw [run_createAccount]
  exact .exec (.account owner kind hid) fun _ => .done _

theorem asks_openAccount (place : Place) (owner : Uuid) (kind : AccountKind) :
    (Call.replying .created (openAccount place owner kind)).Asks
      (Adds fun id => AccountId.isValid id = true) :=
  .draw fun drawn => asks_createAccount place drawn.isValid_account owner kind .created

theorem Creates.asks (h : Creates place owner kind drawn id reply work) :
    work.Asks (Adds fun _ => True) := by
  cases h with
  | given => exact asks_createAccount place trivial owner kind .account
  | drawn =>
    exact .draw fun drawn => asks_createAccount place trivial owner kind .created

/-- A statement that adds accounts with numbers in range never violates the range. -/
theorem Adds.in_range {statement : Statement} {around : Surroundings} {view : Books}
    {rejection : Rejection} (h : Adds (fun id => AccountId.isValid id = true) statement)
    (he : statement.effect around view = .error rejection) :
    rejection.violated ≠ some "accounts_id_check" := by
  cases h with
  | rollback => cases he
  | @account id owner kind hid =>
    intro hviolated
    cases hrow : Statement.newAccount around view id owner kind with
    | ok row =>
      simp only [Statement.effect, hrow] at he
      cases he
    | error other =>
      simp only [Statement.effect, hrow] at he
      cases he
      have hnot : ¬ Creatable around.users view id owner kind := by
        intro hcreatable
        cases hrow.symm.trans (newAccount_of_creatable hcreatable)
      obtain ⟨_, hrejected, hexplains⟩ := newAccount_of_not_creatable hnot
      cases hrow.symm.trans hrejected
      have hstorage : creationFailure id owner kind (.rejected rejection) =
          .storage (.rejected rejection) := by
        simp only [creationFailure, hviolated]
        split <;> rfl
      cases hid.symm.trans (hexplains.range rejection hstorage hviolated)

/-- Whoever is honestly told of a new row has created it at the time of the transaction. -/
theorem created_of_tells {db db' : Database} {connection : Nat} {ran : Bool} {rows : List Account}
    (h : db.Tells (fun twist => twist.isHonest = true) connection (.insertAccount id owner kind) db' ran
      (.ok rows)) :
    Creatable db.users (db.view connection) id owner kind ∧
      rows = [.created id owner kind (db.surroundings connection).now] := by
  obtain ⟨effect, he, rfl⟩ := h.rows rfl
  obtain ⟨row, hrow, rfl⟩ := Statement.of_insertAccount he
  have hcreatable : Creatable (db.surroundings connection).users (db.view connection) id owner kind := by
    by_contra hnot
    obtain ⟨rejection, hrejected, -⟩ := newAccount_of_not_creatable hnot
    cases hrow.symm.trans hrejected
  cases hrow.symm.trans (newAccount_of_creatable hcreatable)
  exact ⟨hcreatable, rfl⟩

/-- Nobody comes but to create an account. -/
def Creations (past : Past) : Prop :=
  ∀ before connections deadline work, (before, .spawn connections deadline work) ∈ past →
    ∃ place owner kind drawn id reply, Creates place owner kind drawn id reply work

/-- Then no transaction is ever open, so that nobody can be in the way of a new account. -/
theorem Creations.namesHold (h : Creations past) (hrest : db.AtRest)
    (hrun : Run (.start db capacity) past system) : past.NamesHold := by
  have hasks := @Run.asks (Adds fun _ => True) _ _ _ _ hrun .rollback
    fun before connections deadline work hmem => by
      obtain ⟨_, _, _, _, _, _, hcreates⟩ := h before connections deadline work hmem
      exact hcreates.asks
  intro before event told hmem htold _
  obtain ⟨earlier, _, later, rfl, hearlier, -, -⟩ := hrun.of_mem hmem
  have hnone := hearlier.none_open hrest fun middle event told hmem htold => by
    have hadds := hasks.2 middle event told
      (List.mem_append_left later (List.mem_append_left _ hmem)) htold
    rintro hbegin
    rw [hbegin] at hadds
    cases hadds
  cases told with
  | mk index connection statement ran answer =>
    cases statement with
    | insertAccount id owner kind =>
      intro other transaction _ ht
      cases (hnone other).symm.trans ht
    | _ => exact trivial

/-- What those who create accounts can rely on. -/
structure Creating (db : Database) (past : Past) (system : System) : Prop where
  alone : ∀ {owner kind id reply work}, Creates .pooled owner kind system.db.draw id reply work →
    system.faults = [] → system.closed = false → system.inUse.length < system.capacity →
    (∃ past' after task, system.Serves [] work past' after task) ∧
      ∀ past' after task, system.Serves [] work past' after task → ∃ told, task.reply = some told ∧
        CreatedAlone id owner kind reply system.nextConnection (past'.Sends system.tasks.length)
          system.db after.db told
  inside : ∀ {owner kind id reply work connection transaction},
    Creates .callers owner kind system.db.draw id reply work → system.faults = [] →
    system.isIdle connection = true → system.db.transaction? connection = some transaction →
    transaction.aborted = false →
    (∃ past' after task, system.Serves [connection] work past' after task) ∧
      ∀ past' after task, system.Serves [connection] work past' after task →
        ∃ told, task.reply = some told ∧
          CreatedInside id owner kind reply connection transaction.began system.db after.db told
  rows : past.Honest → ∀ {before event index connection id owner kind ran rows},
    (before, event) ∈ past →
    before.told? event = some ⟨index, connection, .insertAccount id owner kind, ran, .ok rows⟩ →
    Creatable before.db.users (before.db.view connection) id owner kind ∧
      rows = [.created id owner kind (before.db.surroundings connection).now]
  range : ∀ {index place owner kind},
    past.Spawned index (Call.replying .created (openAccount place owner kind)) →
    ∀ {before event told}, (before, event) ∈ past → before.told? event = some told →
      told.index = index → ∀ {around view rejection},
        told.statement.effect around view = .error rejection →
        rejection.violated ≠ some "accounts_id_check"
  distinct : db.books.Distinct → past.NamesHold → system.db.books.Distinct ∧
    ∀ connection, (∀ transaction, system.db.transaction? connection = some transaction →
      transaction.aborted = false) → (system.db.view connection).Distinct
  creations : db.books.Distinct → Creations past → system.db.books.Distinct

/-- Undisturbed, an account is created if and only if the schema admits it next to the accounts that are
seen, and otherwise the failure says what is in its way. In every run accounts stay distinct. -/
theorem creation_guarantees (hrest : db.AtRest) (hrun : Run (.start db capacity) past system) :
    Creating db past system where
  alone hcreates hfaults hopen hroom := by
    have horderly := hrun.orderly (System.orderly_start hrest capacity)
    have hattains := fun Sent =>
      @Creates.attains_pooled _ _ _ (system.desk [] []) _ _ Sent hcreates ⟨hopen, hroom⟩
    refine ⟨System.exists_serves horderly hfaults List.nodup_nil
      (fun _ hmem => absurd hmem List.not_mem_nil) (hattains _), fun past' after task hserves => ?_⟩
    exact (hserves.attained_when horderly hfaults trivial (fun _ _ hsends => hsends)
      (hattains (past'.Sends system.tasks.length))).ends
  inside hcreates hfaults hidle ht hopen := by
    rename_i connection transaction
    have horderly := hrun.orderly (System.orderly_start hrest capacity)
    have hshows := (hrun.lives hrest).shows ht
    have hunaborted : (system.db.openPage connection).aborted = false := by
      simp [Database.openPage, ht, hopen]
    have hattains := @Creates.attains_inside _ _ _ _ (system.desk [connection] []) _ _ _ hcreates rfl
      hshows hunaborted
    refine ⟨System.exists_serves horderly hfaults (List.nodup_singleton connection) (by simpa using hidle)
      hattains, fun past' after task hserves => ?_⟩
    have hnow : (system.db.openPage connection).around.now = transaction.began := by
      simp [Database.openPage, Database.surroundings, ht]
    have hends := (hserves.attained horderly hfaults trivial hattains).ends
    rw [hnow] at hends
    exact hends
  rows hhonest {before event _ _ _ _ _ _ _} hmem htold := by
    obtain ⟨earlier, _, later, rfl, hearlier, -, -⟩ := hrun.of_mem hmem
    have htwists : before.Twists fun twist => twist.isHonest = true :=
      hearlier.twists (System.twists_start (fun twist => twist.isHonest = true) rfl db capacity)
        fun middle armed hmem =>
        hhonest middle armed (List.mem_append_left _ (List.mem_append_left _ hmem))
    have hu := hearlier.underway (System.orderly_start hrest capacity)
      (System.underway_start db capacity)
    obtain ⟨_, htells⟩ := System.tells_of_told htwists hu htold
    exact created_of_tells htells
  range {_ place owner kind} hspawned _ _ told hmem htold hindex _ _ _ he :=
    ((hrun.asks_of_spawned .rollback hspawned (asks_openAccount place owner kind)).2 _ _ told hmem
      htold hindex).in_range he
  distinct hdistinct hnames := by
    have hpeopled := hrun.peopled hrest hdistinct hnames
    refine ⟨Books.distinct_of_keyed hpeopled.keyed fun row hmem other hother => ?_,
      fun connection => hpeopled.distinct_view⟩
    exact hpeopled.distinct row other (.inl hmem) (.inl hother)
  creations hdistinct hcreations := by
    have hpeopled := hrun.peopled hrest hdistinct (hcreations.namesHold hrest hrun)
    refine Books.distinct_of_keyed hpeopled.keyed fun row hmem other hother => ?_
    exact hpeopled.distinct row other (.inl hmem) (.inl hother)

/-- A ledger of two accounts, with a user who has none. -/
def newcomerLedger : Database := { pairLedger with users := [.nil, .drawn 7] }

/-- The newcomer opens an account through the store, and then one of the same kind through the service. -/
def newcomerEvents : List Event :=
  [.spawn [] none (Call.replying .account (createAccount .pooled 1000000003 (.drawn 7) .savings)),
    .spawn [] none (Call.replying .created (openAccount .pooled (.drawn 7) .savings)),
    .move (.connect 0), .tick ⟨5, 0⟩, .move (.send 0), .move (.connect 1), .move (.send 1)]

theorem creates_newcomerEvents : ∀ event ∈ newcomerEvents, ∀ connections deadline work,
    event = .spawn connections deadline work →
      ∃ place owner kind drawn id reply, Creates place owner kind drawn id reply work := by
  intro event hmem connections deadline work he
  subst he
  simp only [newcomerEvents, List.mem_cons, List.not_mem_nil, or_false, reduceCtorEq,
    Event.spawn.injEq] at hmem
  rcases hmem with ⟨-, -, rfl⟩ | ⟨-, -, rfl⟩
  · exact ⟨_, _, _, newcomerLedger.draw, _, _, .given _⟩
  · exact ⟨_, _, _, newcomerLedger.draw, _, _, .drawn⟩

/-- The first account is opened and the second is not, and there is room for one of the other kind. -/
theorem creation_guarantees_newcomer : ∃ past system, Run (.start newcomerLedger 1) past system ∧
    system.db.books.Distinct ∧
    system.db.books.accounts.map (fun row => (row.id, row.createdAt)) =
      [(1000000001, ⟨0, 0⟩), (1000000002, ⟨0, 0⟩), (1000000003, ⟨5, 0⟩)] ∧
    system.reply? 1 = some (.failed (.ledger (.duplicateAccountKind (.drawn 7) "SAVINGS"))) ∧
    ∀ past' after task, system.Serves []
      (Call.replying .account (createAccount .pooled 1000000004 (.drawn 7) .current)) past' after task →
        after.db.books.accounts.map (·.id) = [1000000001, 1000000002, 1000000003, 1000000004] := by
  have htrace : (System.start newcomerLedger 1).traces newcomerEvents (fun _ system =>
      system.faults.isEmpty ∧ system.closed = false ∧ system.inUse.length < system.capacity ∧
        system.db.users = newcomerLedger.users ∧
        system.db.books.accounts.map (fun row => (row.id, row.createdAt)) =
          [(1000000001, ⟨0, 0⟩), (1000000002, ⟨0, 0⟩), (1000000003, ⟨5, 0⟩)] ∧
        system.db.books.account? 1000000004 = none ∧
        (∀ row ∈ system.db.books.accounts, row.owner = .drawn 7 → row.kind ≠ .current) ∧
        system.reply? 1 = some (.failed (.ledger (.duplicateAccountKind (.drawn 7) "SAVINGS")))) =
      true := rfl
  obtain ⟨past, system, htrace, hend⟩ := System.exists_of_traces htrace
  obtain ⟨hfaults, hopen, hroom, husers, haccounts, hid, hkind, hreply⟩ := of_decide_eq_true hend
  have hrun := System.run_of_trace? htrace
  have hcreating := creation_guarantees ⟨rfl, rfl⟩ hrun
  have hcreations : Creations past := fun before connections deadline work hmem =>
    System.forall_of_trace? htrace creates_newcomerEvents before _ hmem connections deadline work rfl
  refine ⟨past, system, hrun, hcreating.creations ⟨by decide, by decide⟩ hcreations, haccounts, hreply,
    fun past' after task hserves => ?_⟩
  obtain ⟨_, -, hcreated⟩ := (hcreating.alone (.given 1000000004) (List.isEmpty_iff.mp hfaults) hopen
    hroom).2 past' after task hserves
  obtain ⟨now, result, -, -, hsettles⟩ := hcreated.settled
  have huser : Uuid.drawn 7 ∈ system.db.users := by
    rw [husers]
    decide
  obtain ⟨-, hbooks⟩ := hsettles.created ⟨by decide, hid, hkind, huser⟩
  have hids := congrArg (List.map Prod.fst) haccounts
  rw [List.map_map] at hids
  rw [hbooks, Books.adding, List.map_append]
  exact congrArg (· ++ [1000000004]) hids

end Store

end Passbook
