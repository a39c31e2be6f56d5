import Passbook.Proofs.Operation.StandAlone

/-! # The creation of an account

The schema admits an account whose number is in range and free, whose owner exists and has no account
of that kind yet (`Store.Creatable`). When nothing disturbs its creation, that is what decides
(`Store.Settles`): a row is added, or nothing is and the failure explains itself. A new row waits for no
row lock, so the transactions that are open are not in its way. The exception is one that has added a
row with the same number, or of the same kind for the same owner: there the keys of the table make the
addition wait until that transaction has ended. The model has no such wait; where it matters,
`Past.KeysHold` and `Past.NamesHold` stand for it. -/

namespace Passbook

/-- The row of a new account. -/
def Account.created (id : Int) (owner : Uuid) (kind : AccountKind) (now : Instant) : Account where
  id := id
  owner := owner
  balance := 0
  kind := kind
  createdAt := now
  updatedAt := now

namespace Books

/-- The books with a row added, and all else as it was. -/
def adding (books : Books) (row : Account) : Books := { books with accounts := books.accounts ++ [row] }

variable {books : Books} {row : Account}

theorem put_of_not_mem {rows : List Account} (h : row.id ∉ rows.map (·.id)) :
    put row rows = rows ++ [row] := by
  induction rows with
  | nil => rfl
  | cons other rows ih =>
    rw [List.map_cons, List.mem_cons, not_or] at h
    simp [put, Ne.symm h.1, ih h.2]

theorem overlay_added (h : books.account? row.id = none) :
    books.overlay ⟨[row], []⟩ = books.adding row := by
  have hnot : row.id ∉ books.accounts.map (·.id) := by
    rw [List.mem_map]
    rintro ⟨other, hmem, hid⟩
    have hne := List.find?_eq_none.mp h other hmem
    simp [hid] at hne
  simp [overlay, adding, put_of_not_mem hnot]

end Books

namespace Store

open Database

variable {users : List Uuid} {seen : Books} {id : Int} {owner : Uuid} {kind : AccountKind}
  {now : Instant} {around : Surroundings} {rejection : Rejection} {page : Page} {desk : Desk}
  {connection : Nat}

/-- The account may be created next to those that are seen. -/
structure Creatable (users : List Uuid) (seen : Books) (id : Int) (owner : Uuid) (kind : AccountKind) :
    Prop where
  valid : AccountId.isValid id = true
  idFree : seen.account? id = none
  kindFree : ∀ row ∈ seen.accounts, row.owner = owner → row.kind ≠ kind
  user : owner ∈ users

/-- What the failure of a creation says is so, and it says what it has to. -/
structure Explains (users : List Uuid) (seen : Books) (id : Int) (owner : Uuid) (kind : AccountKind)
    (failure : Failure) : Prop where
  idTaken : ∀ other, failure = .ledger (.duplicateAccountId other) →
    other = id ∧ (seen.account? id).isSome = true
  kindTaken : ∀ user text, failure = .ledger (.duplicateAccountKind user text) →
    user = owner ∧ text = kind.text ∧ ∃ row ∈ seen.accounts, row.owner = owner ∧ row.kind = kind
  taken : AccountId.isValid id = true → owner ∈ users →
    failure = .ledger (.duplicateAccountId id) ∨
      failure = .ledger (.duplicateAccountKind owner kind.text)
  storage : seen.account? id = none → (∀ row ∈ seen.accounts, row.owner = owner → row.kind ≠ kind) →
    failure.category ≠ .conflict ∧ ∃ error, failure = .storage error
  range : ∀ rejection, failure = .storage (.rejected rejection) →
    rejection.violated = some "accounts_id_check" → AccountId.isValid id = false

/-- What the creation of an account comes to that is done at the given time: the result of the call, and
what is seen then. -/
structure Settles (users : List Uuid) (seen : Books) (id : Int) (owner : Uuid) (kind : AccountKind)
    (now : Instant) (result : Except Failure Account) (seen' : Books) : Prop where
  created : Creatable users seen id owner kind →
    result = .ok (.created id owner kind now) ∧ seen' = seen.adding (.created id owner kind now)
  refused : ¬ Creatable users seen id owner kind →
    seen' = seen ∧ ∃ failure, result = .error failure ∧ Explains users seen id owner kind failure

/-! ## The constraints -/

/-- The row of an account that may be created. -/
theorem newAccount_of_creatable (h : Creatable around.users seen id owner kind) :
    Statement.newAccount around seen id owner kind = .ok (.created id owner kind around.now) := by
  have hkind : (seen.accounts.any fun row => row.owner == owner && row.kind == kind) = false := by
    rw [List.any_eq_false]
    intro row hmem htaken
    obtain ⟨howner, hkind⟩ := Bool.and_eq_true_iff.mp htaken
    exact h.kindFree row hmem (beq_iff_eq.mp howner) (beq_iff_eq.mp hkind)
  rw [Statement.newAccount, if_neg (by simp [h.valid]), if_neg (by simp [h.idFree]),
    if_neg (by simp [hkind]), if_neg (not_not.mpr h.user)]
  rfl

/-- Any other is refused because of the first constraint that it violates, and that is what its failure
is about. -/
theorem newAccount_of_not_creatable (h : ¬ Creatable around.users seen id owner kind) :
    ∃ rejection, Statement.newAccount around seen id owner kind = .error rejection ∧
      Explains around.users seen id owner kind
        (creationFailure id owner kind (.rejected rejection)) := by
  unfold Statement.newAccount
  by_cases hvalid : AccountId.isValid id = false
  · rw [if_pos hvalid]
    refine ⟨_, rfl, nofun, nofun, fun hvalid' => ?_, fun _ _ => ⟨nofun, _, rfl⟩, fun _ _ _ => hvalid⟩
    rw [hvalid] at hvalid'
    cases hvalid'
  rw [if_neg hvalid]
  by_cases htaken : (seen.account? id).isSome = true
  · rw [if_pos htaken]
    refine ⟨_, rfl, ?_, nofun, fun _ _ => .inl rfl, fun hfree => ?_, nofun⟩
    · rintro other ⟨⟩
      exact ⟨rfl, htaken⟩
    · rw [hfree] at htaken
      cases htaken
  rw [if_neg htaken]
  by_cases hkind : (seen.accounts.any fun row => row.owner == owner && row.kind == kind) = true
  · rw [if_pos hkind]
    obtain ⟨row, hmem, hrow⟩ := List.any_eq_true.mp hkind
    obtain ⟨howner, hrow⟩ := Bool.and_eq_true_iff.mp hrow
    have howner : row.owner = owner := beq_iff_eq.mp howner
    have hrow : row.kind = kind := beq_iff_eq.mp hrow
    refine ⟨_, rfl, nofun, ?_, fun _ _ => .inr rfl, fun _ hfree => ?_, nofun⟩
    · rintro user text ⟨⟩
      exact ⟨rfl, rfl, row, hmem, howner, hrow⟩
    · exact absurd hrow (hfree row hmem howner)
  rw [if_neg hkind]
  by_cases huser : owner ∉ around.users
  · rw [if_pos huser]
    refine ⟨_, rfl, nofun, nofun, fun _ huser' => absurd huser' huser, fun _ _ => ⟨nofun, _, rfl⟩, ?_⟩
    intro other hother hviolated
    cases hother
    simp [Rejection.reference] at hviolated
  · refine absurd ⟨by simpa using hvalid, by simpa using htaken, ?_, not_not.mp huser⟩ h
    intro row hmem howner hrow
    exact hkind (List.any_eq_true.mpr ⟨row, hmem, by simp [howner, hrow]⟩)

/-- On a page that is not aborted, the creation of an account settles. -/
theorem settles_ask (h : page.aborted = false) (id : Int) (owner : Uuid) (kind : AccountKind) :
    Settles page.around.users page.view id owner kind page.around.now
      (createdRow id owner kind (page.ask (.insertAccount id owner kind)).2)
      (page.ask (.insertAccount id owner kind)).1.view := by
  constructor
  · intro hcreatable
    have hrow := newAccount_of_creatable hcreatable
    have he : (Statement.insertAccount id owner kind).effect page.around page.view =
        .ok ⟨[.created id owner kind page.around.now], ⟨[.created id owner kind page.around.now], []⟩⟩ := by
      simp only [Statement.effect, hrow]
      rfl
    rw [Page.ask_of_ok h he]
    exact ⟨rfl, Books.overlay_added hcreatable.idFree⟩
  · intro hnot
    obtain ⟨rejection, hrow, hexplains⟩ := newAccount_of_not_creatable hnot
    have he : (Statement.insertAccount id owner kind).effect page.around page.view =
        .error rejection := by
      simp only [Statement.effect, hrow]
      rfl
    rw [Page.ask_of_error h he]
    exact ⟨rfl, _, rfl, hexplains⟩

/-! ## Undisturbed -/

theorem untouched_heed {db db' : Database} {other : Nat} {statement : Statement}
    {answer : statement.Answer} (h : db.heed connection statement = some (db', answer))
    (hne : other ≠ connection) : Untouched other db db' := by
  unfold heed at h
  split at h
  · cases h
    exact .refl other db
  split at h
  · cases h
    exact .refl other db
  split at h
  · cases h
  · rename_i ended own hrun
    cases h
    have hmet : Untouched other db (if statement = .begin then db.note connection true else db) := by
      split
      · exact .note hne db true
      · exact .refl other db
    have hended := hmet.trans (.run hne hrun)
    split
    · exact hended.trans (.note hne ended false)
    · exact hended

/-- The ways to create an account: with the number that is given, or with one that is drawn. -/
inductive Creates (place : Place) (owner : Uuid) (kind : AccountKind) (drawn : Draw) :
    Int → (Account → Reply) → Work Reply → Prop
  | given (id : Int) : Creates place owner kind drawn id .account
      (Call.replying .account (createAccount place id owner kind))
  | drawn : Creates place owner kind drawn drawn.account .created
      (Call.replying .created (openAccount place owner kind))

/-- What comes of the creation of an account on a connection of its own. It is done at the time at which
its statement is sent. -/
structure CreatedAlone (id : Int) (owner : Uuid) (kind : AccountKind) (reply : Account → Reply)
    (connection : Nat) (Sent : Statement → Instant → Prop) (db db' : Database) (told : Reply) :
    Prop where
  settled : ∃ now result, Sent (.insertAccount id owner kind) now ∧ told = .ofResult reply result ∧
    Settles db.users db.books id owner kind now result db'.books
  users : db'.users = db.users
  tables : db'.tables = db.tables
  others : ∀ other, other ≠ connection → Untouched other db db'

theorem attains_createPooled (Sent : Statement → Instant → Prop) (hroom : desk.HasRoom) (id : Int)
    (owner : Uuid) (kind : AccountKind) (reply : Account → Reply) :
    (Call.replying reply (createAccount .pooled id owner kind)).AttainsWhen Sent (fun _ => True)
      (fun desk' => CreatedAlone id owner kind reply desk.nextConnection Sent desk.db desk'.db)
      desk := by
  have hpooled : Call.replying reply (createAccount .pooled id owner kind) =
      Work.alone (.exec (.insertAccount id owner kind) fun answer =>
        .done (.ofResult reply (createdRow id owner kind answer))) := by
    refine (Work.replying_pooled reply (createAccount .callers id owner kind)).trans ?_
    rw [Call.replying, run_createAccount]
    rfl
  rw [hpooled]
  refine Work.attains_connect hroom (fun _ => trivial) fun clock hfresh => ?_
  refine Work.attains_exec_sent rfl (fun _ => trivial) fun clock hsent => ?_
  obtain ⟨db, hheed, hended⟩ := @heed_alone (desk.later clock).db desk.nextConnection
    (.insertAccount id owner kind) hfresh rfl fun account hlocked => by cases hlocked
  refine ⟨db, _, hheed, ?_⟩
  refine Work.attains_giveBack rfl hended.unended (Work.attains_done (fun _ => trivial) fun _ => ?_)
  refine ⟨⟨clock, _, hsent, rfl, ?_⟩, hended.users, hended.tables, fun other hne => ?_⟩
  · have hsettles := @settles_ask ((desk.later clock).db.freshPage clock) rfl id owner kind
    show Settles _ _ _ _ _ _ _ db.books
    rw [hended.books]
    exact hsettles
  · have hlater : Untouched other desk.db (desk.later clock).db := .of_eq rfl rfl rfl
    exact (hlater.trans (untouched_heed hheed hne)).trans (.trans (.close hne db) (.of_eq rfl rfl rfl))

/-- It waits for no lock. -/
theorem Creates.attains_pooled {reply : Account → Reply} {work : Work Reply}
    (Sent : Statement → Instant → Prop) (h : Creates .pooled owner kind desk.db.draw id reply work)
    (hroom : desk.HasRoom) :
    work.AttainsWhen Sent (fun _ => True)
      (fun desk' => CreatedAlone id owner kind reply desk.nextConnection Sent desk.db desk'.db)
      desk := by
  cases h with
  | given => exact attains_createPooled Sent hroom id owner kind .account
  | drawn =>
    have hcreates := @attains_createPooled { desk with db.serial := desk.db.serial + 1 } Sent
      ⟨hroom.opened, hroom.room⟩ desk.db.draw.account owner kind .created
    refine hcreates.mono fun desk' told hcreated => ?_
    have hdrew : ∀ other, Untouched other desk.db { desk.db with serial := desk.db.serial + 1 } :=
      fun _ => .of_eq rfl rfl rfl
    exact ⟨hcreated.settled, hcreated.users, hcreated.tables,
      fun other hne => (hdrew other).trans (hcreated.others other hne)⟩

/-- What comes of the creation of an account in an open transaction. -/
structure CreatedInside (id : Int) (owner : Uuid) (kind : AccountKind) (reply : Account → Reply)
    (connection : Nat) (began : Instant) (db db' : Database) (told : Reply) : Prop where
  settled : ∃ result, told = .ofResult reply result ∧
    Settles db.users (db.view connection) id owner kind began result (db'.view connection)
  beside : db.Beside connection db'

theorem attains_createInside (hhands : desk.hands.head? = some connection)
    (hshows : desk.db.Shows connection page) (hopen : page.aborted = false) (id : Int) (owner : Uuid)
    (kind : AccountKind) (reply : Account → Reply) :
    (Call.replying reply (createAccount .callers id owner kind)).Attains (fun _ => True)
      (fun desk' =>
        CreatedInside id owner kind reply connection page.around.now desk.db desk'.db) desk := by
  have hcallers : Call.replying reply (createAccount .callers id owner kind) =
      .exec (.insertAccount id owner kind) fun answer =>
        .done (.ofResult reply (createdRow id owner kind answer)) := by
    rw [Call.replying, run_createAccount]
    rfl
  rw [hcallers]
  refine Work.attains_exec hhands (fun _ => trivial) fun clock => ?_
  obtain ⟨db, hheed, hbeside, hshown⟩ := @Shows.heed _ _ _ (.insertAccount id owner kind)
    (hshows.later clock) rfl fun account hlocked => by cases hlocked
  refine ⟨db, _, hheed, Work.attains_done (fun _ => trivial) fun clock' => ?_⟩
  have htick := Beside.drift connection desk.db clock desk.db.serial
  refine ⟨⟨_, rfl, ?_⟩, htick.trans (hbeside.trans (.drift connection db clock' db.serial))⟩
  have husers : page.around.users = desk.db.users := by
    rw [← hshows.around]
    rfl
  have hsettles := settles_ask hopen id owner kind
  rw [← (hshown.later clock').view, husers, ← hshows.view] at hsettles
  exact hsettles

/-- It does so in any transaction that is not aborted. -/
theorem Creates.attains_inside {reply : Account → Reply} {work : Work Reply}
    (h : Creates .callers owner kind desk.db.draw id reply work)
    (hhands : desk.hands.head? = some connection) (hshows : desk.db.Shows connection page)
    (hopen : page.aborted = false) :
    work.Attains (fun _ => True)
      (fun desk' =>
        CreatedInside id owner kind reply connection page.around.now desk.db desk'.db) desk := by
  cases h with
  | given => exact attains_createInside hhands hshows hopen id owner kind .account
  | drawn =>
    have hdrew := Beside.drift connection desk.db desk.db.clock (desk.db.serial + 1)
    have hshown : Shows { desk.db with serial := desk.db.serial + 1 } connection page.drawn := by
      refine ⟨hshows.alive, hshows.transaction, hshows.view, ?_⟩
      rw [Page.drawn, ← hshows.around]
      rfl
    have hcreates := @attains_createInside page.drawn
      { desk with db.serial := desk.db.serial + 1 } connection hhands hshown hopen
      desk.db.draw.account owner kind .created
    refine Work.AttainsWhen.mono hcreates fun desk' told hcreated => ?_
    exact ⟨hcreated.settled, hdrew.trans hcreated.beside⟩

end Store

end Passbook
