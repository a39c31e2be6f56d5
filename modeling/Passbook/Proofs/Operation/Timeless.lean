import Passbook.Proofs.Operation.StandAlone

/-! # Times do not matter

Transactions that begin at different times and otherwise see the same have the same done in them:
statements are answered alike, up to times and to the order of listings (`Statement.effect_alike`), and
so an operation comes to the same (`Operation.comesAlike`). -/

namespace Passbook

/-- The row without its times. -/
def Account.timeless (row : Account) : Account :=
  { row with createdAt := ⟨0, 0⟩, updatedAt := ⟨0, 0⟩ }

/-- The entry without its time. -/
def Entry.timeless (entry : Entry) : Entry := { entry with createdAt := ⟨0, 0⟩ }

namespace Books

variable {books books' : Books}

/-- The books without times. -/
def timeless (books : Books) : Books := books.map Account.timeless Entry.timeless

theorem timeless_overlay (books changes : Books) :
    (books.overlay changes).timeless = books.timeless.overlay changes.timeless :=
  @map_overlay Account.timeless Entry.timeless (fun _ => rfl) books changes

theorem account?_timeless (books : Books) (id : Int) :
    books.timeless.account? id = (books.account? id).map (·.timeless) :=
  @account?_map Account.timeless Entry.timeless (fun _ => rfl) books id

theorem account?_of_timeless (h : books.timeless = books'.timeless) (id : Int) :
    (books.account? id).map (·.timeless) = (books'.account? id).map (·.timeless) := by
  rw [← account?_timeless, ← account?_timeless, h]

/-- The accounts of a user are the same up to their order. -/
theorem accountsOf_timeless (h : books.timeless = books'.timeless) (owner : Uuid) :
    ((books.accountsOf owner).map (·.timeless)).Perm ((books'.accountsOf owner).map (·.timeless)) := by
  have hsorted : ∀ books : Books, ((books.accountsOf owner).map (·.timeless)).Perm
      (books.timeless.accounts.filter (·.owner == owner)) := by
    intro books
    rw [timeless, map, List.filter_map]
    exact (List.mergeSort_perm _ _).map _
  exact (hsorted books).trans (h ▸ (hsorted books').symm)

/-- The entries of an account are the same up to their order. -/
theorem entriesOf_timeless (h : books.timeless = books'.timeless) (id : Int) :
    ((books.entriesOf id).map (·.timeless)).Perm ((books'.entriesOf id).map (·.timeless)) := by
  have hsorted : ∀ books : Books, ((books.entriesOf id).map (·.timeless)).Perm
      (books.timeless.entries.filter (·.account == id)) := by
    intro books
    rw [timeless, map, List.filter_map]
    exact (List.mergeSort_perm _ _).map _
  exact (hsorted books).trans (h ▸ (hsorted books').symm)

end Books

namespace Statement

/-- Rows that are the same up to times, and in a listing up to their order. -/
def SameRows : (statement : Statement) → List statement.Row → List statement.Row → Prop
  | selectAccount _, rows, rows' | updateAccount .., rows, rows' | insertAccount .., rows, rows' =>
    rows.map Account.timeless = rows'.map Account.timeless
  | selectAccountsOf _, rows, rows' =>
    (rows.map Account.timeless).Perm (rows'.map Account.timeless)
  | insertEntry _, rows, rows' => rows.map Entry.timeless = rows'.map Entry.timeless
  | selectEntriesOf _, rows, rows' => (rows.map Entry.timeless).Perm (rows'.map Entry.timeless)
  | tableExists _, rows, rows' => rows = rows'
  | begin, rows, rows' | setLockTimeout _, rows, rows' | commit, rows, rows' | rollback, rows, rows'
  | selectOne, rows, rows' => rows = rows'

/-- The same error, or the same rows. -/
inductive SameAnswer (statement : Statement) : statement.Answer → statement.Answer → Prop
  | ok {rows rows' : List statement.Row} : statement.SameRows rows rows' →
      SameAnswer statement (.ok rows) (.ok rows')
  | error (error : StorageError) : SameAnswer statement (.error error) (.error error)

end Statement

namespace Page

/-- The pages are the same up to times. -/
structure Alike (page page' : Page) : Prop where
  view : page.view.timeless = page'.view.timeless
  users : page.around.users = page'.around.users
  tables : page.around.tables = page'.around.tables
  draws : page.around.draws = page'.around.draws
  serial : page.around.serial = page'.around.serial
  aborted : page.aborted = page'.aborted

end Page

namespace Statement

variable {page page' : Page}

theorem any_timeless {books books' : Books} (h : books.timeless = books'.timeless)
    (owner : Uuid) (kind : AccountKind) :
    (books.accounts.any fun row => row.owner == owner && row.kind == kind) =
      books'.accounts.any fun row => row.owner == owner && row.kind == kind := by
  have hsame := congrArg
    (fun books : Books => books.accounts.any fun row => row.owner == owner && row.kind == kind) h
  simp only [Books.timeless, Books.map, List.any_map] at hsame
  exact hsame

theorem newAccount_alike (h : page.Alike page') (id : Int) (owner : Uuid) (kind : AccountKind) :
    (newAccount page.around page.view id owner kind).map (·.timeless) =
      (newAccount page'.around page'.view id owner kind).map (·.timeless) := by
  have hfound := congrArg Option.isSome (Books.account?_of_timeless h.view id)
  rw [Option.isSome_map, Option.isSome_map] at hfound
  unfold newAccount
  rw [hfound, any_timeless h.view, h.users]
  split
  · rfl
  split
  · rfl
  split
  · rfl
  split
  · rfl
  · rfl

theorem newEntry_timeless (h : page.Alike page') (entry : NewEntry) :
    (newEntry page.around page.view entry).map (·.timeless) =
      (newEntry page'.around page'.view entry).map (·.timeless) := by
  have hfound := congrArg Option.isNone (Books.account?_of_timeless h.view entry.account)
  rw [Option.isNone_map, Option.isNone_map] at hfound
  unfold newEntry
  rw [hfound, h.draws, h.serial]
  split
  · rfl
  split
  · rfl
  split
  · rfl
  · rfl

/-- What a statement does on pages that are alike: it is refused for the same reason, or its rows and
its changes are the same up to times. -/
theorem effect_alike {statement : Statement} (hq : statement.isQuery = true) (h : page.Alike page') :
    (∃ effect effect', statement.effect page.around page.view = .ok effect ∧
        statement.effect page'.around page'.view = .ok effect' ∧
        effect.changes.timeless = effect'.changes.timeless ∧
        statement.SameRows effect.rows effect'.rows) ∨
      ∃ rejection, statement.effect page.around page.view = .error rejection ∧
        statement.effect page'.around page'.view = .error rejection := by
  cases statement with
  | selectAccount lookup =>
    refine .inl ⟨_, _, rfl, rfl, rfl, ?_⟩
    change (page.view.account? lookup.id).toList.map _ = (page'.view.account? lookup.id).toList.map _
    rw [← Option.toList_map, Books.account?_of_timeless h.view, Option.toList_map]
  | updateAccount id balance =>
    have hrow := Books.account?_of_timeless h.view id
    simp only [Statement.effect]
    cases hfound : page.view.account? id with
    | none =>
      cases hfound' : page'.view.account? id with
      | none => exact .inl ⟨_, _, rfl, rfl, rfl, rfl⟩
      | some row' => rw [hfound, hfound'] at hrow; cases hrow
    | some row =>
      cases hfound' : page'.view.account? id with
      | none => rw [hfound, hfound'] at hrow; cases hrow
      | some row' =>
        rw [hfound, hfound'] at hrow
        dsimp only
        split
        · exact .inr ⟨_, rfl, rfl⟩
        · obtain ⟨id, owner, _, kind, _, _⟩ := row
          obtain ⟨id', owner', _, kind', _, _⟩ := row'
          obtain ⟨rfl, rfl, -, rfl, -⟩ := Account.mk.inj (Option.some.inj hrow)
          exact .inl ⟨_, _, rfl, rfl, rfl, rfl⟩
  | insertAccount id owner kind =>
    have hsame := newAccount_alike h id owner kind
    simp only [Statement.effect]
    rcases cases_of_map hsame with ⟨row, row', hnew, hnew', hrow⟩ | ⟨rejection, hnew, hnew'⟩
    · rw [hnew, hnew']
      refine .inl ⟨_, _, rfl, rfl, ?_, ?_⟩
      · simp [Books.timeless, Books.map, hrow]
      · simp [SameRows, hrow]
    · rw [hnew, hnew']
      exact .inr ⟨rejection, rfl, rfl⟩
  | insertEntry entry =>
    have hsame := newEntry_timeless h entry
    simp only [Statement.effect]
    rcases cases_of_map hsame with ⟨row, row', hnew, hnew', hrow⟩ | ⟨rejection, hnew, hnew'⟩
    · rw [hnew, hnew']
      refine .inl ⟨_, _, rfl, rfl, ?_, ?_⟩
      · simp [Books.timeless, Books.map, hrow]
      · simp [SameRows, hrow]
    · rw [hnew, hnew']
      exact .inr ⟨rejection, rfl, rfl⟩
  | selectAccountsOf owner =>
    exact .inl ⟨_, _, rfl, rfl, rfl, Books.accountsOf_timeless h.view owner⟩
  | selectEntriesOf id => exact .inl ⟨_, _, rfl, rfl, rfl, Books.entriesOf_timeless h.view id⟩
  | tableExists table => exact .inl ⟨_, _, rfl, rfl, rfl, by simp [SameRows, h.tables]⟩
  | selectOne => exact .inl ⟨_, _, rfl, rfl, rfl, rfl⟩
  | _ => cases hq

end Statement

/-- Replies that are the same up to times, and in a listing up to its order. -/
inductive Reply.Same : Reply → Reply → Prop
  | refl (reply : Reply) : Same reply reply
  | account {row row' : Account} : row.timeless = row'.timeless → Same (.account row) (.account row')
  | created {row row' : Account} : row.timeless = row'.timeless → Same (.created row) (.created row')
  | accounts {rows rows' : List Account} :
      (rows.map (·.timeless)).Perm (rows'.map (·.timeless)) → Same (.accounts rows) (.accounts rows')
  | entry {row row' : Entry} : row.timeless = row'.timeless → Same (.entry row) (.entry row')
  | entries {rows rows' : List Entry} :
      (rows.map (·.timeless)).Perm (rows'.map (·.timeless)) → Same (.entries rows) (.entries rows')

namespace Reply.Same

variable {reply reply' : Reply}

theorem failure? (h : reply.Same reply') : reply.failure? = reply'.failure? := by
  cases h <;> rfl

theorem opened? (h : reply.Same reply') : reply.opened? = reply'.opened? := by
  cases h with
  | created hrow => exact congrArg (some ·.id) hrow
  | _ => rfl

end Reply.Same

/-! ## Operations -/

variable {page page' : Page}

/-- A statement is answered alike on pages that are alike. -/
theorem Page.Alike.ask {statement : Statement} (h : page.Alike page')
    (hq : statement.isQuery = true) (hopen : page.aborted = false) :
    (page.ask statement).1.Alike (page'.ask statement).1 ∧
      statement.SameAnswer (page.ask statement).2 (page'.ask statement).2 := by
  have hopen' : page'.aborted = false := h.aborted ▸ hopen
  rcases Statement.effect_alike hq h with ⟨effect, effect', he, he', hchanges, hrows⟩ |
    ⟨rejection, he, he'⟩
  · rw [Page.ask_of_ok hopen he, Page.ask_of_ok hopen' he']
    have hlength : effect.changes.entries.length = effect'.changes.entries.length := by
      have hlength := congrArg (·.entries.length) hchanges
      simpa [Books.timeless, Books.map] using hlength
    refine ⟨⟨?_, h.users, h.tables, h.draws, ?_, h.aborted⟩, .ok hrows⟩
    · dsimp only [Page.writing]
      rw [Books.timeless_overlay, Books.timeless_overlay, h.view, hchanges]
    · dsimp only [Page.writing]
      rw [h.serial, hlength]
  · rw [Page.ask_of_error hopen he, Page.ask_of_error hopen' he']
    exact ⟨⟨h.view, h.users, h.tables, h.draws, h.serial, rfl⟩, .error _⟩

/-- A statement that is answered with rows does not abort its transaction. -/
theorem Page.unaborted_ask {statement : Statement} (hopen : page.aborted = false)
    (hok : (page.ask statement).2.toBool = true) : (page.ask statement).1.aborted = false := by
  cases he : statement.effect page.around page.view with
  | ok effect =>
    rw [ask_of_ok hopen he]
    exact hopen
  | error rejection =>
    rw [ask_of_error hopen he] at hok
    cases hok

/-- The work comes to the same on both pages, and it does not abort the transaction if it succeeds. -/
structure Work.ComesAlike (work : Work Reply) (page page' : Page) : Prop where
  pages : (work.inside page).1.Alike (work.inside page').1
  replies : (work.inside page).2.Same (work.inside page').2
  unaborted : (work.inside page).2.failure? = none → (work.inside page).1.aborted = false

theorem Store.same_first {α : Type} {f : α → α} {reply : α → Reply}
    (hreply : ∀ {row row'}, f row = f row' → (reply row).Same (reply row')) {rows rows' : List α}
    (h : rows.map f = rows'.map f) (missing : Failure) :
    (Reply.ofResult reply (firstRow missing (.ok rows))).Same
      (.ofResult reply (firstRow missing (.ok rows'))) := by
  cases rows with
  | nil =>
    cases rows' with
    | nil => exact .refl _
    | cons => cases h
  | cons row rows =>
    cases rows' with
    | nil => cases h
    | cons row' rows' => exact hreply (List.cons.inj h).1

theorem Store.createdRow_ok (id : Int) (owner : Uuid) (kind : AccountKind) (rows : List Account) :
    createdRow id owner kind (.ok rows) = firstRow (.storage .rowNotFound) (.ok rows) := by
  cases rows <;> rfl

/-- A call of one statement comes to the same if the same is made of the same rows. -/
theorem Call.comesAlike {α : Type} {call : Call α} {statement : Statement}
    {result : statement.Answer → Except Failure α} {reply : α → Reply}
    (hq : statement.isQuery = true)
    (hrun : call.run = .exec statement fun answer => .done (result answer))
    (hsame : ∀ rows rows', statement.SameRows rows rows' →
      (Reply.ofResult reply (result (.ok rows))).Same (.ofResult reply (result (.ok rows'))))
    (hfails : ∀ error, (result (.error error)).toBool = false)
    (h : page.Alike page') (hopen : page.aborted = false) :
    (replying reply call).ComesAlike page page' := by
  obtain ⟨hpage, hanswer⟩ := h.ask hq hopen
  have hread : ∀ answer answer', statement.SameAnswer answer answer' →
      (Reply.ofResult reply (result answer)).Same (.ofResult reply (result answer')) := by
    intro _ _ hanswer
    cases hanswer with
    | ok hrows => exact hsame _ _ hrows
    | error => exact .refl _
  have hok : ∀ answer, (Reply.ofResult reply (result answer)).failure? = none →
      answer.toBool = true := by
    intro answer hnone
    cases answer with
    | ok => rfl
    | error error =>
      cases hresult : result (.error error) with
      | ok => exact absurd (hfails error) (by rw [hresult]; exact Bool.false_ne_true.symm)
      | error => rw [hresult] at hnone; cases hnone
  unfold replying
  rw [hrun]
  exact ⟨hpage, hread _ _ hanswer, fun hnone => Page.unaborted_ask hopen (hok _ hnone)⟩

theorem Store.comesAlike_createAccount {id : Int} {owner : Uuid} {kind : AccountKind}
    {reply : Account → Reply}
    (hreply : ∀ {row row'}, row.timeless = row'.timeless → (reply row).Same (reply row'))
    (h : page.Alike page') (hopen : page.aborted = false) :
    (Call.replying reply (createAccount .callers id owner kind)).ComesAlike page page' := by
  refine Call.comesAlike rfl (run_createAccount ..) (fun _ _ hrows => ?_) (fun _ => rfl) h hopen
  rw [createdRow_ok, createdRow_ok]
  exact same_first hreply hrows _

namespace Transfer

theorem timeless_changes {command : Command} {sender sender' receiver receiver' : Account}
    (hsender : sender.timeless = sender'.timeless) (hreceiver : receiver.timeless = receiver'.timeless)
    (draws : Draws) (serial : Nat) (now now' : Instant) :
    (changes command sender receiver draws serial now).timeless =
      (changes command sender' receiver' draws serial now').timeless := by
  obtain ⟨id, owner, _, kind, _, _⟩ := sender
  obtain ⟨id', owner', _, kind', _, _⟩ := receiver
  obtain ⟨rfl, rfl, rfl, rfl, -⟩ := Account.mk.inj hsender
  obtain ⟨rfl, rfl, rfl, rfl, -⟩ := Account.mk.inj hreceiver
  simp [changes, Books.timeless, Books.map, Account.timeless, Entry.timeless, debit, credit]

theorem examine_timeless (command : Command) (view : Books) :
    examine command view.timeless = (examine command view).map fun (sender, receiver) =>
      (sender.timeless, receiver.timeless) :=
  @examine_map Account.timeless Entry.timeless (fun _ => rfl) (fun _ => rfl) command view

theorem outcome_timeless (command : Command) (h : page.Alike page') :
    (Reply.ofResult .entry (outcome command page).1).Same
        (.ofResult .entry (outcome command page').1) ∧
      (outcome command page).2.1.timeless = (outcome command page').2.1.timeless ∧
      (outcome command page).2.2 = (outcome command page').2.2 := by
  have hexamine := examine_timeless command page.view
  rw [h.view, examine_timeless] at hexamine
  rcases cases_of_map hexamine with ⟨rows', rows, he', he, hrows⟩ | ⟨failure, he', he⟩
  · obtain ⟨hsender, hreceiver⟩ := Prod.mk.inj hrows
    have hbalance : rows'.1.balance = rows.1.balance := (Account.mk.inj hsender).2.2.1
    rw [outcome, he, outcome, he']
    refine ⟨.entry ?_, ?_, congrArg (· + 3) h.serial⟩
    · simp [debit, Entry.timeless, hbalance, h.draws, h.serial]
    · dsimp only
      rw [Books.timeless_overlay, Books.timeless_overlay, h.view, h.draws, h.serial,
        timeless_changes hsender.symm hreceiver.symm]
  · rw [outcome_of_error he, outcome_of_error he']
    exact ⟨.refl _, h.view, congrArg (· + draws command) h.serial⟩

/-- A transfer comes to the same on pages that are alike. -/
theorem comesAlike (command : Command) (h : page.Alike page') (hopen : page.aborted = false) :
    (Call.replying .entry (perform command)).ComesAlike page page' := by
  obtain ⟨asked, hinside⟩ := @inside_replying command page hopen
  obtain ⟨asked', hinside'⟩ := @inside_replying command page' (h.aborted ▸ hopen)
  obtain ⟨hreply, hview, hserial⟩ := outcome_timeless command h
  refine ⟨?_, ?_, fun _ => ?_⟩
  · rw [hinside, hinside']
    exact ⟨hview, h.users, h.tables, h.draws, hserial, h.aborted⟩
  · rw [hinside, hinside']
    exact hreply
  · rw [hinside]
    exact hopen

end Transfer

namespace Operation

theorem comesAlike_checked {α : Type} {result : Except MoneyError α} {call : α → Work Reply}
    (h : page.Alike page') (hcall : ∀ value, (call value).ComesAlike page page') :
    (checked result call).ComesAlike page page' := by
  cases result with
  | ok value => exact hcall value
  | error error => exact ⟨h, .refl _, nofun⟩

/-- An operation comes to the same in transactions that differ only in their times. -/
theorem comesAlike (runner : Runner) (opened : List Int) (operation : Operation)
    (h : page.Alike page') (hopen : page.aborted = false) :
    (operation.work runner .callers opened).ComesAlike page page' := by
  cases operation with
  | transfer => exact Transfer.comesAlike _ h hopen
  | account name locking =>
    exact Call.comesAlike rfl (Store.run_first (.selectAccount _) _)
      (fun _ _ hrows => Store.same_first .account hrows _) (fun _ => rfl) h hopen
  | setBalance name balance =>
    exact comesAlike_checked h fun balance => Call.comesAlike rfl
      (Store.run_first (.updateAccount _ balance) _)
      (fun _ _ hrows => Store.same_first .account hrows _) (fun _ => rfl) h hopen
  | setStoredBalance name balance =>
    exact Call.comesAlike rfl (Store.run_first (.updateAccount _ balance) _)
      (fun _ _ hrows => Store.same_first .account hrows _) (fun _ => rfl) h hopen
  | createAccount name owner kind =>
    exact Store.comesAlike_createAccount .account h hopen
  | openAccount owner kind =>
    have hdrawn : page.drawn.Alike page'.drawn :=
      ⟨h.view, h.users, h.tables, h.draws, congrArg (· + 1) h.serial, h.aborted⟩
    have hcreated := @Store.comesAlike_createAccount _ _ page.draw.account owner kind
      .created .created hdrawn hopen
    have hdraws : ∀ page, ((Operation.openAccount owner kind).work runner .callers opened).inside page =
        (Call.replying .created (Store.createAccount .callers
          page.draw.account owner kind)).inside page.drawn := fun _ => rfl
    have hdraw : page.draw = page'.draw := by rw [Page.draw, Page.draw, h.draws, h.serial]
    refine ⟨?_, ?_, hcreated.unaborted⟩
    · rw [hdraws, hdraws, ← hdraw]
      exact hcreated.pages
    · rw [hdraws, hdraws, ← hdraw]
      exact hcreated.replies
  | accountsOf owner =>
    exact Call.comesAlike rfl rfl (fun _ _ hrows => .accounts hrows) (fun _ => rfl) h hopen
  | entriesOf name =>
    exact Call.comesAlike rfl rfl (fun _ _ hrows => .entries hrows) (fun _ => rfl) h hopen
  | record side shared name balance amount =>
    exact comesAlike_checked h fun entry => Call.comesAlike rfl
      (Store.run_first (.insertEntry entry) _)
      (fun _ _ hrows => Store.same_first .entry hrows _) (fun _ => rfl) h hopen
  | recordStored side shared name balance amount =>
    exact Call.comesAlike rfl (Store.run_first (.insertEntry _) _)
      (fun _ _ hrows => Store.same_first .entry hrows _) (fun _ => rfl) h hopen

end Operation

end Passbook
