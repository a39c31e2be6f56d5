import Passbook.Proofs.Database.Mirrored
import Passbook.Proofs.Deadlock.Climbs
import Passbook.Proofs.Race.Executes

/-! # Work that locks given rows

Work that walks along given rows reads and locks one after another, in their order, and nothing else. It
writes when it has locked all of them, and only to these accounts. It ends with the first statement that
fails or finds nothing (`Work.Walks`). The rows of a transfer are those of its two accounts, the lower
number first, and none if the command makes no sense (`Transfer.walks_perform`). -/

namespace Passbook

namespace Command

/-- The rows that the command has to lock, in their order. -/
def rows (command : Command) : List Int :=
  match command.validate with
  | .ok _ => [(lockOrder command.source command.target).1, (lockOrder command.source command.target).2]
  | .error _ => []

theorem mem_rows {command : Command} {amount : Amount} (h : command.validate = .ok amount) {id : Int} :
    id ∈ command.rows ↔ id ∈ command.accounts := by
  simp only [rows, h, accounts, lockOrder]
  split
  · rfl
  · simp [or_comm]

/-- They are rows of the command's accounts. -/
theorem accounts_of_rows {command : Command} {id : Int} (h : id ∈ command.rows) :
    id ∈ command.accounts := by
  cases hvalid : command.validate with
  | ok amount => exact (mem_rows hvalid).mp h
  | error error =>
    rw [rows, hvalid] at h
    cases h

/-- Rows are locked in ascending order. -/
theorem pairwise_rows (command : Command) : command.rows.Pairwise (· < ·) := by
  unfold rows
  split
  · rename_i amount hvalid
    simpa using Transfer.lockOrder_lt (Transfer.source_ne_target hvalid)
  · exact List.Pairwise.nil

theorem mem_rows_iff (command : Command) (id : Int) :
    id ∈ command.rows ↔ command.validate.toBool = true ∧ id ∈ command.accounts := by
  cases hvalid : command.validate with
  | ok amount => simpa [Except.toBool] using mem_rows hvalid
  | error error => simp [rows, hvalid, Except.toBool]

end Command

namespace Statement

variable {rows held held' : List Int} {statement : Statement}

/-- The row is the one of the account that was asked for. -/
def Names : (statement : Statement) → statement.Row → Prop
  | selectAccount lookup, row => row.id = lookup.id
  | updateAccount id _, row => row.id = id
  | _, _ => True

/-- The statement's turn comes when so many of the rows are locked: it is about one of these or about the
next one, and it writes nothing before all of them are locked. -/
structure InTurn (rows held : List Int) (statement : Statement) : Prop where
  subject : ∀ id, statement.subject? = some id → id ∈ held ∨ held ++ [id] <+: rows
  write : statement.isWrite = true → held = rows ∧ rows ≠ []

/-- The statements that are sent along the rows, and what is locked before and after each. -/
inductive Steps (rows : List Int) : Statement → List Int → List Int → Prop
  | read {held : List Int} {id : Int} : held ++ [id] <+: rows →
      Steps rows (.selectAccount ⟨id, true⟩) held (held ++ [id])
  | update {id : Int} {balance : Balance} : id ∈ rows →
      Steps rows (.updateAccount id balance) rows rows
  | insert {entry : NewEntry} : entry.account ∈ rows → Steps rows (.insertEntry entry) rows rows

namespace Steps

theorem inTurn (h : statement.Steps rows held held') : statement.InTurn rows held := by
  cases h with
  | read hnext => exact ⟨fun id hid => .inr (Option.some.inj hid ▸ hnext), nofun⟩
  | update hmem | insert hmem =>
    exact ⟨fun id hid => .inl (Option.some.inj hid ▸ hmem), fun _ => ⟨rfl, List.ne_nil_of_mem hmem⟩⟩

theorem isGuarded (h : statement.Steps rows held held') : statement.isGuarded = true := by
  cases h <;> rfl

theorem le (h : statement.Steps rows held held') : held <+: rows := by
  cases h with
  | read hnext => exact (List.prefix_append _ _).trans hnext
  | update | insert => exact List.prefix_rfl

theorem after_le (h : statement.Steps rows held held') : held' <+: rows := by
  cases h with
  | read hnext => exact hnext
  | update | insert => exact List.prefix_rfl

/-- Every statement is about one of the rows. -/
theorem within (h : statement.Steps rows held held') : statement.About (· ∈ rows) := by
  intro id hid
  rcases h.inTurn.subject id hid with hmem | hnext
  · exact h.le.subset hmem
  · exact hnext.subset (List.mem_append_right _ List.mem_cons_self)

end Steps

/-- Statements that are not about rows have their turn at any time. -/
theorem inTurn_of_not_isQuery (h : statement.isQuery = false) : statement.InTurn rows held := by
  cases statement with
  | begin | setLockTimeout | commit | rollback => exact ⟨nofun, nofun⟩
  | _ => cases h

end Statement

/-- Rows that are told of are those of the account that was asked for. -/
theorem Database.Tells.names {Allowed : Twist → Prop} {db db' : Database} {connection : Nat} {ran : Bool}
    {statement : Statement} {found : List statement.Row}
    (h : db.Tells Allowed connection statement db' ran (.ok found)) :
    ∀ row ∈ found, statement.Names row := by
  cases statement with
  | selectAccount lookup =>
    refine h.forall_rows rfl (fun effect he row hmem => ?_) fun value rows hrows row hmem => ?_
    · cases he
      exact Books.id_of_account? (Option.mem_toList.mp hmem)
    · obtain ⟨own, hown, rfl⟩ := List.mem_map.mp hmem
      exact hrows own hown
  | updateAccount id balance =>
    refine h.forall_rows rfl (fun effect he row hmem => ?_) fun value rows hrows row hmem => ?_
    · rcases Statement.of_updateAccount he with ⟨-, rfl⟩ | ⟨own, own', hown, rfl, rfl⟩
      · cases hmem
      · obtain rfl := List.mem_singleton.mp hmem
        have hid : own.id = id := Books.id_of_account? hown
        exact hid
    · obtain ⟨own, hown, rfl⟩ := List.mem_map.mp hmem
      exact hrows own hown
  | _ => exact fun _ _ => trivial

namespace Work

variable {α β : Type} {rows held : List Int}

/-- With so many of the rows locked, the work goes on to lock the rest in their order. -/
inductive Walks (rows : List Int) : List Int → Work (Except Failure α) → Prop
  | done {held : List Int} (result : Except Failure α) : Walks rows held (.done result)
  | exec {held held' : List Int} {statement : Statement}
      {next : statement.Answer → Work (Except Failure α)} : statement.Steps rows held held' →
      (∀ answer, (∃ row rest, answer = .ok (row :: rest)) ∨
        ∃ failure, next answer = .done (.error failure)) →
      (∀ row rest, statement.Names row → Walks rows held' (next (.ok (row :: rest)))) →
      Walks rows held (.exec statement next)
  | draw {held : List Int} {next : Draw → Work (Except Failure α)} :
      (∀ drawn, Walks rows held (next drawn)) → Walks rows held (.draw next)

namespace Walks

theorem of_passes {work rest : Work (Except Failure α)} (h : work.Walks rows held)
    {draws : Draws} (hp : work.Passes draws rest) : rest.Walks rows held := by
  induction hp with
  | done | exec => exact h
  | draw serial _ ih => cases h with | draw hnext => exact ih (hnext _)
  | report reply _ => cases h

/-- Whatever the answer is, if the rows are those that were asked for, the work walks on. -/
theorem next {statement : Statement} {next : statement.Answer → Work (Except Failure α)}
    {answer : statement.Answer} (h : (Work.exec statement next).Walks rows held)
    (hnames : ∀ found, answer = .ok found → ∀ row ∈ found, statement.Names row) :
    ∃ held', (next answer).Walks rows held' := by
  cases h with
  | @exec _ held' _ _ _ hfails hfinds =>
    rcases hfails answer with ⟨row, rest, rfl⟩ | ⟨failure, hfailure⟩
    · exact ⟨held', hfinds row rest (hnames _ rfl row List.mem_cons_self)⟩
    · rw [hfailure]
      exact ⟨held, .done _⟩

theorem map {work : Work (Except Failure α)} (h : work.Walks rows held) (f : α → β) :
    (work.bind fun result => .done (result.map f)).Walks rows held := by
  induction h with
  | done result => exact .done _
  | exec hsteps hfails _ ih =>
    refine .exec hsteps (fun answer => ?_) ih
    refine (hfails answer).imp_right fun ⟨failure, hfailure⟩ => ⟨failure, ?_⟩
    rw [hfailure]
    rfl
  | draw _ ih => exact .draw ih

end Walks

end Work

namespace Call

variable {α β : Type} {rows held held' : List Int}

/-- The call walks along the rows, and so many of them are locked already. -/
abbrev Walks (rows held : List Int) (call : Call α) : Prop := call.run.Walks rows held

theorem walks_ofExcept {ε : Type} {failure : ε → Failure} {result : Except ε α} {f : α → Call β}
    (h : ∀ value, result = .ok value → (f value).Walks rows held) :
    (ofExcept failure result >>= f).Walks rows held := by
  cases result with
  | ok value => exact h value rfl
  | error error => exact .done _

theorem walks_draw {f : Draw → Call β} (h : ∀ drawn, (f drawn).Walks rows held) :
    (draw >>= f).Walks rows held :=
  .draw h

/-- A statement whose first row is wanted. -/
theorem walks_first {statement : Statement} {missing : Failure} {f : statement.Row → Call β}
    (hsteps : statement.Steps rows held held')
    (h : ∀ row, statement.Names row → (f row).Walks rows held') :
    ((do first (← ask statement) missing) >>= f).Walks rows held := by
  refine .exec hsteps (fun answer => ?_) fun row _ => h row
  rcases answer with error | found
  · exact .inr ⟨_, rfl⟩
  · cases found with
    | nil => exact .inr ⟨_, rfl⟩
    | cons row rest => exact .inl ⟨row, rest, rfl⟩

theorem walks_account {id : Int} {f : Account → Call β} (hnext : held ++ [id] <+: rows)
    (h : ∀ row, row.id = id → (f row).Walks rows (held ++ [id])) :
    (Store.account .callers ⟨id, true⟩ >>= f).Walks rows held :=
  walks_first (.read hnext) h

end Call

namespace Transfer

open Call

variable {β : Type} {rows : List Int}

theorem account_of_newEntry {side : Side} {transfer : Uuid} {row : Account} {amount : Amount}
    {entry : NewEntry} (h : NewEntry.ofAccount side transfer row amount = .ok entry) :
    entry.account = row.id := by
  unfold NewEntry.ofAccount NewEntry.ofBalance at h
  cases hbalance : Balance.ofInt row.balance with
  | error error => rw [hbalance] at h; cases h
  | ok balance => rw [hbalance] at h; cases h; rfl

theorem walks_post {side : Side} {transfer : Uuid} {id : Int} {balance : Balance} {amount : Amount}
    {f : Entry → Call β} (hid : id ∈ rows) (h : ∀ entry, (f entry).Walks rows rows) :
    (post side transfer id balance amount >>= f).Walks rows rows := by
  unfold post
  simp only [bind_assoc]
  refine walks_first (.update hid) fun row (hrow : row.id = id) => walks_ofExcept fun entry hentry => ?_
  refine walks_first (.insert ?_) fun row _ => h row
  rwa [account_of_newEntry hentry, hrow]

theorem walks_postBoth {transfer : Uuid} {sender receiver : Account} {amount : Amount}
    (hsender : sender.id ∈ rows) (hreceiver : receiver.id ∈ rows) :
    (postBoth transfer sender receiver amount).Walks rows rows := by
  unfold postBoth
  refine walks_ofExcept ?_
  intro balances _
  exact walks_post hsender fun debit => walks_post hreceiver fun _ => .done _

/-- What a transfer does when its command has been checked. -/
theorem walks_ordered {source low high : Int} {transfer : Uuid} {amount : Amount} :
    Call.Walks [low, high] [] (do
      let first ← Store.account .callers ⟨low, true⟩
      let second ← Store.account .callers ⟨high, true⟩
      let (sender, receiver) := resolveRoles source first second
      postBoth transfer sender receiver amount) := by
  refine walks_account ⟨[high], rfl⟩ fun first hfirst => ?_
  refine walks_account List.prefix_rfl fun second hsecond => ?_
  show Call.Walks [low, high] [low, high] _
  unfold resolveRoles
  by_cases hrole : first.id = source
  · rw [if_pos hrole]
    exact walks_postBoth (by simp [hfirst]) (by simp [hsecond])
  · rw [if_neg hrole]
    exact walks_postBoth (by simp [hsecond]) (by simp [hfirst])

/-- A transfer walks along its two rows, and one that makes no sense along none. -/
theorem walks_perform (command : Command) : (perform command).Walks command.rows [] := by
  unfold perform
  refine walks_ofExcept fun amount hvalid => walks_draw fun drawn => ?_
  rw [Command.rows, hvalid]
  exact walks_ordered

end Transfer

end Passbook
