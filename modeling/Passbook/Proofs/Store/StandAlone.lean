import Passbook.Proofs.Footing.Follows
import Passbook.Proofs.UnitOfWork.Atomicity
import Passbook.Store

/-! # Writes that stand alone

A store call that writes on a connection of its own is a transaction of one statement, and nothing
tells its caller of the commit but the answer to that statement. A failure that may be tried again
therefore means that nothing was written, except when the connection was lost: then the whole effect of
the statement may have been committed (`lone_retryable`), and who tries again writes it twice
(`lost_entry_written_twice`). -/

namespace Passbook

open UnitOfWork (smallLedger)

namespace Store

/-- The calls that write on a connection of their own, with the statements that may come of them. -/
inductive Lone : (Statement → Prop) → Work Reply → Prop
  | setBalance (id : Int) (balance : Balance) : Lone (· = .updateAccount id balance)
      (Call.replying .account (setBalance .pooled id balance))
  | createAccount (id : Int) (owner : Uuid) (kind : AccountKind) :
      Lone (· = .insertAccount id owner kind)
        (Call.replying .account (createAccount .pooled id owner kind))
  | openAccount (owner : Uuid) (kind : AccountKind) :
      Lone (fun statement => ∃ drawn : Draw, statement = .insertAccount drawn.account owner kind)
        (Call.replying .created (openAccount .pooled owner kind))
  | record (entry : NewEntry) : Lone (· = .insertEntry entry)
      (Call.replying .entry (record .pooled entry))

/-- Nothing is written but by the given statements, and those stand alone. -/
def loneRules (Writes : Statement → Prop) : Rules where
  keeps _ := False
  steady _ _ _ := id
  lenient := False
  alone := Writes
  quits _ := True
  loose _ _ _ := trivial

/-- What was published when the caller is told that it may try again: nothing, or what one of the
statements does, and then the connection was lost. -/
def Told (Writes : Statement → Prop) (published : List Books) (reply : Reply) : Prop :=
  ∀ failure, reply = .failed failure → failure.retryable = true →
    (∀ books ∈ published, books = .empty) ∨
      failure = .storage .connectionLost ∧ ∃ statement around view effect, Writes statement ∧
        statement.effect around view = .ok effect ∧ published = [effect.changes]

section

variable {α : Type} {Writes : Statement → Prop} {statement : Statement}

/-- A call of one statement that writes, on a connection of its own. -/
theorem upholds_pooled {call : Call α} {reply : α → Reply}
    {result : statement.Answer → Except Failure α} (hwrites : Writes statement)
    (hw : statement.isWrite = true) (hr : ∀ value failure, reply value ≠ .failed failure)
    (hrun : call.run = .exec statement fun answer => .done (result answer))
    (hlost : result (.error .connectionLost) = .error (.storage .connectionLost))
    (hok : ∀ around view effect, statement.effect around view = .ok effect →
      ∀ failure, result (.ok effect.rows) = .error failure → effect.changes = .empty) :
    (Call.replying reply (Place.pooled.run call)).Upholds (loneRules Writes)
      (fun footing => Told Writes footing.published) ⟨[], .outside⟩ := by
  have hbegin : statement ≠ .begin := by
    rintro rfl
    cases hw
  have htold : ∀ answer published, Statement.Wrote answer published →
      Told Writes published (.ofResult reply (result answer)) := by
    intro answer published hwrote failure hfailure _
    cases hresult : result answer with
    | ok value =>
      rw [hresult] at hfailure
      exact absurd hfailure (hr value failure)
    | error own =>
      rw [hresult] at hfailure
      cases hfailure
      cases hwrote with
      | done he => exact .inl (by simpa using hok _ _ _ he _ hresult)
      | refused hempty => exact .inl hempty
      | lost => exact .inl nofun
      | lostAfter he =>
        obtain rfl := Except.error.inj (hresult.symm.trans hlost)
        exact .inr ⟨rfl, _, _, _, _, hwrites, he, rfl⟩
  refine ⟨rfl, trivial, fun error failure _ _ => .inl nofun, ?_⟩
  change ((call.run.bind fun result => Work.giveBack (.done result)).bind _).Upholds _ _ _
  rw [hrun]
  intro ground hsways
  cases hsways with
  | same =>
    refine ⟨fun _ => hwrites, fun _ => trivial, fun answer after hhears => ⟨?_, ?_⟩⟩
    · cases hhears <;> exact nofun
    · cases hhears with
      | begun | notBegun => exact absurd rfl hbegin
      | alone _ hno => cases hno.symm.trans hw
      | wrote _ hwrote => exact htold answer _ hwrote

/-- What is made of an answer of which the first row is wanted. -/
def firstRow (missing : Failure) : Except StorageError (List α) → Except Failure α
  | .ok (row :: _) => .ok row
  | .ok [] => .error missing
  | .error error => .error (.storage error)

theorem run_first (statement : Statement) (missing : Failure) :
    (do Call.first (← Call.ask statement) missing : Call statement.Row).run =
      .exec statement fun answer => .done (firstRow missing answer) := by
  refine congrArg (Work.exec statement) (funext fun answer => ?_)
  match answer with
  | .ok (row :: rows) => rfl
  | .ok [] => rfl
  | .error error => rfl

/-- What is made of the answer to the creation of an account. -/
def createdRow (id : Int) (owner : Uuid) (kind : AccountKind) :
    Except StorageError (List Account) → Except Failure Account
  | .ok (row :: _) => .ok row
  | .ok [] => .error (.storage .rowNotFound)
  | .error error => .error (creationFailure id owner kind error)

theorem run_createAccount (id : Int) (owner : Uuid) (kind : AccountKind) :
    (createAccount .callers id owner kind).run =
      .exec (.insertAccount id owner kind) fun answer => .done (createdRow id owner kind answer) := by
  refine congrArg (Work.exec _) (funext fun answer => ?_)
  match answer with
  | .ok (row :: rows) => rfl
  | .ok [] => rfl
  | .error error => rfl

theorem upholds_createPooled {id : Int} {owner : Uuid} {kind : AccountKind}
    {reply : Account → Reply} (hwrites : Writes (.insertAccount id owner kind))
    (hr : ∀ value failure, reply value ≠ .failed failure) :
    (Call.replying reply (createAccount .pooled id owner kind)).Upholds (loneRules Writes)
      (fun footing => Told Writes footing.published) ⟨[], .outside⟩ := by
  refine upholds_pooled hwrites rfl hr (run_createAccount id owner kind) rfl ?_
  intro around view effect he failure hresult
  obtain ⟨_, -, rfl⟩ := Statement.of_insertAccount he
  cases hresult

/-- The calls that stand alone write nothing unless they say so. -/
theorem Lone.upholds {work : Work Reply} (h : Lone Writes work) :
    work.Upholds (loneRules Writes) (fun footing => Told Writes footing.published)
      ⟨[], .outside⟩ := by
  cases h with
  | setBalance id balance =>
    refine upholds_pooled rfl rfl (fun _ _ he => nomatch he)
      (run_first (.updateAccount id balance) _) rfl ?_
    intro around view effect he failure hresult
    rcases Statement.of_updateAccount he with ⟨-, rfl⟩ | ⟨_, _, -, -, rfl⟩
    · rfl
    · cases hresult
  | createAccount id owner kind => exact upholds_createPooled rfl fun _ _ he => nomatch he
  | openAccount owner kind =>
    exact fun drawn _ => upholds_createPooled ⟨drawn, rfl⟩ fun _ _ he => nomatch he
  | record entry =>
    refine upholds_pooled rfl rfl (fun _ _ he => nomatch he) (run_first (.insertEntry entry) _) rfl ?_
    intro around view effect he failure hresult
    obtain ⟨_, -, rfl⟩ := Statement.of_insertEntry he
    cases hresult

end

variable {db : Database} {capacity : Nat} {past : Past} {before middle after system : System}
  {Writes : Statement → Prop} {work : Work Reply} {failure : Failure}

/-- The committed books are as they were before each of a task's moves. -/
def KeepsBooks (past : Past) (index : Nat) : Prop :=
  ∀ middle event after, (middle, event) ∈ past → event.mover? = some index →
    middle.step event = some after → after.db.books = middle.db.books

theorem keepsBooks_of_empty {index : Nat}
    (h : ∀ books ∈ past.publicationsBy index, books = .empty) : KeepsBooks past index := by
  intro middle event after hmem hm hs
  rw [System.books_step hs]
  cases hp : middle.publication? event with
  | none => rfl
  | some publication =>
    have hempty := h publication.2 (List.mem_filterMap.mpr ⟨_, hmem, by simp [hm, hp]⟩)
    rw [Option.elim_some, hempty, Books.overlay_empty]

/-- If a write that stands alone fails and may be tried again, then it has left the committed books as
they were, or its connection was lost when all that it writes had been committed. -/
theorem lone_retryable (hrest : db.AtRest) (hrun : Run (.start db capacity) past system)
    (hfaith : past.Faithful) (hlone : Lone Writes work)
    (hspawn : (before, .spawn [] none work) ∈ past)
    (hreply : system.reply? before.tasks.length = some (.failed failure))
    (hretryable : failure.retryable = true) :
    KeepsBooks past before.tasks.length ∨
      failure = .storage .connectionLost ∧ ∃ statement around view effect, Writes statement ∧
        statement.effect around view = .ok effect ∧
        past.publicationsBy before.tasks.length = [effect.changes] := by
  rcases hrun.concludes hrest hfaith hspawn hlone.upholds hreply with
    ⟨ground, htold⟩ | ⟨-, due, hdue, -⟩
  · rcases htold failure rfl hretryable with hempty | hlost
    · exact .inl (keepsBooks_of_empty hempty)
    · exact .inr hlost
  · cases hdue

/-- An entry about the one account of a small ledger. -/
def loneEntry : NewEntry :=
  ⟨.nil, 1000000001, ⟨20, by decide, by decide⟩, ⟨50, by decide, by decide⟩, .credit⟩

/-- Writes the entry on a connection of its own, and meets a fault. -/
def loneEvents (fault : Fault) : List Event :=
  [.spawn [] none (Call.replying .entry (record .pooled loneEntry)),
    .arm (.arm .insertEntry fault 1), .move (.connect 0), .move (.send 0)]

/-- A connection that is lost before the entry is written. -/
theorem lone_retryable_disconnected : ∃ past system,
    Run (.start smallLedger 1) past system ∧
      system.reply? 0 = some (.failed (.storage .connectionLost)) ∧
      (KeepsBooks past 0 ∨ Failure.storage .connectionLost = .storage .connectionLost ∧
        ∃ (statement : Statement) (around : Surroundings) (view : Books)
          (effect : Effect statement), statement = .insertEntry loneEntry ∧
          statement.effect around view = .ok effect ∧
          past.publicationsBy 0 = [effect.changes]) ∧
      system.db.books.entries = [] := by
  have htrace : (System.start smallLedger 1).traces (loneEvents .disconnect)
      (fun past system => past.isPlain ∧
        system.reply? 0 = some (.failed (.storage .connectionLost)) ∧
        system.db.books.entries = []) = true := rfl
  obtain ⟨past, system, htrace, hend⟩ := System.exists_of_traces htrace
  obtain ⟨hplain, hreply, hentries⟩ := of_decide_eq_true hend
  have hrun := System.run_of_trace? htrace
  exact ⟨past, system, hrun, hreply, lone_retryable ⟨rfl, rfl⟩ hrun (.of_isPlain hplain)
    (.record loneEntry) (System.mem_of_trace? htrace) hreply rfl, hentries⟩

/-- A connection that is lost when the entry has been written: the caller is told that it may try
again, and then the entry is in the ledger twice. -/
theorem lost_entry_written_twice : ∃ past later middle system failure,
    Run (.start smallLedger 1) past middle ∧ middle.reply? 0 = some (.failed failure) ∧
      failure.retryable = true ∧ smallLedger.books.entries = [] ∧
      middle.db.books.entries.map (·.amount) = [20] ∧ Run middle later system ∧
      system.db.books.entries.map (fun entry => (entry.transfer, entry.account, entry.amount)) =
        [(.nil, 1000000001, 20), (.nil, 1000000001, 20)] := by
  have htrace : (System.start smallLedger 1).traces (loneEvents .disconnectAfter)
      (fun _ middle => middle.traces [
          .spawn [] none (Call.replying .entry (record .pooled loneEntry)),
          .move (.connect 1), .move (.send 1)] fun _ system =>
        middle.reply? 0 = some (.failed (.storage .connectionLost)) ∧
          middle.db.books.entries.map (·.amount) = [20] ∧
          system.db.books.entries.map (fun entry => (entry.transfer, entry.account, entry.amount)) =
            [(.nil, 1000000001, 20), (.nil, 1000000001, 20)]) = true := rfl
  obtain ⟨past, middle, hlost, htrace⟩ := System.exists_of_traces htrace
  obtain ⟨later, system, hagain, hend⟩ := System.exists_of_traces htrace
  obtain ⟨hreply, hmiddle, hentries⟩ := of_decide_eq_true hend
  exact ⟨past, later, middle, system, _, System.run_of_trace? hlost, hreply, rfl, rfl, hmiddle,
    System.run_of_trace? hagain, hentries⟩

end Store

end Passbook
