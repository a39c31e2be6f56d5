import Passbook.Proofs.Money.History
import Passbook.Proofs.System.Replies
import Passbook.Proofs.Transfer.LostUpdate

/-! # What the public message of a failed transfer tells

Failures hold balances, texts of the database and the rows that were read. The public message shows
little of that, and what it shows when a transfer fails is known to whoever ordered the transfer, but
for the number of an account that was not found (`Failure.ShowsOnly`). So two transfers with the same
command whose failures are of one kind have one public message (`execute_discreet`), whatever the
databases hold and whatever faults strike.

Everything that a transfer can come to is followed from where it arises: by what calls come to if
only rows of the right accounts are known to answer them (`Call.ComesTo`), then by whole runs
(`Run.reply_of_spawned`). -/

namespace Passbook

/-! ## Kinds of failures -/

/-- The variants of `LedgerError`, with the number of an account that was not found. -/
inductive LedgerError.Kind
  | insufficientBalance
  | invalidAmount
  | accountNotFound (id : Int)
  | sameAccountTransfer
  | balanceOverflow
  | duplicateAccountId
  | duplicateAccountKind
  deriving DecidableEq, Repr

def LedgerError.kind : LedgerError → Kind
  | insufficientBalance .. => .insufficientBalance
  | invalidAmount _ => .invalidAmount
  | accountNotFound id => .accountNotFound id
  | sameAccountTransfer => .sameAccountTransfer
  | balanceOverflow _ => .balanceOverflow
  | duplicateAccountId _ => .duplicateAccountId
  | duplicateAccountKind .. => .duplicateAccountKind

/-- The variants of `Failure`, and those of `LedgerError` within. -/
inductive Failure.Kind
  | ledger (kind : LedgerError.Kind)
  | storage
  | timeout
  | commitOutcomeUnknown
  | settings
  | internal
  deriving DecidableEq, Repr

def Failure.kind : Failure → Kind
  | ledger error => .ledger error.kind
  | storage _ => .storage
  | timeout _ => .timeout
  | commitOutcomeUnknown .. => .commitOutcomeUnknown
  | settings _ => .settings
  | internal _ => .internal

/-- What the public message of the failure shows besides its kind is known from the command. -/
def Failure.ShowsOnly (command : Command) : Failure → Prop
  | ledger (.invalidAmount reason) => command.validate = .error (.invalidAmount reason)
  | ledger (.balanceOverflow id) => id = command.target
  | ledger (.duplicateAccountId _) | ledger (.duplicateAccountKind ..) => False
  | _ => True

theorem Failure.publicMessage_eq {command : Command} {failure failure' : Failure}
    (h : failure.ShowsOnly command) (h' : failure'.ShowsOnly command)
    (hkind : failure.kind = failure'.kind) : failure.publicMessage = failure'.publicMessage := by
  cases failure with
  | ledger error =>
    cases failure' with
    | ledger error' =>
      have hsame : error.kind = error'.kind := Kind.ledger.inj hkind
      cases error with
      | insufficientBalance | accountNotFound | sameAccountTransfer =>
        cases error' <;> cases hsame
        rfl
      | invalidAmount reason =>
        cases error' with
        | invalidAmount reason' =>
          exact congrArg (Failure.publicMessage ∘ ledger) (Except.error.inj (h.symm.trans h'))
        | _ => cases hsame
      | balanceOverflow id =>
        cases error' with
        | balanceOverflow id' =>
          exact congrArg (fun id => (ledger (.balanceOverflow id)).publicMessage) (h.trans h'.symm)
        | _ => cases hsame
      | duplicateAccountId | duplicateAccountKind => cases h
    | _ => cases hkind
  | _ =>
    cases failure' <;> cases hkind
    rfl

/-! ## Calls -/

namespace Call

variable {α β : Type} {Fails : Failure → Prop} {Results : α → Prop} {Results' : β → Prop}

/-- What the call can come to if the answers to its statements fit, and nothing else is known of
them. -/
def ComesTo (Fails : Failure → Prop) (Results : α → Prop) (call : Call α) : Prop :=
  call.run.ComesTo fun
    | .ok value => Results value
    | .error failure => Fails failure

theorem comesTo_pure {value : α} (h : Results value) : (pure value : Call α).ComesTo Fails Results :=
  .done h

theorem comesTo_bind {call : Call α} {f : α → Call β} (h : call.ComesTo Fails Results)
    (hf : ∀ value, Results value → (f value).ComesTo Fails Results') :
    (call >>= f).ComesTo Fails Results' := by
  unfold ComesTo
  rw [run_bind]
  refine Work.ComesTo.bind h fun result hr => ?_
  cases result with
  | ok value => exact hf value hr
  | error failure => exact .done hr

theorem comesTo_ask (statement : Statement) (h : ∀ error, Fails (.storage error)) :
    (ask statement).ComesTo Fails statement.Concerns := by
  refine .exec fun answer hfits => .done ?_
  cases answer with
  | ok rows => exact hfits rows rfl
  | error error => exact h error

theorem comesTo_draw : draw.ComesTo Fails fun _ => True := .draw fun _ => .done trivial

theorem comesTo_ofExcept {ε : Type} {failure : ε → Failure} {result : Except ε α}
    (h : ∀ error, result = .error error → Fails (failure error)) :
    (ofExcept failure result).ComesTo Fails fun value => result = .ok value := by
  refine .done ?_
  cases result with
  | ok value => rfl
  | error error => exact h error rfl

theorem comesTo_first {rows : List α} {missing : Failure} (hrows : ∀ row ∈ rows, Results row)
    (h : Fails missing) : (first rows missing).ComesTo Fails Results := by
  cases rows with
  | nil => exact .done h
  | cons row rows => exact .done (hrows row List.mem_cons_self)

theorem comesTo_pooled {call : Call α} (hstorage : ∀ error, Fails (.storage error))
    (h : call.ComesTo Fails Results) : (Place.pooled.run call).ComesTo Fails Results := by
  refine .connect fun result => ?_
  cases result with
  | error error => exact .done (hstorage error)
  | ok => exact Work.ComesTo.bind h fun _ hr => .giveBack (.done hr)

theorem ComesTo.replying {call : Call α} (h : call.ComesTo Fails Results) {reply : α → Reply}
    {Replies : Reply → Prop} (hreply : ∀ value, Results value → Replies (reply value))
    (hfailed : ∀ failure, Fails failure → Replies (.failed failure)) :
    (replying reply call).ComesTo Replies := by
  refine Work.ComesTo.bind h fun result hr => .done ?_
  cases result with
  | ok value => exact hreply value hr
  | error failure => exact hfailed failure hr

end Call

open Call

namespace Runner

variable {α : Type} {Fails : Failure → Prop} {Results : α → Prop}

theorem comesTo_finish {name : String} (h : ∀ error, Fails (.commitOutcomeUnknown name error))
    {result : Except Failure α}
    (hresult : match result with
      | .ok value => Results value
      | .error failure => Fails failure) :
    (finish name result).ComesTo Fails Results := by
  cases result with
  | ok value =>
    refine .exec fun answer _ => ?_
    cases answer with
    | ok rows => exact .done hresult
    | error error => exact .done (h error)
  | error failure => exact .exec fun _ _ => .done hresult

/-- A unit of work comes to what its body comes to, to an error of the database, or to a commit whose
outcome is unknown. -/
theorem comesTo_unit (runner : Runner) {name : String} (hstorage : ∀ error, Fails (.storage error))
    (hunknown : ∀ error, Fails (.commitOutcomeUnknown name error)) {body : Call α}
    (h : body.ComesTo Fails Results) : (runner.unit name body).ComesTo Fails Results := by
  refine comesTo_pooled hstorage (comesTo_bind (comesTo_ask .begin hstorage) fun _ _ => ?_)
  have hlimit : runner.limitLockWaits.ComesTo Fails fun _ => True := by
    unfold limitLockWaits
    cases runner.lockTimeout with
    | none => exact comesTo_pure trivial
    | some bound =>
      exact comesTo_bind (comesTo_ask _ hstorage) fun _ _ => comesTo_pure trivial
  refine comesTo_bind hlimit fun _ _ => ?_
  unfold ComesTo
  rw [run_bind, ExceptT.run_mk, Work.bind_bind]
  exact Work.ComesTo.bind h fun result hr => comesTo_finish hunknown hr

end Runner

/-! ## Transfers -/

namespace Transfer

variable {command : Command} {Fails : Failure → Prop}

theorem showsOnly_of_validate {error : LedgerError} (h : command.validate = .error error) :
    (Failure.ledger error).ShowsOnly command := by
  have hcause : error = .sameAccountTransfer ∨ ∃ cause, error = .ofMoney cause := by
    unfold Command.validate at h
    split at h
    · cases h
      exact .inl rfl
    · exact .inr (mapError_eq_error h)
  rcases hcause with rfl | ⟨cause, rfl⟩
  · exact trivial
  · exact h

/-- Debiting a balance that covers the amount cannot fail, so the only failures here are a row that
is corrupt, a sender who cannot pay and a receiver who cannot be paid. -/
theorem showsOnly_of_balancesAfter {sender receiver : Account} {amount : Amount} {failure : Failure}
    (hreceiver : receiver.id = command.target)
    (h : balancesAfter sender receiver amount = .error failure) : failure.ShowsOnly command := by
  rcases bind_eq_error h with h | ⟨paying, hpaying, h⟩
  · obtain ⟨error, rfl⟩ := mapError_eq_error h
    exact trivial
  split at h
  · cases h
    exact trivial
  rename_i hcovers
  rcases bind_eq_error h with h | ⟨debited, -, h⟩
  · obtain ⟨hnonneg, hvalue⟩ := Balance.ofInt_eq_ok_iff.mp (mapError_eq_ok hpaying)
    have hexact := Balance.exact_of_nonneg (hvalue ▸ hnonneg) amount
    obtain ⟨left, hleft, -⟩ := hexact.debited (Bool.of_not_eq_false hcovers)
    rw [hleft] at h
    cases h
  rcases bind_eq_error h with h | ⟨paid, -, h⟩
  · obtain ⟨error, rfl⟩ := mapError_eq_error h
    exact trivial
  rcases bind_eq_error h with h | ⟨credited, -, h⟩
  · obtain ⟨error, rfl⟩ := mapError_eq_error h
    exact hreceiver
  · cases h

theorem comesTo_account (hstorage : ∀ error, Fails (.storage error)) (lookup : AccountLookup)
    (hmissing : Fails (.accountNotFound lookup.id)) :
    (Store.account .callers lookup).ComesTo Fails fun row => row.id = lookup.id :=
  comesTo_bind (comesTo_ask _ hstorage) fun _ hrows => comesTo_first hrows hmissing

theorem comesTo_post (side : Side) (transfer : Uuid) (id : Int) (balance : Balance)
    (amount : Amount) :
    (post side transfer id balance amount).ComesTo (Failure.ShowsOnly command) fun _ => True :=
  comesTo_bind (comesTo_bind (comesTo_ask _ fun _ => trivial) fun _ hrows =>
      comesTo_first hrows trivial) fun _ _ =>
    comesTo_bind (comesTo_ofExcept fun _ _ => trivial) fun _ _ =>
      comesTo_bind (comesTo_ask _ fun _ => trivial) fun _ _ =>
        comesTo_first (fun _ _ => trivial) trivial

/-- Rows read in lock order are given back their roles, so the receiver is the account that the
command names. -/
theorem id_of_resolveRoles {low high : Int} {first second sender receiver : Account}
    (horder : lockOrder command.source command.target = (low, high))
    (hne : command.source ≠ command.target) (hfirst : first.id = low) (hsecond : second.id = high)
    (hroles : resolveRoles command.source first second = (sender, receiver)) :
    receiver.id = command.target := by
  unfold resolveRoles at hroles
  rcases eq_of_lockOrder horder with ⟨rfl, rfl⟩ | ⟨rfl, rfl⟩
  · rw [if_pos hfirst] at hroles
    cases hroles
    exact hsecond
  · rw [if_neg fun he => hne (he.symm.trans hfirst)] at hroles
    cases hroles
    exact hfirst

theorem comesTo_perform (command : Command) :
    (perform command).ComesTo (Failure.ShowsOnly command) fun _ => True := by
  refine comesTo_bind (comesTo_ofExcept fun _ => showsOnly_of_validate) fun amount hvalid => ?_
  obtain ⟨hne, -⟩ := validate_ok hvalid
  refine comesTo_bind comesTo_draw fun drawn _ => ?_
  cases horder : lockOrder command.source command.target with | mk low high
  refine comesTo_bind (comesTo_account (fun _ => trivial) _ trivial) fun first hfirst =>
    comesTo_bind (comesTo_account (fun _ => trivial) _ trivial) fun second hsecond => ?_
  cases hroles : resolveRoles command.source first second with | mk sender receiver
  have hreceiver := id_of_resolveRoles horder hne hfirst hsecond hroles
  refine comesTo_bind (comesTo_ofExcept fun failure hfailure =>
      showsOnly_of_balancesAfter hreceiver hfailure) fun balances _ => ?_
  exact comesTo_bind (comesTo_post ..) fun debit _ =>
    comesTo_bind (comesTo_post ..) fun _ _ => comesTo_pure trivial

/-- The public message of a transfer that fails shows nothing but what the command and the kind of
the failure tell. -/
theorem showsOnly_of_reply {start system : System} {past : Past} {index : Nat} {runner : Runner}
    {failure : Failure} (hrun : Run start past system)
    (hspawned : past.Spawned index (Call.replying .entry (execute runner command)))
    (hreply : system.reply? index = some (.failed failure)) : failure.ShowsOnly command := by
  have hcomes : (Call.replying .entry (execute runner command)).ComesTo fun reply =>
      ∀ failure, reply = .failed failure → failure.ShowsOnly command :=
    (runner.comesTo_unit (fun _ => trivial) (fun _ => trivial) (comesTo_perform command)).replying
      (fun _ _ _ => nofun) fun failure hfailure => by rintro _ ⟨⟩; exact hfailure
  rw [execute, UnitOfWork.replying_eq] at hspawned hcomes
  refine hrun.reply_of_spawned ?_ hspawned hcomes hreply _ rfl
  rintro _ _ ⟨⟩
  exact trivial

/-- Two transfers with one command, each in a run of its own, fail with one public message if their
failures are of one kind: it tells nothing of the balances that are stored, of what the database has
said, of what went wrong inside or of how a commit ended. -/
theorem execute_discreet {start start' system system' : System} {past past' : Past}
    {index index' : Nat} {runner runner' : Runner} {failure failure' : Failure}
    (hrun : Run start past system) (hrun' : Run start' past' system')
    (hspawned : past.Spawned index (Call.replying .entry (execute runner command)))
    (hspawned' : past'.Spawned index' (Call.replying .entry (execute runner' command)))
    (hreply : system.reply? index = some (.failed failure))
    (hreply' : system'.reply? index' = some (.failed failure'))
    (hkind : failure.kind = failure'.kind) : failure.publicMessage = failure'.publicMessage :=
  Failure.publicMessage_eq (showsOnly_of_reply hrun hspawned hreply)
    (showsOnly_of_reply hrun' hspawned' hreply') hkind

/-- A transfer of 80 from an account that holds 50. -/
def excessive : Work Reply := order .default ⟨.nil, 1000000001, 1000000002, 80⟩

/-- It gets a connection, begins, reads both accounts and rolls back. -/
def excessiveMoves : List Event :=
  [.move (.connect 0), .move (.send 0), .move (.send 0), .move (.send 0), .move (.send 0)]

/-- The balance is not told to the end user: the message is the same if 7 is read in its place. -/
theorem execute_discreet_balances : ∃ past past' system system',
    Run (.start pairLedger 1) past system ∧ Run (.start pairLedger 1) past' system' ∧
      system.reply? 0 = some (.failed (.ledger (.insufficientBalance 80 50))) ∧
      system'.reply? 0 = some (.failed (.ledger (.insufficientBalance 80 7))) ∧
      (Failure.ledger (.insufficientBalance 80 50)).publicMessage =
        (Failure.ledger (.insufficientBalance 80 7)).publicMessage := by
  have htrace : (System.start pairLedger 1).traces
      (.spawn [] none excessive :: excessiveMoves) (fun _ system =>
        system.reply? 0 = some (.failed (.ledger (.insufficientBalance 80 50)))) = true := rfl
  have htrace' : (System.start pairLedger 1).traces
      (.spawn [] none excessive :: .arm (.arm .selectAccountForUpdate (.setBalance 7) 1) ::
        excessiveMoves) (fun _ system =>
        system.reply? 0 = some (.failed (.ledger (.insufficientBalance 80 7)))) = true := rfl
  obtain ⟨past, system, hpast, hreply⟩ := System.exists_of_traces htrace
  obtain ⟨past', system', hpast', hreply'⟩ := System.exists_of_traces htrace'
  have hrun := System.run_of_trace? hpast
  have hrun' := System.run_of_trace? hpast'
  have hspawned : past.Spawned 0 excessive := ⟨_, [], none, System.mem_of_trace? hpast, rfl⟩
  have hspawned' : past'.Spawned 0 excessive := ⟨_, [], none, System.mem_of_trace? hpast', rfl⟩
  have hreply := of_decide_eq_true hreply
  have hreply' := of_decide_eq_true hreply'
  exact ⟨past, past', system, system', hrun, hrun', hreply, hreply',
    execute_discreet hrun hrun' hspawned hspawned' hreply hreply' rfl⟩

end Transfer

end Passbook
