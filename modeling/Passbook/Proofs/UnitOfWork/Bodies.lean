import Passbook.Operation
import Passbook.Proofs.UnitOfWork.Outcome

/-! # What store calls ask for

Store calls on the connection of their caller ask for statements about rows and for nothing else, and
none of them fails as a commit does. Whatever is made of them is therefore fit to be the body of a
unit of work; `Plan.isBody` says so of every plan, be it one that ends with the first failure or one
that ignores failures. -/

namespace Passbook

namespace Call

variable {α β : Type} {Asks : Statement → Prop} {Fails : Failure → Prop}

/-- The call asks for no statements but the given ones and has no failures but the given ones. -/
def Obeys (Asks : Statement → Prop) (Fails : Failure → Prop) (call : Call α) : Prop :=
  call.run.Obeys Asks fun result => ∀ failure, result = .error failure → Fails failure

theorem obeys_pure (value : α) : (pure value : Call α).Obeys Asks Fails := .done nofun

theorem obeys_throw {failure : Failure} (h : Fails failure) :
    (throw failure : Call α).Obeys Asks Fails :=
  .done fun _ he => by cases he; exact h

theorem obeys_bind {call : Call α} {f : α → Call β} (h : call.Obeys Asks Fails)
    (hf : ∀ value, (f value).Obeys Asks Fails) : (call >>= f).Obeys Asks Fails := by
  unfold Obeys
  rw [run_bind]
  refine Work.Obeys.bind h ?_
  intro result hr
  cases result with
  | ok value => exact hf value
  | error failure => exact .done fun _ he => by cases he; exact hr failure rfl

theorem obeys_ask {statement : Statement} (h : Asks statement)
    (hf : ∀ error, Fails (.storage error)) : (ask statement).Obeys Asks Fails := by
  refine .exec h fun answer => .done fun failure he => ?_
  cases answer <;> cases he
  exact hf _

theorem obeys_draw : draw.Obeys Asks Fails := .draw fun _ => .done nofun

theorem obeys_report (reply : Reply) : (report reply).Obeys Asks Fails := .report (.done nofun)

theorem obeys_lift_bind {Results : α → Prop} {work : Work α} {f : α → Call β}
    (h : work.Obeys Asks Results) (hf : ∀ value, Results value → (f value).Obeys Asks Fails) :
    Call.Obeys Asks Fails (ExceptT.lift work >>= f) := by
  have hlift : (ExceptT.lift work : Call α).run.Obeys Asks fun result =>
      ∃ value, Results value ∧ result = .ok value :=
    Work.Obeys.bind h fun value hv => .done ⟨value, hv, rfl⟩
  unfold Obeys
  rw [run_bind]
  refine hlift.bind ?_
  rintro _ ⟨value, hv, rfl⟩
  exact hf value hv

theorem obeys_ofExcept {ε : Type} {failure : ε → Failure} {result : Except ε α}
    (h : ∀ error, result = .error error → Fails (failure error)) :
    (ofExcept failure result).Obeys Asks Fails := by
  refine .done ?_
  intro _ he
  cases result <;> cases he
  exact h _ rfl

theorem obeys_first (rows : List α) {missing : Failure} (h : Fails missing) :
    (first rows missing).Obeys Asks Fails := by
  cases rows with
  | nil => exact obeys_throw h
  | cons row rows => exact obeys_pure row

/-- The reply to a call stands for a failure only where the call may fail. -/
theorem Obeys.replying {call : Call α} (h : call.Obeys Asks Fails) {reply : α → Reply}
    (hr : ∀ value, (reply value).failure? = none) :
    (Call.replying reply call).Obeys Asks fun reply =>
      ∀ failure, reply.failure? = some failure → Fails failure := by
  refine Work.Obeys.bind h fun result hf => .done fun failure he => ?_
  cases result with
  | ok value => rw [Reply.ofResult, hr] at he; cases he
  | error failure => cases he; exact hf _ rfl

end Call

/-- Calls on the connection of a unit of work: about rows, and with no failures that are about a
commit. -/
abbrev Call.IsInner {α : Type} (call : Call α) : Prop :=
  call.Obeys (fun statement => statement.isQuery = true) fun failure =>
    failure.isOutcomeUnknown = false

open Call

namespace Store

theorem isInner_account (lookup : AccountLookup) : (account .callers lookup).IsInner :=
  obeys_bind (obeys_ask rfl fun _ => rfl) fun rows => obeys_first rows rfl

theorem isInner_setBalance (id : Int) (balance : Balance) :
    (setBalance .callers id balance).IsInner :=
  obeys_bind (obeys_ask rfl fun _ => rfl) fun rows => obeys_first rows rfl

theorem isInner_createAccount (id : Int) (owner : Uuid) (kind : AccountKind) :
    (createAccount .callers id owner kind).IsInner := by
  refine .exec rfl ?_
  intro answer
  match answer with
  | .ok (row :: rows) => exact .done nofun
  | .ok [] => exact .done fun _ he => by cases he; rfl
  | .error error =>
    refine .done ?_
    intro _ he
    cases he
    unfold creationFailure
    split
    · split
      · split <;> rfl
      · rfl
    · rfl

theorem isInner_openAccount (owner : Uuid) (kind : AccountKind) :
    (openAccount .callers owner kind).IsInner :=
  obeys_bind obeys_draw fun _ => isInner_createAccount _ owner kind

theorem isInner_accountsOf (owner : Uuid) : (accountsOf .callers owner).IsInner :=
  obeys_ask rfl fun _ => rfl

theorem isInner_record (entry : NewEntry) : (record .callers entry).IsInner :=
  obeys_bind (obeys_ask rfl fun _ => rfl) fun rows => obeys_first rows rfl

theorem isInner_entriesOf (id : Int) : (entriesOf .callers id).IsInner :=
  obeys_ask rfl fun _ => rfl

end Store

namespace Transfer

theorem isInner_post (side : Side) (transfer : Uuid) (id : Int) (balance : Balance)
    (amount : Amount) : (post side transfer id balance amount).IsInner :=
  obeys_bind (Store.isInner_setBalance id balance) fun _ =>
    obeys_bind (obeys_ofExcept fun error _ => (rfl : (Failure.corruptRow error).isOutcomeUnknown = _))
      Store.isInner_record

theorem mapError_eq_error {ε ε' α : Type} {f : ε → ε'} {result : Except ε α} {error : ε'}
    (h : result.mapError f = .error error) : ∃ cause, error = f cause := by
  cases result <;> cases h
  exact ⟨_, rfl⟩

theorem bind_eq_error {ε α β : Type} {result : Except ε α} {f : α → Except ε β} {error : ε}
    (h : (result >>= f) = .error error) :
    result = .error error ∨ ∃ value, result = .ok value ∧ f value = .error error := by
  cases result with
  | error => exact .inl (by cases h; rfl)
  | ok value => exact .inr ⟨value, rfl, h⟩

theorem balancesAfter_error {sender receiver : Account} {amount : Amount} {failure : Failure}
    (h : balancesAfter sender receiver amount = .error failure) :
    failure.isOutcomeUnknown = false := by
  rcases bind_eq_error h with h | ⟨paying, -, h⟩
  · obtain ⟨_, rfl⟩ := mapError_eq_error h
    rfl
  split at h
  · cases h
    rfl
  rcases bind_eq_error h with h | ⟨debited, -, h⟩
  · obtain ⟨_, rfl⟩ := mapError_eq_error h
    rfl
  rcases bind_eq_error h with h | ⟨paid, -, h⟩
  · obtain ⟨_, rfl⟩ := mapError_eq_error h
    rfl
  rcases bind_eq_error h with h | ⟨credited, -, h⟩
  · obtain ⟨_, rfl⟩ := mapError_eq_error h
    rfl
  · cases h

theorem isInner_perform (command : Command) : (perform command).IsInner := by
  have hledger : ∀ error : LedgerError, (Failure.ledger error).isOutcomeUnknown = false := fun _ => rfl
  refine obeys_bind (obeys_ofExcept fun error _ => hledger error) fun amount =>
    obeys_bind obeys_draw fun drawn =>
    obeys_bind (Store.isInner_account _) fun first =>
    obeys_bind (Store.isInner_account _) fun second => ?_
  unfold postBoth
  refine obeys_bind (obeys_ofExcept fun failure he => balancesAfter_error he) fun balances =>
    obeys_bind (isInner_post ..) fun debit =>
    obeys_bind (isInner_post ..) fun _ => obeys_pure debit

end Transfer

namespace Operation

theorem obeys_checked {α : Type} {Asks : Statement → Prop} {Results : Reply → Prop}
    {result : Except MoneyError α} {call : α → Work Reply}
    (hr : ∀ error, Results (.refused error)) (hc : ∀ value, (call value).Obeys Asks Results) :
    (checked result call).Obeys Asks Results := by
  cases result with
  | ok value => exact hc value
  | error error => exact .done (hr error)

/-- An operation on the connection of its caller asks for statements about rows only. -/
theorem obeys_work (runner : Runner) (opened : List Int) (operation : Operation) :
    (operation.work runner .callers opened).Obeys (fun statement => statement.isQuery = true)
      fun reply => ∀ failure, reply.failure? = some failure → failure.isOutcomeUnknown = false := by
  have hrefused : ∀ error failure, (Reply.refused error).failure? = some failure →
      failure.isOutcomeUnknown = false := by
    rintro _ _ ⟨⟩
    rfl
  cases operation with
  | transfer => exact (Transfer.isInner_perform _).replying fun _ => rfl
  | account => exact (Store.isInner_account _).replying fun _ => rfl
  | setBalance =>
    exact obeys_checked hrefused fun _ => (Store.isInner_setBalance _ _).replying fun _ => rfl
  | setStoredBalance => exact (Store.isInner_setBalance _ _).replying fun _ => rfl
  | createAccount => exact (Store.isInner_createAccount _ _ _).replying fun _ => rfl
  | openAccount => exact (Store.isInner_openAccount _ _).replying fun _ => rfl
  | accountsOf => exact (Store.isInner_accountsOf _).replying fun _ => rfl
  | entriesOf => exact (Store.isInner_entriesOf _).replying fun _ => rfl
  | record =>
    exact obeys_checked hrefused fun _ => (Store.isInner_record _).replying fun _ => rfl
  | recordStored => exact (Store.isInner_record _).replying fun _ => rfl

end Operation

namespace Plan

/-- The unit of work that a plan is. -/
def toUnit (runner : Runner) (opened : List Int) (plan : Plan) : UnitOfWork :=
  .ofCall runner plan.name (fun () => .done) (plan.body runner opened)

theorem work_toUnit (runner : Runner) (opened : List Int) (plan : Plan) :
    (plan.toUnit runner opened).work = plan.work runner opened :=
  UnitOfWork.work_ofCall ..

theorem isInner_inTurn (runner : Runner) (ignoring : Bool) (operations : List Operation)
    (opened : List Int) : (inTurn runner ignoring operations opened).IsInner := by
  induction operations generalizing opened with
  | nil => exact obeys_pure ()
  | cons operation operations ih =>
    refine obeys_lift_bind (Operation.obeys_work runner opened operation) fun reply hr =>
      obeys_bind (obeys_report reply) fun _ => ?_
    cases hfailure : reply.failure? with
    | none => exact ih _
    | some failure =>
      cases ignoring with
      | true => exact ih _
      | false => exact obeys_throw (hr failure hfailure)

theorem isInner_body (runner : Runner) (opened : List Int) (plan : Plan) :
    (plan.body runner opened).IsInner := by
  refine obeys_bind (isInner_inTurn ..) ?_
  intro _
  split
  · exact obeys_throw rfl
  · exact obeys_pure ()

end Plan

namespace UnitOfWork

theorem isBody_ofCall {α : Type} {runner : Runner} {name : String} {reply : α → Reply}
    {body : Call α} (h : body.IsInner) (hr : ∀ value failure, reply value ≠ .failed failure) :
    IsBody (ofCall runner name reply body).body.run := by
  unfold IsBody ofCall
  rw [run_map]
  refine Work.Obeys.bind h fun result hf => .done ?_
  cases result with
  | ok value => exact hr value
  | error failure => exact hf failure rfl

end UnitOfWork

/-- Every plan is a unit of work whose body is made of store calls. -/
theorem Plan.isBody (runner : Runner) (opened : List Int) (plan : Plan) :
    UnitOfWork.IsBody (plan.toUnit runner opened).body.run :=
  UnitOfWork.isBody_ofCall (plan.isInner_body runner opened) nofun

end Passbook
