import Passbook.Proofs.Constraints.Lawful
import Passbook.Proofs.Transfer.LostUpdate

/-! # Trades

Work that trades moves money by transfers and reads, and does nothing else (`Trading`). In a unit of
work it may do so in any order, whatever the answers are and also after a failure (`Work.Trades`). All
of it is lawful (`Trading.lawful`), and a transfer that stands alone fails in no other ways than those
of a transfer or of a unit of work (`Transfer.lawful_order`). -/

namespace Passbook

variable {Known : Int → Prop} {truly : Prop}

namespace Work

/-- Work in an open transaction that consists of transfers and reads. What comes next may depend on
what has come of it so far, failures included. -/
inductive Trades : {α : Type} → Work α → Prop
  | reads {α : Type} {work : Work α} : work.Reads → Trades work
  | transfer (command : Command) : Trades (Transfer.perform command).run
  | bind {α β : Type} {work : Work α} {f : α → Work β} :
      Trades work → (∀ value, Trades (f value)) → Trades (work.bind f)

theorem Trades.lawful {α : Type} {work : Work α} (h : work.Trades) :
    work.Lawful Known truly fun _ => True := by
  induction h with
  | reads h => exact h.lawful
  | transfer command => exact (Transfer.lawful_perform command).mono fun _ _ => trivial
  | bind _ _ ih ihf => exact ih.bind fun value _ => ihf value

end Work

namespace UnitOfWork

variable {α : Type} {body : Call α} {Results : Except Failure α → Prop} {Ends : Reply → Prop}
  {unit : UnitOfWork}

/-- A unit of work is lawful if its body is. -/
theorem lawful_working (hbody : unit.body.run.Lawful Known truly fun result =>
      Ends (.ofResult id result))
    (hunknown : ∀ name error, Ends (.failed (.commitOutcomeUnknown name error))) :
    (unit.working unit.body.run).Lawful Known truly Ends := by
  refine hbody.bind fun result hresult => ?_
  cases result with
  | ok reply =>
    refine .exec trivial fun answer _ => ?_
    cases answer with
    | ok => exact .giveBack (.done hresult)
    | error error => exact .giveBack (.done (hunknown _ error))
  | error failure => exact .exec trivial fun _ _ => .giveBack (.done hresult)

theorem lawful_work (hbody : unit.body.run.Lawful Known truly fun result =>
      Ends (.ofResult id result))
    (hstorage : ∀ error, Ends (.failed (.storage error)))
    (hunknown : ∀ name error, Ends (.failed (.commitOutcomeUnknown name error))) :
    unit.work.Lawful Known truly Ends := by
  have hworking := lawful_working hbody hunknown
  rw [work_eq]
  refine .connect fun result => ?_
  cases result with
  | error error => exact .done (hstorage error)
  | ok =>
    refine .exec trivial fun answer _ => ?_
    cases answer with
    | error error => exact .giveBack (.done (hstorage error))
    | ok =>
      dsimp only [begun]
      split
      · refine .exec trivial fun answer _ => ?_
        cases answer with
        | error error => exact .giveBack (.done (hstorage error))
        | ok => exact hworking
      · exact hworking

/-- A unit of work whose caller makes a reply of its result. -/
theorem lawful_replying (runner : Runner) (name : String) {reply : α → Reply}
    (hbody : body.run.Lawful Known truly fun result => Ends (.ofResult reply result))
    (hstorage : ∀ error, Ends (.failed (.storage error)))
    (hunknown : ∀ name error, Ends (.failed (.commitOutcomeUnknown name error))) :
    (Call.replying reply (runner.unit name body)).Lawful Known truly Ends := by
  rw [← work_ofCall]
  refine lawful_work ?_ hstorage hunknown
  rw [ofCall, Call.run_map]
  refine hbody.bind fun result hresult => .done ?_
  cases result <;> exact hresult

end UnitOfWork

/-- How the caller of a transfer that stands alone is answered: with an entry, or with a failure that
has turned the transfer down, or with one of the storage or of the unit of work. -/
inductive Transfer.Answered (Known : Int → Prop) (command : Command) : Reply → Prop
  | entry (row : Entry) : Answered Known command (.entry row)
  | declined {failure : Failure} : Declines Known command failure →
      Answered Known command (.failed failure)
  | late (unit : String) : Answered Known command (.failed (.timeout unit))
  | unknown (unit : String) (error : StorageError) :
      Answered Known command (.failed (.commitOutcomeUnknown unit error))

theorem Transfer.lawful_order (runner : Runner) (command : Command) :
    (order runner command).Lawful Known truly fun reply => truly → Answered Known command reply := by
  refine UnitOfWork.lawful_replying runner unitName ((lawful_perform command).mono ?_)
    (fun error _ => .declined (.storage error)) fun name error _ => .unknown name error
  intro result hresult htruly
  cases result with
  | ok row => exact .entry row
  | error failure => exact .declined (hresult htruly failure rfl)

/-! ## What callers do -/

/-- What callers do who trade, on the connections that they have for it: units of work; reads on
connections of their own; and transactions that they keep open, trades in these, and their ends. -/
inductive Trading : List Nat → Work Reply → Prop
  | unit {α : Type} {body : Call α} (runner : Runner) (name : String) (reply : α → Reply) :
      body.run.Trades → Trading [] (Call.replying reply (runner.unit name body))
  | reads {α : Type} {call : Call α} (reply : α → Reply) :
      call.run.Reads → Trading [] (Call.replying reply (Place.pooled.run call))
  | opens (lockTimeout : Option Duration) : Trading [] (Scenario.opening lockTimeout)
  | within {work : Work Reply} (connection : Nat) : work.Trades → Trading [connection] work
  | closes {statement : Statement} (connection : Nat) : statement.isEnd = true →
      Trading [connection] (Scenario.closing statement)

/-- Whoever comes trades. -/
def Event.Trades : Event → Prop
  | .spawn connections _ work => Trading connections work
  | _ => True

theorem Scenario.lawful_opening (lockTimeout : Option Duration) :
    (opening lockTimeout).Lawful Known truly fun _ => True := by
  have hleft : ∀ reply : Reply, (Work.giveBack (.done reply)).Lawful Known truly fun _ => True :=
    fun reply => .giveBack (.done trivial)
  refine .connect fun result => ?_
  cases result with
  | error error => exact .done trivial
  | ok =>
    refine .exec trivial fun answer _ => ?_
    cases answer with
    | error error => exact hleft _
    | ok =>
      cases lockTimeout with
      | none => exact .done trivial
      | some bound =>
        refine .exec trivial fun answer _ => ?_
        cases answer with
        | error error => exact hleft _
        | ok => exact .done trivial

theorem Trading.lawful {connections : List Nat} {work : Work Reply} (h : Trading connections work) :
    work.Lawful Known truly fun _ => True := by
  cases h with
  | unit runner name reply hbody =>
    exact UnitOfWork.lawful_replying runner name hbody.lawful (fun _ => trivial) fun _ _ => trivial
  | reads reply hcall =>
    refine .connect fun result => ?_
    cases result with
    | error error => exact .done trivial
    | ok => exact (hcall.lawful.bind fun _ _ => .giveBack (.done trivial)).bind fun _ _ => .done trivial
  | opens lockTimeout => exact Scenario.lawful_opening lockTimeout
  | within connection hwork => exact hwork.lawful
  | closes connection hend =>
    refine .exec (Statement.lawful_of_not_isWrite ?_) fun _ _ => .giveBack (.done trivial)
    rename_i statement
    cases statement <;> first | rfl | cases hend

namespace Operation

/-- Whether an operation is a transfer or a read. -/
def isTrading : Operation → Bool
  | transfer .. | account .. | accountsOf _ | entriesOf _ => true
  | _ => false

variable {operation : Operation}

/-- An operation of these kinds in an open transaction. -/
theorem trades_work (runner : Runner) (opened : List Int) (h : operation.isTrading = true) :
    (operation.work runner .callers opened).Trades := by
  have hreplying : ∀ {α : Type} {call : Call α} (reply : α → Reply), call.run.Trades →
      (Call.replying reply call).Trades := fun reply hcall => .bind hcall fun _ => .reads (.done trivial)
  cases operation with
  | transfer => exact hreplying _ (.transfer _)
  | account => exact hreplying _ (.reads (Store.reads_account _))
  | accountsOf => exact hreplying _ (.reads (Store.reads_accountsOf _))
  | entriesOf => exact hreplying _ (.reads (Store.reads_entriesOf _))
  | _ => cases h

/-- An operation of these kinds that stands alone. -/
theorem trading_work (runner : Runner) (opened : List Int) (h : operation.isTrading = true) :
    Trading [] (operation.work runner .pooled opened) := by
  cases operation with
  | transfer => exact .unit _ _ _ (.transfer _)
  | account => exact .reads _ (Store.reads_account _)
  | accountsOf => exact .reads _ (Store.reads_accountsOf _)
  | entriesOf => exact .reads _ (Store.reads_entriesOf _)
  | _ => cases h

end Operation

end Passbook
