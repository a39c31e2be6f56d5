import Passbook.Transfer.Basic

/-! # Operations

What a caller can ask of the ledger, as data, and the work that does it. An operation runs on the
connection of its caller and joins the transaction that is open there, or it stands alone: a transfer
is then a unit of work of its own, and any other operation takes a connection for its one
statement. A `Plan` is a unit of work made of operations. -/

namespace Passbook

/-- An account as a caller names it: by its number, or as one of those opened so far, from 0. -/
inductive AccountName
  | number (id : Int)
  | opened (index : Nat)
  deriving DecidableEq, Repr

/-- The number of the account; nothing has the number 0. -/
def AccountName.resolve (opened : List Int) : AccountName → Int
  | number id => id
  | .opened index => opened.getD index 0

/-- What a caller asks for. Sums of money are numbers that are checked first, or, in the operations on
what is stored, sums that have been read before: such a balance may be below zero. -/
inductive Operation
  | transfer (sender : Uuid) (source target : AccountName) (amount : Int)
  | account (name : AccountName) (locking : Bool)
  | setBalance (name : AccountName) (balance : Int)
  | setStoredBalance (name : AccountName) (balance : Balance)
  | createAccount (name : AccountName) (owner : Uuid) (kind : AccountKind)
  | openAccount (owner : Uuid) (kind : AccountKind)
  | accountsOf (owner : Uuid)
  | entriesOf (name : AccountName)
  | record (side : Side) (transfer : Uuid) (name : AccountName) (balance amount : Int)
  | recordStored (side : Side) (transfer : Uuid) (name : AccountName) (balance : Balance)
    (amount : Amount)
  deriving DecidableEq, Repr

namespace Operation

/-- Goes on with a checked sum of money, or replies that it was refused. -/
def checked {α : Type} (result : Except MoneyError α) (call : α → Work Reply) : Work Reply :=
  match result with
  | .ok value => call value
  | .error error => .done (.refused error)

/-- A transfer on the caller's connection or as a unit of work. -/
def move (runner : Runner) (command : Command) : Place → Call Entry
  | .callers => Transfer.perform command
  | .pooled => Transfer.execute runner command

/-- The work of an operation, when the accounts with the given numbers have been opened. -/
def work (runner : Runner) (place : Place) (opened : List Int) : Operation → Work Reply
  | transfer sender source target amount =>
    Call.replying .entry
      (move runner ⟨sender, source.resolve opened, target.resolve opened, amount⟩ place)
  | account name locking =>
    Call.replying .account (Store.account place ⟨name.resolve opened, locking⟩)
  | setBalance name balance =>
    checked (Balance.ofInt balance) fun balance =>
      Call.replying .account (Store.setBalance place (name.resolve opened) balance)
  | setStoredBalance name balance =>
    Call.replying .account (Store.setBalance place (name.resolve opened) balance)
  | createAccount name owner kind =>
    Call.replying .account (Store.createAccount place (name.resolve opened) owner kind)
  | openAccount owner kind => Call.replying .created (Store.openAccount place owner kind)
  | accountsOf owner => Call.replying .accounts (Store.accountsOf place owner)
  | entriesOf name => Call.replying .entries (Store.entriesOf place (name.resolve opened))
  | record side shared name balance amount =>
    checked (do
      NewEntry.ofBalance side shared (name.resolve opened) balance (← Amount.ofInt amount))
      fun entry => Call.replying .entry (Store.record place entry)
  | recordStored side shared name balance amount =>
    Call.replying .entry
      (Store.record place ⟨shared, name.resolve opened, amount, balance, side⟩)

/-- The unit of work that an operation is when it stands alone. -/
def unitName? : Operation → Option String
  | transfer .. => some Transfer.unitName
  | _ => none

end Operation

/-- A unit of work that does operations in turn. It ends with the first failure unless failures are
ignored, and may fail by itself after the last operation. -/
structure Plan where
  name : String
  operations : List Operation
  ignoring : Bool
  failure : Option String
  deriving Repr

namespace Plan

/-- Does operations in turn and reports each reply. -/
def inTurn (runner : Runner) (ignoring : Bool) : List Operation → List Int → Call Unit
  | [], _ => pure ()
  | operation :: operations, opened => do
    let reply ← ExceptT.lift (operation.work runner .callers opened)
    Call.report reply
    match reply.failure?, ignoring with
    | some failure, false => throw failure
    | _, _ => inTurn runner ignoring operations (opened ++ reply.opened?.toList)

/-- What is done between the beginning and the end of the unit. -/
def body (runner : Runner) (opened : List Int) (plan : Plan) : Call Unit := do
  inTurn runner plan.ignoring plan.operations opened
  if let some reason := plan.failure then throw (.internal reason)

/-- The work of the whole unit. -/
def work (runner : Runner) (opened : List Int) (plan : Plan) : Work Reply :=
  Call.replying (fun () => .done) (runner.unit plan.name (plan.body runner opened))

end Plan

end Passbook
