import Passbook.Database.Statement
import Passbook.Draw
import Passbook.Reply

/-! # Work

The programs that callers run against the database, as data: what is asked for next, and how the
answer decides what comes after. Asking happens on connections. `connect` takes one from the pool and
puts it on top of those the work holds, a statement goes to the top one, and `giveBack` returns the
top one. Whatever is random is drawn, and `report` hands an interim reply to the caller,
who keeps it however the work ends.

Who runs the work, when, and between which other works is decided elsewhere; a `Call` is work that
may fail. -/

namespace Passbook

inductive Work (α : Type) : Type
  | done (value : α)
  | connect (next : Except StorageError Unit → Work α)
  | giveBack (rest : Work α)
  | exec (statement : Statement) (next : statement.Answer → Work α)
  | draw (next : Draw → Work α)
  | report (reply : Reply) (rest : Work α)

namespace Work

/-- One work after another. -/
def bind {α β : Type} : Work α → (α → Work β) → Work β
  | done value, f => f value
  | connect next, f => connect fun result => (next result).bind f
  | giveBack rest, f => giveBack (rest.bind f)
  | exec statement next, f => exec statement fun answer => (next answer).bind f
  | draw next, f => draw fun drawn => (next drawn).bind f
  | report reply rest, f => report reply (rest.bind f)

instance : Monad Work where
  pure := done
  bind := bind

theorem bind_done {α : Type} (work : Work α) : work.bind done = work := by
  induction work <;> simp_all [bind]

theorem bind_bind {α β γ : Type} (work : Work α) (f : α → Work β) (g : β → Work γ) :
    (work.bind f).bind g = work.bind fun value => (f value).bind g := by
  induction work <;> simp_all [bind]

end Work

/-- Work that may fail. -/
abbrev Call := ExceptT Failure Work

namespace Call

/-- The answer to a statement; a storage error ends the call. -/
def ask (statement : Statement) : Call (List statement.Row) :=
  ExceptT.mk (.exec statement fun answer => .done (answer.mapError .storage))

/-- Draws an identifier and a number for an account. -/
def draw : Call Draw := ExceptT.mk (.draw fun drawn => .done (.ok drawn))

/-- Hands an interim reply to the caller. -/
def report (reply : Reply) : Call Unit := ExceptT.mk (.report reply (.done (.ok ())))

/-- A result that is already known. -/
def ofExcept {ε α : Type} (failure : ε → Failure) (result : Except ε α) : Call α :=
  ExceptT.mk (.done (result.mapError failure))

/-- The first row, or the failure for the lack of one. -/
def first {α : Type} (rows : List α) (missing : Failure) : Call α :=
  match rows with
  | row :: _ => pure row
  | [] => throw missing

/-- The work that does the call and makes a reply of its result. -/
def replying {α : Type} (reply : α → Reply) (call : Call α) : Work Reply :=
  call.run.bind fun result => .done (.ofResult reply result)

end Call

/-- Where a store call runs: on the connection that its caller holds, or on one that it takes from
the pool for itself alone. -/
inductive Place
  | callers
  | pooled
  deriving DecidableEq, Repr

/-- Does a call at the given place. -/
def Place.run {α : Type} (place : Place) (call : Call α) : Call α :=
  match place with
  | .callers => call
  | .pooled => ExceptT.mk <| .connect fun
    | .error error => .done (.error (.storage error))
    | .ok () => call.run.bind fun result => .giveBack (.done result)

end Passbook
