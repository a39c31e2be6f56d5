import Passbook.Context
import Passbook.Settings
import Passbook.Work

/-! # Units of work

A unit of work runs a call inside one transaction on a connection of its own: it commits if the call
succeeds and rolls back if it fails. The bound on lock waits, if there is one, is set right after the
beginning. A commit that reports an error leaves the outcome unknown; an error of a rollback is of
no interest, since the transaction is gone either way.

The deadline of a unit covers everything up to the statement that ends its transaction. It is kept
by whoever runs the unit. -/

namespace Passbook

/-- How units of work are run: their usual deadline and the bound on their lock waits. -/
structure Runner where
  timeout : Duration
  lockTimeout : Option Duration
  deriving DecidableEq, Repr

namespace Runner

/-- Five seconds, and lock waits without a bound. -/
def default : Runner := ⟨.ofMillis 5000, none⟩

/-- The same runner with another usual deadline. -/
def withTimeout (runner : Runner) (timeout : Duration) : Runner := { runner with timeout }

/-- The same runner with another bound on lock waits, or with none. -/
def withLockTimeout (runner : Runner) (lockTimeout : Option Duration) : Runner :=
  { runner with lockTimeout }

def ofSettings (settings : Settings) : Runner :=
  (default.withTimeout settings.transferTimeout).withLockTimeout settings.lockTimeout

/-- The time that a unit of work may take, which the context may set. -/
def deadline (runner : Runner) (context : Context) : Duration :=
  context.timeout.getD runner.timeout

/-- Ends the transaction as the result of the call asks for. -/
def finish {α : Type} (name : String) : Except Failure α → Call α
  | .ok value => ExceptT.mk <| .exec .commit fun
    | .ok _ => .done (.ok value)
    | .error error => .done (.error (.commitOutcomeUnknown name error))
  | .error failure => ExceptT.mk <| .exec .rollback fun _ => .done (.error failure)

/-- Sets the bound on lock waits, if there is one. -/
def limitLockWaits (runner : Runner) : Call Unit := do
  if let some bound := runner.lockTimeout then
    let _ ← Call.ask (.setLockTimeout bound.millis)

/-- Runs a call as the unit of work with the given name. -/
def unit {α : Type} (runner : Runner) (name : String) (body : Call α) : Call α :=
  Place.pooled.run do
    let _ ← Call.ask .begin
    runner.limitLockWaits
    let result ← ExceptT.mk (body.run.bind fun result => .done (.ok result))
    finish name result

end Runner

end Passbook
