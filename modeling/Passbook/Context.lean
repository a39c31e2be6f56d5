import Passbook.Duration
import Passbook.Uuid

/-! # Operation contexts

What a caller says about one operation: an identifier that ties log lines together, and a deadline
that takes the place of the usual one. -/

namespace Passbook

structure Context where
  correlation : Option Uuid
  timeout : Option Duration
  deriving DecidableEq, Repr

namespace Context

/-- A context that says nothing. -/
def empty : Context := ⟨none, none⟩

def withTimeout (context : Context) (timeout : Duration) : Context :=
  { context with timeout := some timeout }

def withCorrelation (context : Context) (id : Uuid) : Context :=
  { context with correlation := some id }

end Context

end Passbook
