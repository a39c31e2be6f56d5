import Passbook.Account

/-! # Draws

Identifiers and the numbers of new accounts are drawn from sources of randomness outside of the
ledger. What they give is a function of a serial number that counts the draws (`Draws`), and it can be
any function whose account numbers are in range. That draws are told apart is no part of it: where this
matters it is assumed. -/

namespace Passbook

/-- What is drawn under a serial number: an identifier, and a number for an account. -/
structure Draw where
  serial : Nat
  uuid : Uuid
  account : Int
  isValid_account : AccountId.isValid account = true

/-- What the sources of randomness give, draw by draw. -/
structure Draws where
  uuid : Nat → Uuid
  account : Nat → Int
  isValid_account : ∀ serial, AccountId.isValid (account serial) = true

namespace Draws

def draw (draws : Draws) (serial : Nat) : Draw :=
  ⟨serial, draws.uuid serial, draws.account serial, draws.isValid_account serial⟩

/-- Draws that a run can be repeated with: they are spread out from the serial number. -/
def counted : Draws := ⟨Uuid.drawn, AccountId.drawn, AccountId.isValid_drawn⟩

end Draws

end Passbook
