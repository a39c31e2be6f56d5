import Passbook.Instant.Basic
import Passbook.Money
import Passbook.Uuid

/-! # Accounts

An account as its row is stored. Accounts are numbered by integers; `AccountId` holds the rules on
these numbers. The balance of a row is any number of the money range; code that
computes with it asks for `Account.currentBalance`, which refuses a negative one. -/

namespace Passbook

namespace AccountId

/-- The smallest number that an account may have, of 10 digits. -/
def least : Int := 1000000000

/-- The greatest number that an account may have, of 15 digits. -/
def greatest : Int := 999999999999999

/-- Whether the number may be that of an account. -/
def isValid (id : Int) : Bool := decide (least ≤ id ∧ id ≤ greatest)

/-- How many numbers there are. -/
def count : Nat := 999999000000000

/-- Numbers scattered over the range, one for each serial number. -/
def drawn (serial : Nat) : Int :=
  least + ((437218905117667 + serial * 381966011250107) % count : Nat)

theorem isValid_drawn (serial : Nat) : isValid (drawn serial) = true := by
  apply decide_eq_true
  simp only [drawn, least, greatest, count]
  omega

end AccountId

/-- The kinds of account; a user has at most one of each. -/
inductive AccountKind
  | savings
  | current
  deriving DecidableEq, Repr, Inhabited

namespace AccountKind

def text : AccountKind → String
  | savings => "SAVINGS"
  | current => "CURRENT"

instance : ToString AccountKind := ⟨text⟩

/-- All kinds, in the order in which they are named to a reader. -/
def all : List AccountKind := [savings, current]

def ofText? (name : String) : Option AccountKind := all.find? (·.text == name)

end AccountKind

/-- The row of an account. -/
structure Account where
  id : Int
  owner : Uuid
  balance : Int
  kind : AccountKind
  createdAt : Instant
  updatedAt : Instant
  deriving DecidableEq, Repr

/-- The balance of the row if it is one that an account may have. -/
def Account.currentBalance (account : Account) : Except MoneyError Balance :=
  Balance.ofInt account.balance

/-- Which account to read, and whether to lock its row until the unit of work ends. -/
structure AccountLookup where
  id : Int
  locking : Bool
  deriving DecidableEq, Repr

namespace AccountLookup

def byId (id : Int) : AccountLookup := ⟨id, false⟩

/-- The same lookup, with the row locked. -/
def forUpdate (lookup : AccountLookup) : AccountLookup := { lookup with locking := true }

end AccountLookup

end Passbook
