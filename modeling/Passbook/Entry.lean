import Passbook.Account

/-! # Ledger entries

Each transfer writes two entries that share its identifier: a debit on the sender's account and a
credit on the receiver's. An entry records the balance right after it was applied. -/

namespace Passbook

/-- The side of an entry. -/
inductive Side
  | debit
  | credit
  deriving DecidableEq, Repr, Inhabited

namespace Side

def text : Side → String
  | debit => "DEBIT"
  | credit => "CREDIT"

instance : ToString Side := ⟨text⟩

/-- Both sides, in the order in which they are named to a reader. -/
def all : List Side := [debit, credit]

def ofText? (name : String) : Option Side := all.find? (·.text == name)

/-- What an entry of this side adds to its account's balance. -/
def signed (side : Side) (amount : Int) : Int :=
  match side with
  | debit => -amount
  | credit => amount

end Side

/-- The row of an entry; it never changes once written. -/
structure Entry where
  id : Uuid
  transfer : Uuid
  account : Int
  amount : Int
  balanceAfter : Int
  side : Side
  createdAt : Instant
  deriving DecidableEq, Repr

/-- Entries in the order in which they are listed: by time, and by identifier at equal times. -/
def Entry.le (a b : Entry) : Bool :=
  if a.createdAt = b.createdAt then a.id.le b.id else a.createdAt.le b.createdAt

/-- An entry to be written; the database gives it its identifier and time. -/
structure NewEntry where
  transfer : Uuid
  account : Int
  amount : Amount
  balanceAfter : Balance
  side : Side
  deriving DecidableEq, Repr

namespace NewEntry

/-- The entry of one side of a transfer on an account with the given number and balance. -/
def ofBalance (side : Side) (transfer : Uuid) (account balance : Int) (amount : Amount) :
    Except MoneyError NewEntry :=
  (Balance.ofInt balance).map fun balanceAfter => { transfer, account, amount, balanceAfter, side }

/-- The entry of one side of a transfer, made from the account's row after the update. -/
def ofAccount (side : Side) (transfer : Uuid) (account : Account) (amount : Amount) :
    Except MoneyError NewEntry :=
  ofBalance side transfer account.id account.balance amount

end NewEntry

end Passbook
