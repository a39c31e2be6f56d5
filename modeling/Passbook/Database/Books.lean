import Passbook.Entry

/-! # Books

The rows of the ledger: accounts in the order in which they were added, entries in the order in
which they were published. A set of changes has the same shape, and `overlay` lays it over other
books: a changed account takes the place of the one with its number, a new one comes last, and
entries are added at the end. What a transaction sees, what it has written so far and what a commit
publishes are all overlays. -/

namespace Passbook

structure Books where
  accounts : List Account
  entries : List Entry
  deriving DecidableEq, Repr

namespace Books

def empty : Books := ⟨[], []⟩

/-- The account with the given number. -/
def account? (books : Books) (id : Int) : Option Account := books.accounts.find? (·.id == id)

/-- Puts a row in the place of the one with its number, or at the end. -/
def put (account : Account) : List Account → List Account
  | [] => [account]
  | row :: rows => if row.id = account.id then account :: rows else row :: put account rows

/-- The books after the changes. -/
def overlay (books changes : Books) : Books :=
  ⟨changes.accounts.foldl (fun rows account => put account rows) books.accounts,
    books.entries ++ changes.entries⟩

/-- The accounts of a user, oldest first; of equal age, in the order of the books. -/
def accountsOf (books : Books) (owner : Uuid) : List Account :=
  (books.accounts.filter (·.owner == owner)).mergeSort fun a b => a.createdAt.le b.createdAt

/-- The entries of an account, oldest first; of equal age, in the order of their identifiers. -/
def entriesOf (books : Books) (id : Int) : List Entry :=
  (books.entries.filter (·.account == id)).mergeSort Entry.le

theorem overlay_empty (books : Books) : books.overlay empty = books := by
  simp [overlay, empty]

theorem find?_put (account : Account) (id : Int) (rows : List Account) :
    (put account rows).find? (·.id == id) =
      if account.id = id then some account else rows.find? (·.id == id) := by
  induction rows with
  | nil => by_cases h : account.id = id <;> simp [put, h]
  | cons row rows ih =>
    by_cases hrow : row.id = account.id <;> by_cases h : account.id = id <;>
      simp_all [put, List.find?_cons]

end Books

end Passbook
