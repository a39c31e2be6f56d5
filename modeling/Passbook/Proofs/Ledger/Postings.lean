import Mathlib.Algebra.BigOperators.Group.List.Basic
import Mathlib.Algebra.Ring.Int.Defs
import Passbook.Proofs.Database.Keyed

/-! # Postings

Double entry, as a property of books and of changes to them. A `Posting` is the pair of entries that a
transfer writes. Changes that balance consist of postings and of new accounts that are empty, and each
entry leads from one balance of its account to the next (`Books.Balances`). Laid over books, such
changes leave the total as it is (`Balances.total`); what is laid over books in this way one after
another is `Books.Posted`. -/

namespace Passbook

namespace Entry

/-- What an entry adds to its account's balance. -/
def signed (entry : Entry) : Int := entry.side.signed entry.amount

/-- The entries of an account, in the order in which they were written. -/
def about (id : Int) (entries : List Entry) : List Entry := entries.filter (·.account == id)

/-- From one balance to another by way of entries, each of which records the balance that it makes of
the one before. -/
inductive Leads : Int → List Entry → Int → Prop
  | nil (balance : Int) : Leads balance [] balance
  | cons {before after : Int} {entry : Entry} {entries : List Entry} :
      entry.balanceAfter = before + entry.signed → Leads entry.balanceAfter entries after →
      Leads before (entry :: entries) after

variable {before middle after : Int} {entries later : List Entry}

theorem Leads.append (h : Leads before entries middle) (h' : Leads middle later after) :
    Leads before (entries ++ later) after := by
  induction h with
  | nil => exact h'
  | cons hentry _ ih => exact .cons hentry (ih h')

theorem Leads.single {entry : Entry} (h : entry.balanceAfter = before + entry.signed) :
    Leads before [entry] entry.balanceAfter :=
  .cons h (.nil _)

theorem Leads.eq_add_sum (h : Leads before entries after) :
    after = before + (entries.map signed).sum := by
  induction h with
  | nil => simp
  | cons hentry _ ih => rw [ih, hentry, List.map_cons, List.sum_cons, Int.add_assoc]

theorem about_append (id : Int) (entries later : List Entry) :
    about id (entries ++ later) = about id entries ++ about id later :=
  List.filter_append ..

theorem about_eq_nil {id : Int} (h : ∀ entry ∈ entries, entry.account ≠ id) :
    about id entries = [] := by
  rw [about, List.filter_eq_nil_iff]
  intro entry hmem
  simpa using h entry hmem

/-- Entries summed up account by account. -/
theorem sum_about {ids : List Int} (hids : ids.Nodup) (h : ∀ entry ∈ entries, entry.account ∈ ids) :
    (ids.map fun id => ((about id entries).map signed).sum).sum = (entries.map signed).sum := by
  induction entries with
  | nil => simp [about]
  | cons entry entries ih =>
    have hone : ∀ id, ((about id (entry :: entries)).map signed).sum =
        (if id = entry.account then entry.signed else 0) + ((about id entries).map signed).sum := by
      intro id
      by_cases hid : id = entry.account
      · simp [about, hid]
      · simp [about, hid, Ne.symm hid]
    have hcount : (ids.map fun id => if id = entry.account then entry.signed else 0).sum =
        entry.signed := by
      rw [List.sum_map_ite_eq, List.count_eq_one_of_mem hids (h entry List.mem_cons_self)]
      simp
    simp only [hone, List.sum_map_add, hcount, ih fun other hmem => h other (.tail _ hmem),
      List.map_cons, List.sum_cons]

end Entry

open Entry

/-- The entries of one transfer: a debit and a credit of the same amount on two accounts, under the
identifier that was drawn for it. -/
structure Posting where
  draw : Draw
  debit : Entry
  credit : Entry
  sides : debit.side = .debit ∧ credit.side = .credit
  transfers : debit.transfer = draw.uuid ∧ credit.transfer = draw.uuid
  positive : 0 < debit.amount
  amounts : credit.amount = debit.amount
  accounts : debit.account ≠ credit.account

namespace Posting

/-- The identifier of the transfer. -/
def transfer (posting : Posting) : Uuid := posting.draw.uuid

def entries (posting : Posting) : List Entry := [posting.debit, posting.credit]

theorem sum_entries (postings : List Posting) : ((postings.flatMap entries).map signed).sum = 0 := by
  induction postings with
  | nil => rfl
  | cons posting postings ih =>
    have hdebit : posting.debit.signed = -posting.debit.amount := by
      rw [signed, posting.sides.1]; rfl
    have hcredit : posting.credit.signed = posting.debit.amount := by
      rw [signed, posting.sides.2, posting.amounts]; rfl
    simp only [entries, List.flatMap_cons, List.map_append, List.map_cons, List.map_nil,
      List.sum_append, List.sum_cons, List.sum_nil, hdebit, hcredit, ih]
    omega

/-- A transfer's entries are those of its posting. -/
theorem filter_entries {postings : List Posting} {posting : Posting} (hmem : posting ∈ postings)
    (hn : (postings.map transfer).Nodup) :
    (postings.flatMap entries).filter (·.transfer == posting.transfer) = posting.entries := by
  have hof : ∀ other : Posting, other.entries.filter (·.transfer == posting.transfer) =
      if other.transfer = posting.transfer then other.entries else [] := by
    intro other
    by_cases h : other.transfer = posting.transfer
    · have h' : other.draw.uuid = posting.transfer := h
      simp [entries, other.transfers, h, h']
    · have h' : other.draw.uuid ≠ posting.transfer := h
      simp [entries, other.transfers, h, h']
  induction postings with
  | nil => cases hmem
  | cons first postings ih =>
    rw [List.map_cons, List.nodup_cons] at hn
    rw [List.flatMap_cons, List.filter_append, hof]
    rcases List.mem_cons.mp hmem with rfl | hmem
    · have hnone : (postings.flatMap entries).filter (·.transfer == posting.transfer) = [] := by
        rw [List.filter_flatMap, List.flatMap_eq_nil_iff]
        intro other hother
        rw [hof, if_neg]
        exact fun h => hn.1 (List.mem_map.mpr ⟨other, hother, h⟩)
      rw [if_pos rfl, hnone, List.append_nil]
    · have hne : first.transfer ≠ posting.transfer := fun h =>
        hn.1 (List.mem_map.mpr ⟨posting, hmem, h.symm⟩)
      rw [if_neg hne, ih hmem hn.2, List.nil_append]

end Posting

namespace Books

/-- The balance of an account, which is 0 if it is not there. -/
def balance (books : Books) (id : Int) : Int := ((books.account? id).map (·.balance)).getD 0

/-- All balances together. -/
def total (books : Books) : Int := (books.accounts.map (·.balance)).sum

variable {start books books' changes changes' : Books} {postings others : List Posting} {id : Int}

theorem balance_congr (h : books.account? id = books'.account? id) :
    books.balance id = books'.balance id := by
  rw [balance, h]
  rfl

theorem balance_of_account? {row : Account} (h : books.account? id = some row) :
    books.balance id = row.balance := by
  rw [balance, h]
  rfl

theorem balance_of_none (h : books.account? id = none) : books.balance id = 0 := by
  rw [balance, h]
  rfl

theorem Keyed.account?_of_mem {row : Account} (h : books.Keyed) (hmem : row ∈ books.accounts) :
    books.account? row.id = some row := by
  cases hfound : books.account? row.id with
  | none =>
    rw [account?, List.find?_eq_none] at hfound
    simpa using hfound row hmem
  | some found =>
    rw [List.inj_on_of_nodup_map h (List.mem_of_find?_eq_some hfound) hmem (id_of_account? hfound)]

/-- A row that is put in its place changes the total by what it has over the row before. -/
theorem sum_put (row : Account) (rows : List Account) :
    ((put row rows).map (·.balance)).sum =
      (rows.map (·.balance)).sum + (row.balance - balance ⟨rows, []⟩ row.id) := by
  induction rows with
  | nil => simp [put, balance, account?]
  | cons first rows ih =>
    by_cases h : first.id = row.id
    · simp [put, h, balance, account?]
      omega
    · simp only [put, if_neg h, List.map_cons, List.sum_cons, ih]
      simp [balance, account?, h]
      omega

theorem total_overlay (books : Books) (hkeyed : changes.Keyed) :
    (books.overlay changes).total =
      books.total + (changes.accounts.map fun row => row.balance - books.balance row.id).sum := by
  obtain ⟨rows, entries⟩ := books
  obtain ⟨accounts, written⟩ := changes
  unfold Keyed at hkeyed
  unfold overlay total
  dsimp only at hkeyed ⊢
  induction accounts generalizing rows with
  | nil => simp
  | cons row accounts ih =>
    rw [List.map_cons, List.nodup_cons] at hkeyed
    have hrest : (accounts.map fun other =>
          other.balance - balance ⟨put row rows, entries⟩ other.id) =
        accounts.map fun other => other.balance - balance ⟨rows, entries⟩ other.id := by
      refine List.map_congr_left fun other hmem => ?_
      have hne : row.id ≠ other.id := fun h => hkeyed.1 (h ▸ List.mem_map_of_mem hmem)
      have hsame : balance ⟨put row rows, entries⟩ other.id = balance ⟨rows, entries⟩ other.id :=
        balance_congr ((find?_put row other.id rows).trans (if_neg hne))
      rw [hsame]
    rw [List.foldl_cons, ih _ hkeyed.2, hrest, sum_put, List.map_cons, List.sum_cons]
    exact Int.add_assoc ..

/-- Changes that consist of the postings and of new accounts that are empty. -/
structure Balances (books changes : Books) (postings : List Posting) : Prop where
  entries : changes.entries = postings.flatMap Posting.entries
  within : ∀ entry ∈ changes.entries, (changes.account? entry.account).isSome = true
  leads : ∀ id, Leads (books.balance id) (about id changes.entries)
    ((books.overlay changes).balance id)

namespace Balances

theorem about_eq_nil (h : Balances books changes postings) (hid : changes.account? id = none) :
    about id changes.entries = [] := by
  refine Entry.about_eq_nil fun entry hmem heq => ?_
  have hsome := h.within entry hmem
  rw [heq, hid] at hsome
  cases hsome

theorem empty (books : Books) : Balances books .empty [] :=
  ⟨rfl, List.forall_mem_nil _, fun id => by rw [overlay_empty]; exact .nil _⟩

/-- A new account is empty. -/
theorem created {row : Account} (hnew : books.account? row.id = none) (hzero : row.balance = 0) :
    Balances books ⟨[row], []⟩ [] := by
  refine ⟨rfl, List.forall_mem_nil _, fun id => ?_⟩
  suffices h : (books.overlay ⟨[row], []⟩).balance id = books.balance id by
    rw [h]
    exact .nil _
  rw [balance, account?_overlay_single]
  split
  · rename_i hid
    rw [← hid, balance_of_none hnew]
    simpa using hzero
  · rfl

/-- More is written on top of changes that balance. -/
theorem append (h : Balances books changes postings)
    (hentries : changes'.entries = changes.entries ++ others.flatMap Posting.entries)
    (hkept : ∀ id, (changes.account? id).isSome = true → (changes'.account? id).isSome = true)
    (hwithin : ∀ entry ∈ others.flatMap Posting.entries,
      (changes'.account? entry.account).isSome = true)
    (hleads : ∀ id, Leads ((books.overlay changes).balance id)
      (about id (others.flatMap Posting.entries)) ((books.overlay changes').balance id)) :
    Balances books changes' (postings ++ others) where
  entries := by rw [hentries, h.entries, List.flatMap_append]
  within := by
    intro entry hmem
    rw [hentries] at hmem
    rcases List.mem_append.mp hmem with hmem | hmem
    · exact hkept _ (h.within entry hmem)
    · exact hwithin entry hmem
  leads := by
    intro id
    rw [hentries, about_append]
    exact (h.leads id).append (hleads id)

/-- Changes that balance do so for any books that have the same rows for the changed accounts. -/
theorem of_rows (h : Balances books changes postings) (hkeyed : changes.Keyed)
    (hrows : ∀ id, (changes.account? id).isSome = true → books'.account? id = books.account? id) :
    Balances books' changes postings := by
  refine ⟨h.entries, h.within, fun id => ?_⟩
  cases hid : changes.account? id with
  | none =>
    have hsame : (books'.overlay changes).balance id = books'.balance id :=
      balance_congr (by rw [hkeyed.account?_overlay, hid, Option.none_or])
    rw [h.about_eq_nil hid, hsame]
    exact .nil _
  | some row =>
    have hbefore : books'.balance id = books.balance id :=
      balance_congr (hrows id (by rw [hid]; rfl))
    have hafter : (books'.overlay changes).balance id = (books.overlay changes).balance id :=
      balance_congr (by rw [hkeyed.account?_overlay, hkeyed.account?_overlay, hid]; rfl)
    rw [hbefore, hafter]
    exact h.leads id

/-- Changes that balance leave the total as it is. -/
theorem total (h : Balances books changes postings) (hkeyed : changes.Keyed) :
    (books.overlay changes).total = books.total := by
  have hrow : ∀ row ∈ changes.accounts, row.balance - books.balance row.id =
      ((about row.id changes.entries).map signed).sum := by
    intro row hmem
    have hfound := hkeyed.account?_of_mem hmem
    have hafter : (books.overlay changes).balance row.id = row.balance :=
      balance_of_account? (by rw [hkeyed.account?_overlay, hfound]; rfl)
    have hsum := (h.leads row.id).eq_add_sum
    rw [hafter] at hsum
    omega
  have hids : ∀ entry ∈ changes.entries, entry.account ∈ changes.accounts.map (·.id) := by
    intro entry hmem
    obtain ⟨row, hrow⟩ := Option.isSome_iff_exists.mp (h.within entry hmem)
    rw [← id_of_account? hrow]
    exact List.mem_map_of_mem (List.mem_of_find?_eq_some hrow)
  have hsum := sum_about hkeyed hids
  rw [List.map_map] at hsum
  have hzero : (changes.accounts.map fun row => row.balance - books.balance row.id).sum = 0 := by
    rw [List.map_congr_left hrow]
    exact hsum.trans (by rw [h.entries, Posting.sum_entries])
  rw [total_overlay books hkeyed, hzero, Int.add_zero]

end Balances

/-- The books after the postings, and after the creation of accounts. -/
structure Posted (start : Books) (postings : List Posting) (books : Books) : Prop where
  entries : books.entries = start.entries ++ postings.flatMap Posting.entries
  kept : ∀ id, (start.account? id).isSome = true → (books.account? id).isSome = true
  within : ∀ entry ∈ postings.flatMap Posting.entries,
    (books.account? entry.account).isSome = true
  leads : ∀ id, Leads (start.balance id) (about id (postings.flatMap Posting.entries))
    (books.balance id)
  total : books.total = start.total

theorem Posted.refl (books : Books) : Posted books [] books :=
  ⟨(List.append_nil _).symm, fun _ => id, List.forall_mem_nil _, fun _ => .nil _, rfl⟩

theorem Posted.overlay (h : Posted start postings books) (hbalances : Balances books changes others)
    (hkeyed : changes.Keyed) : Posted start (postings ++ others) (books.overlay changes) where
  entries := by
    change books.entries ++ changes.entries = _
    rw [h.entries, hbalances.entries, List.flatMap_append, List.append_assoc]
  kept := by
    intro id hid
    rw [hkeyed.account?_overlay, Option.isSome_or, h.kept id hid, Bool.or_true]
  within := by
    intro entry hmem
    rw [hkeyed.account?_overlay, Option.isSome_or]
    rw [List.flatMap_append, ← hbalances.entries] at hmem
    rcases List.mem_append.mp hmem with hmem | hmem
    · rw [h.within entry hmem, Bool.or_true]
    · rw [hbalances.within entry hmem, Bool.true_or]
  leads := by
    intro id
    rw [List.flatMap_append, about_append, ← hbalances.entries]
    exact (h.leads id).append (hbalances.leads id)
  total := (hbalances.total hkeyed).trans h.total

end Books

end Passbook
