import Passbook.Proofs.Database.Views

/-! # Books with one row for each account

In keyed books an account has one row at most (`Books.Keyed`). Changes that are keyed are seen through
a look-up as one expects: the changed row if there is one, and the old row otherwise
(`Keyed.account?_overlay`), and they can be laid over the books one after the other
(`overlay_assoc`). What a statement changes is keyed, and it is a row that is there or one
that is added (`Statement.of_changes`). -/

namespace Passbook

namespace Books

variable {books changes : Books} {id : Int} {row : Account}

/-- No two rows have the same number. -/
def Keyed (books : Books) : Prop := (books.accounts.map (·.id)).Nodup

theorem map_id_put (account : Account) (rows : List Account) :
    (put account rows).map (·.id) =
      if account.id ∈ rows.map (·.id) then rows.map (·.id) else rows.map (·.id) ++ [account.id] := by
  induction rows with
  | nil => rfl
  | cons row rows ih =>
    by_cases h : row.id = account.id
    · simp [put, h]
    · have hne : account.id ≠ row.id := fun he => h he.symm
      simp only [put, if_neg h, List.map_cons, ih, List.mem_cons, hne, false_or]
      split <;> rfl

theorem Keyed.overlay (h : books.Keyed) (changes : Books) : (books.overlay changes).Keyed := by
  obtain ⟨accounts, entries⟩ := changes
  unfold Keyed at h ⊢
  unfold Books.overlay
  dsimp only
  generalize books.accounts = rows at h ⊢
  induction accounts generalizing rows with
  | nil => exact h
  | cons account accounts ih =>
    refine ih (put account rows) ?_
    rw [map_id_put]
    split
    · exact h
    · rename_i hnew
      rw [List.nodup_append]
      refine ⟨h, by simp, ?_⟩
      intro key hkey other hother
      rintro rfl
      rw [List.mem_singleton] at hother
      exact hnew (hother ▸ hkey)

theorem find?_reverse {rows : List Account} (h : (rows.map (·.id)).Nodup) (id : Int) :
    rows.reverse.find? (·.id == id) = rows.find? (·.id == id) := by
  induction rows with
  | nil => rfl
  | cons row rows ih =>
    rw [List.map_cons, List.nodup_cons] at h
    rw [List.reverse_cons, List.find?_append, ih h.2]
    by_cases hid : row.id = id
    · have hnone : rows.find? (·.id == id) = none := by
        rw [List.find?_eq_none]
        intro other hmem hother
        have hsame : other.id = row.id := by rw [hid]; simpa using hother
        exact h.1 (hsame ▸ List.mem_map_of_mem hmem)
      simp [hnone, hid]
    · simp [hid]

/-- An account after changes with one row for each account. -/
theorem Keyed.account?_overlay (h : changes.Keyed) (books : Books) (id : Int) :
    (books.overlay changes).account? id = (changes.account? id).or (books.account? id) := by
  rw [Books.account?_overlay, find?_reverse h]
  rfl

theorem account?_single (row : Account) (entries : List Entry) (id : Int) :
    account? ⟨[row], entries⟩ id = if row.id = id then some row else none := by
  by_cases h : row.id = id <;> simp [account?, h]

theorem account?_overlay_single (books : Books) (row : Account) (entries : List Entry) (id : Int) :
    (books.overlay ⟨[row], entries⟩).account? id =
      if row.id = id then some row else books.account? id := by
  have hkeyed : Keyed ⟨[row], entries⟩ := by simp [Keyed]
  rw [hkeyed.account?_overlay, account?_single]
  split <;> rfl

/-- Rows of different accounts can be put in either order, if one of them takes the place of a row. -/
theorem put_comm {account other : Account} {rows : List Account} (hne : account.id ≠ other.id)
    (hmem : account.id ∈ rows.map (·.id)) :
    put account (put other rows) = put other (put account rows) := by
  induction rows with
  | nil => cases hmem
  | cons row rows ih =>
    by_cases ha : row.id = account.id
    · have ho : row.id ≠ other.id := fun he => hne (ha.symm.trans he)
      simp [put, ha, hne]
    · have hmem' : account.id ∈ rows.map (·.id) := by
        rcases List.mem_cons.mp hmem with he | hmem
        · exact absurd he.symm ha
        · exact hmem
      by_cases ho : row.id = other.id
      · simp [put, ho, Ne.symm hne]
      · simp [put, ha, ho, ih hmem']

theorem put_put {account row : Account} (h : row.id = account.id) (rows : List Account) :
    put account (put row rows) = put account rows := by
  induction rows with
  | nil => simp [put, h]
  | cons other rows ih =>
    by_cases ho : other.id = account.id
    · simp [put, h, ho]
    · simp [put, h, ho, ih]

/-- A row that has a place already takes it before or after the rows of other accounts. -/
theorem put_foldl_comm {account : Account} {rows base : List Account}
    (hnot : account.id ∉ rows.map (·.id)) (hmem : account.id ∈ base.map (·.id)) :
    put account (rows.foldl (fun base row => put row base) base) =
      rows.foldl (fun base row => put row base) (put account base) := by
  induction rows generalizing base with
  | nil => rfl
  | cons row rows ih =>
    rw [List.map_cons, List.mem_cons, not_or] at hnot
    have hmem' : account.id ∈ (put row base).map (·.id) := by
      rw [map_id_put]
      split
      · exact hmem
      · exact List.mem_append_left _ hmem
    rw [List.foldl_cons, List.foldl_cons, ih hnot.2 hmem', put_comm hnot.1 hmem]

/-- A row that comes after changed rows can be put among them. -/
theorem put_foldl (account : Account) {rows : List Account} (h : (rows.map (·.id)).Nodup)
    (base : List Account) :
    put account (rows.foldl (fun base row => put row base) base) =
      (put account rows).foldl (fun base row => put row base) base := by
  induction rows generalizing base with
  | nil => rfl
  | cons row rows ih =>
    rw [List.map_cons, List.nodup_cons] at h
    by_cases hid : row.id = account.id
    · have hmem : account.id ∈ (put row base).map (·.id) := by
        rw [map_id_put, ← hid]
        split
        · assumption
        · simp
      rw [put, if_pos hid, List.foldl_cons, List.foldl_cons, put_foldl_comm (hid ▸ h.1) hmem,
        put_put hid]
    · rw [put, if_neg hid, List.foldl_cons, List.foldl_cons, ih h.2]

/-- Changes laid over each other are laid over the books one after the other. -/
theorem overlay_assoc (h : changes.Keyed) (books later : Books) :
    (books.overlay changes).overlay later = books.overlay (changes.overlay later) := by
  obtain ⟨accounts, entries⟩ := changes
  obtain ⟨accounts', entries'⟩ := later
  unfold Keyed at h
  unfold overlay
  dsimp only at h ⊢
  rw [List.append_assoc]
  congr 1
  induction accounts' generalizing accounts with
  | nil => rfl
  | cons account accounts' ih =>
    rw [List.foldl_cons, List.foldl_cons, put_foldl account h books.accounts]
    exact ih (put account accounts) (@Keyed.overlay ⟨accounts, []⟩ h ⟨[account], []⟩)

/-- Entries change no account. -/
theorem account?_overlay_entries (books : Books) (entries : List Entry) (id : Int) :
    (books.overlay ⟨[], entries⟩).account? id = books.account? id := rfl

end Books

namespace Statement

variable {around : Surroundings} {view : Books} {statement : Statement} {effect : Effect statement}
  {id : Int}

/-- A row is changed by an update of it, and added by an insertion if it is not there. -/
theorem of_changes (he : statement.effect around view = .ok effect)
    (hid : (effect.changes.account? id).isSome = true) :
    (∃ balance, statement = .updateAccount id balance ∧ (view.account? id).isSome = true) ∨
      ∃ owner kind, statement = .insertAccount id owner kind ∧ view.account? id = none := by
  have honly : ∀ {row : Account}, (Books.account? ⟨[row], []⟩ id).isSome = true → row.id = id := by
    intro row hrow
    rw [Books.account?_single] at hrow
    split at hrow
    · assumption
    · cases hrow
  cases hw : statement.isWrite with
  | false =>
    rw [changes_of_not_isWrite hw he] at hid
    cases hid
  | true =>
    cases statement with
    | updateAccount key balance =>
      rcases of_updateAccount he with ⟨-, rfl⟩ | ⟨row, row', hrow, hset, rfl⟩
      · cases hid
      · have hold : row.id = key := Books.id_of_account? hrow
        have hkey : row'.id = key := by rw [hset, ← hold]
        obtain rfl := hkey.symm.trans (honly hid)
        exact .inl ⟨balance, rfl, by rw [hrow]; rfl⟩
    | insertAccount key owner kind =>
      obtain ⟨row, hrow, rfl⟩ := of_insertAccount he
      obtain ⟨hkey, -, hfree⟩ := newAccount_ok hrow
      obtain rfl := hkey.symm.trans (honly hid)
      exact .inr ⟨owner, kind, rfl, hfree⟩
    | insertEntry entry =>
      obtain ⟨row, -, rfl⟩ := of_insertEntry he
      cases hid
    | _ => cases hw

/-- Only a row that is there is locked. -/
theorem isSome_of_lockedAccount? {published : Books}
    (h : statement.lockedAccount? published = some id) : (published.account? id).isSome = true := by
  have hmap : ∀ key, (published.account? key).map (·.id) = some id →
      (published.account? id).isSome = true := by
    intro key hkey
    rw [Books.map_id_account?] at hkey
    split at hkey
    · rename_i hsome
      cases hkey
      exact hsome
    · cases hkey
  cases statement with
  | selectAccount lookup =>
    simp only [lockedAccount?] at h
    split at h
    · exact hmap lookup.id h
    · cases h
  | updateAccount key balance => exact hmap key h
  | _ => cases h

theorem keyed_changes (he : statement.effect around view = .ok effect) : effect.changes.Keyed := by
  cases hw : statement.isWrite with
  | false =>
    rw [changes_of_not_isWrite hw he]
    exact List.nodup_nil
  | true =>
    cases statement with
    | updateAccount =>
      rcases of_updateAccount he with ⟨-, rfl⟩ | ⟨_, _, -, -, rfl⟩
      · exact List.nodup_nil
      · exact List.nodup_singleton _
    | insertAccount =>
      obtain ⟨_, -, rfl⟩ := of_insertAccount he
      exact List.nodup_singleton _
    | insertEntry =>
      obtain ⟨_, -, rfl⟩ := of_insertEntry he
      exact List.nodup_nil
    | _ => cases hw

end Statement

end Passbook
