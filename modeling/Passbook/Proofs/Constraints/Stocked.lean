import Passbook.Proofs.Constraints.Trades
import Passbook.Proofs.Constraints.Unchecked
import Passbook.Proofs.Database.Origins
import Passbook.Proofs.Ledger.Listing

/-! # What lawful work finds in the database

As long as all that is written is lawful, the accounts that are there remain the same, and all of them
solvent, in the committed books as in every open transaction (`Database.Stocked`). The answers to
lawful statements are then what the work expects (`Stocked.expects`). -/

namespace Passbook

variable {Known : Int → Prop} {truly : Prop}

namespace Books

variable {books changes : Books}

/-- All rows are those of known accounts, and solvent. -/
def Within (Known : Int → Prop) (books : Books) : Prop :=
  ∀ row ∈ books.accounts, Known row.id ∧ row.Solvent

theorem Within.empty (Known : Int → Prop) : Within Known .empty := List.forall_mem_nil _

theorem Within.overlay (h : books.Within Known) (hchanges : changes.Within Known) :
    (books.overlay changes).Within Known :=
  fun row hrow => (mem_overlay hrow).elim (h row) (hchanges row)

theorem Within.account? {row : Account} {id : Int} (h : books.Within Known)
    (hrow : books.account? id = some row) : Known id ∧ row.Solvent := by
  have hid := id_of_account? hrow
  subst hid
  exact h row (List.mem_of_find?_eq_some hrow)

end Books

namespace Database

variable {db db' : Database} {connection : Nat} {statement : Statement} {ran : Bool}
  {answer : statement.Answer}

/-- Just the known accounts are there, and all of them are solvent; open transactions have changed no
others, and leave them so. -/
structure Stocked (Known : Int → Prop) (db : Database) : Prop where
  found : ∀ id, Known id → (db.books.account? id).isSome = true
  rows : db.books.Within Known
  changes : ∀ connection transaction, db.transaction? connection = some transaction →
    transaction.changes.Within Known

/-- What a lawful statement writes. -/
theorem within_written (hlawful : statement.Lawful Known) :
    (db.written connection statement).Within Known := by
  refine written_of_effect (.empty Known) fun effect he => ?_
  cases statement with
  | updateAccount id balance =>
    rcases Statement.of_updateAccount he with ⟨-, rfl⟩ | ⟨row, _, hrow, rfl, rfl⟩
    · exact .empty Known
    · refine List.forall_mem_singleton.mpr ⟨?_, hlawful.2, balance.value_le⟩
      rw [Books.id_of_account? hrow]
      exact hlawful.1
  | insertEntry entry =>
    obtain ⟨row, -, rfl⟩ := Statement.of_insertEntry he
    exact .empty Known
  | insertAccount => exact hlawful.elim
  | _ => cases he; exact .empty Known

namespace Stocked

theorem view (h : db.Stocked Known) (connection : Nat) : (db.view connection).Within Known := by
  unfold Database.view
  split
  · exact h.rows.overlay (h.changes connection _ ‹_›)
  · exact h.rows

theorem found_view (h : db.Stocked Known) (connection : Nat) {id : Int} (hknown : Known id) :
    ((db.view connection).account? id).isSome = true := by
  unfold Database.view
  split
  · exact Books.isSome_overlay _ (h.found id hknown)
  · exact h.found id hknown

/-- What is lawful keeps to the constraints. -/
theorem admitted (h : db.Stocked Known) (hlawful : statement.Lawful Known) (connection : Nat) :
    statement.Admitted (db.surroundings connection) (db.view connection) := by
  cases statement with
  | updateAccount id balance =>
    exact ⟨h.found_view connection hlawful.1, hlawful.2, balance.value_le⟩
  | insertEntry entry =>
    exact ⟨entry.amount.value_pos, hlawful.2, h.found_view connection hlawful.1⟩
  | insertAccount => exact hlawful.elim
  | _ => trivial

theorem of_same (h : db.Stocked Known) (hbooks : db'.books = db.books)
    (hsame : ∀ other transaction, db'.transaction? other = some transaction →
      db.transaction? other = some transaction) : db'.Stocked Known where
  found := by rw [hbooks]; exact h.found
  rows := by rw [hbooks]; exact h.rows
  changes other transaction ht := h.changes other transaction (hsame other transaction ht)

/-- A lawful statement that is answered leaves it so. -/
theorem tells {Allowed : Twist → Prop} (h : db.Stocked Known) (hlawful : statement.Lawful Known)
    (htells : db.Tells Allowed connection statement db' ran answer) : db'.Stocked Known := by
  have hbooks : db'.books = db.books ∨
      ∃ books, books.Within Known ∧ db'.books = db.books.overlay books := by
    rw [htells.books]
    cases hp : if ran then db.published? connection statement else none with
    | none => exact .inl rfl
    | some books =>
      refine .inr ⟨books, ?_, rfl⟩
      split at hp
      · rcases published?_cases hp with ⟨transaction, ht, -, -, rfl⟩ | ⟨-, -, rfl⟩
        · exact h.changes connection transaction ht
        · exact within_written hlawful
      · cases hp
  refine ⟨?_, ?_, fun other transaction ht => ?_⟩
  · rcases hbooks with hbooks | ⟨books, -, hbooks⟩ <;> rw [hbooks]
    · exact h.found
    · exact fun id hknown => Books.isSome_overlay books (h.found id hknown)
  · rcases hbooks with hbooks | ⟨books, hwithin, hbooks⟩ <;> rw [hbooks]
    · exact h.rows
    · exact h.rows.overlay hwithin
  · by_cases hne : other = connection
    · subst hne
      cases htells.origin ht with
      | continued former hformer _ hchanges =>
        rw [hchanges]
        refine (h.changes _ former hformer).overlay ?_
        split
        · exact within_written hlawful
        · exact .empty Known
      | begun _ _ _ _ _ hchanges =>
        rw [hchanges]
        exact .empty Known
    · rw [(htells.untouched hne).transaction?] at ht
      exact h.changes other transaction ht

/-! ## Answers -/

/-- Rows that are told of are those of the account that was asked for. -/
theorem expects_selectAccount {Allowed : Twist → Prop} {lookup : AccountLookup}
    {rows : List Account} (h : db.Stocked Known)
    (htells : db.Tells Allowed connection (.selectAccount lookup) db' ran (.ok rows)) :
    ∀ row ∈ rows, row.id = lookup.id ∧ Known row.id := by
  refine htells.forall_rows rfl (fun effect he row hrow => ?_)
    fun value found hfound => List.forall_mem_map.mpr hfound
  cases he
  have haccount := Option.mem_toList.mp hrow
  have hid := Books.id_of_account? haccount
  exact ⟨hid, hid ▸ ((h.view connection).account? haccount).1⟩

theorem expects_updateAccount {Allowed : Twist → Prop} {id : Int} {balance : Balance}
    {rows : List Account}
    (htells : db.Tells Allowed connection (.updateAccount id balance) db' ran (.ok rows)) :
    ∀ row ∈ rows, row.id = id := by
  refine htells.forall_rows rfl (fun effect he => ?_)
    fun value found hfound => List.forall_mem_map.mpr hfound
  rcases Statement.of_updateAccount he with ⟨-, rfl⟩ | ⟨row, _, hrow, rfl, rfl⟩
  · exact List.forall_mem_nil _
  · have hid : row.id = id := Books.id_of_account? hrow
    exact List.forall_mem_singleton.mpr hid

/-- A lawful statement is answered as its work expects. -/
theorem expects {Allowed : Twist → Prop} (h : db.Stocked Known) (hlawful : statement.Lawful Known)
    (htells : db.Tells Allowed connection statement db' ran answer)
    (hhonest : truly → ∃ db'',
      db.Tells (fun twist => twist.isHonest = true) connection statement db'' ran answer) :
    statement.Expects Known truly answer := by
  cases answer with
  | error error => cases statement <;> trivial
  | ok rows =>
    have hrows : truly → statement.isQuery = true → ∃ effect,
        statement.effect (db.surroundings connection) (db.view connection) = .ok effect ∧
          rows = effect.rows := by
      intro htruly hq
      obtain ⟨_, hhonest⟩ := hhonest htruly
      exact hhonest.rows hq
    cases statement with
    | selectAccount lookup =>
      have hids := h.expects_selectAccount htells
      refine ⟨fun row hrow => ⟨(hids row hrow).1, (hids row hrow).2, fun htruly => ?_⟩,
        fun htruly hnone hknown => ?_⟩
      · obtain ⟨effect, he, rfl⟩ := hrows htruly rfl
        cases he
        exact ((h.view connection).account? (Option.mem_toList.mp hrow)).2
      · obtain ⟨effect, he, rfl⟩ := hrows htruly rfl
        cases he
        obtain ⟨row, hrow⟩ := Option.isSome_iff_exists.mp (h.found_view connection hknown)
        rw [hrow] at hnone
        cases hnone
    | updateAccount id balance =>
      refine ⟨expects_updateAccount htells, fun htruly => ?_⟩
      obtain ⟨effect, he, rfl⟩ := hrows htruly rfl
      rcases Statement.of_updateAccount he with ⟨hnone, rfl⟩ | ⟨row, _, hrow, rfl, rfl⟩
      · have hfound := h.found_view connection hlawful.1
        rw [hnone] at hfound
        cases hfound
      · exact ⟨_, rfl, rfl⟩
    | insertEntry entry =>
      intro htruly
      obtain ⟨effect, he, rfl⟩ := hrows htruly rfl
      obtain ⟨row, -, rfl⟩ := Statement.of_insertEntry he
      exact ⟨row, rfl⟩
    | _ => trivial

end Stocked

end Database

end Passbook
