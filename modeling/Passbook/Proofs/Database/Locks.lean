import Mathlib.Data.List.Nodup
import Passbook.Proofs.Database.Transactions

/-! # Row locks

Every row lock has one holder, and only an open transaction holds any (`LocksSound`). All operations
of the database keep it so. -/

namespace Passbook.Database

variable {db db' : Database} {connection other : Nat} {account : Int}

/-- A row is locked once, and by an open transaction. -/
structure LocksSound (db : Database) : Prop where
  nodup : (db.locks.map (·.1)).Nodup
  isSome : ∀ account connection, (account, connection) ∈ db.locks →
    (db.transaction? connection).isSome

theorem holder?_eq_none_iff :
    db.holder? account = none ↔ ∀ connection, (account, connection) ∉ db.locks := by
  unfold holder?
  rw [List.lookup_eq_none_iff]
  constructor
  · intro h connection hm
    simpa using h _ hm
  · intro h lock hm
    rw [bne_iff_ne]
    rintro rfl
    exact h lock.2 hm

namespace LocksSound

theorem eq_of_mem (h : db.LocksSound) (hc : (account, connection) ∈ db.locks)
    (ho : (account, other) ∈ db.locks) : connection = other :=
  congrArg Prod.snd (List.inj_on_of_nodup_map h.nodup hc ho rfl)

theorem holder?_iff (h : db.LocksSound) :
    db.holder? account = some connection ↔ (account, connection) ∈ db.locks := by
  refine ⟨mem_of_holder?, fun hm => ?_⟩
  cases hh : db.holder? account with
  | none => exact absurd hm (holder?_eq_none_iff.mp hh connection)
  | some holder => rw [h.eq_of_mem (mem_of_holder? hh) hm]

/-- It is enough to look at the connection that something happens to. -/
theorem of_untouched (h : db.LocksSound) (hn : (db'.locks.map (·.1)).Nodup)
    (hother : ∀ other, other ≠ connection → Untouched other db db')
    (hown : ∀ account, (account, connection) ∈ db'.locks →
      (db'.transaction? connection).isSome) : db'.LocksSound := by
  refine ⟨hn, fun account holder hm => ?_⟩
  by_cases he : holder = connection
  · subst he; exact hown account hm
  · have hu := hother holder he
    rw [hu.transaction?]
    exact h.isSome account holder ((hu.locks account).mp hm)

theorem of_sublist (h : db.LocksSound) (hs : db'.locks.Sublist db.locks)
    (hother : ∀ other, other ≠ connection → Untouched other db db')
    (hown : ∀ account, (account, connection) ∈ db'.locks →
      (db'.transaction? connection).isSome) : db'.LocksSound :=
  h.of_untouched (h.nodup.sublist (hs.map _)) hother hown

theorem forget (h : db.LocksSound) (connection : Nat) : (db.forget connection).LocksSound :=
  h.of_sublist List.filter_sublist (fun _ ho => .forget ho db) fun account hm =>
    absurd rfl ((mem_locks_forget db connection account connection).mp hm).2

theorem disconnect (h : db.LocksSound) (connection : Nat) :
    (db.disconnect connection).LocksSound :=
  h.of_sublist List.filter_sublist (fun _ ho => .disconnect ho db) fun account hm =>
    absurd rfl ((mem_locks_disconnect db connection account connection).mp hm).2

theorem close (h : db.LocksSound) (connection : Nat) : (db.close connection).LocksSound :=
  h.of_sublist List.filter_sublist (fun _ ho => .close ho db) fun account hm =>
    absurd rfl ((mem_locks_close db connection account connection).mp hm).2

/-- Who holds which locks, and what transactions are open, is all that counts. -/
theorem of_transactions (h : db.LocksSound) (hlocks : db'.locks = db.locks)
    (hsame : ∀ other, db'.transaction? other = db.transaction? other) : db'.LocksSound := by
  refine ⟨by rw [hlocks]; exact h.nodup, fun account holder hm => ?_⟩
  rw [hsame]
  exact h.isSome account holder (hlocks ▸ hm)

theorem note (h : db.LocksSound) (connection : Nat) (unended : Bool) :
    (db.note connection unended).LocksSound :=
  h.of_transactions rfl (transaction?_note db connection unended)

theorem wait (h : db.LocksSound) (connection : Nat) : (db.wait connection).LocksSound :=
  h.of_transactions (locks_wait db connection) (transaction?_wait db connection)

theorem abort (h : db.LocksSound) (connection : Nat) : (db.abort connection).LocksSound :=
  h.of_sublist (by rw [locks_abort]) (fun _ ho => .abort ho db) fun account hm => by
    rw [locks_abort] at hm
    obtain ⟨transaction, ht⟩ := Option.isSome_iff_exists.mp (h.isSome account connection hm)
    simp [transaction?, session_abort ht]

theorem refuse (h : db.LocksSound) (connection : Nat) (statement : Statement) :
    (db.refuse connection statement).LocksSound := by
  unfold Database.refuse
  split
  · exact h.forget connection
  · exact h.abort connection

theorem enter (h : db.LocksSound) (connection : Nat) : (db.enter connection).LocksSound :=
  h.of_sublist (by rw [locks_enter]) (fun _ ho => .enter ho db) fun account hm => by
    rw [locks_enter] at hm
    have ht := h.isSome account connection hm
    unfold Database.enter
    split
    · exact ht
    · simp [transaction?]

theorem publish (h : db.LocksSound) (connection : Nat) : (db.publish connection).LocksSound := by
  unfold Database.publish
  split
  · rename_i transaction _
    split
    · exact h.forget connection
    · have hb : Database.LocksSound { db with books := db.books.overlay transaction.changes } :=
        ⟨h.nodup, h.isSome⟩
      exact hb.forget connection
  · exact h

theorem change (h : db.LocksSound) (connection : Nat) (changes : Books) :
    (db.change connection changes).LocksSound :=
  h.of_sublist (by rw [locks_change]) (fun _ ho => .change ho db changes) fun account hm => by
    rw [locks_change] at hm
    obtain ⟨transaction, ht⟩ := Option.isSome_iff_exists.mp (h.isSome account connection hm)
    simp [transaction?, session_change ht]

/-- A lock that is in nobody's way. -/
theorem lock (h : db.LocksSound) (ht : (db.transaction? connection).isSome)
    (hf : db.lockable connection account = true) : (db.lock connection account).LocksSound := by
  have hlock : ∀ other, (db.lock connection account).transaction? other = db.transaction? other := by
    intro other
    unfold Database.lock
    split <;> rfl
  refine ⟨?_, ?_⟩
  · unfold Database.lock
    split
    · exact h.nodup
    · rename_i hne
      have hfree : db.holder? account = none := by
        unfold lockable at hf
        cases hh : db.holder? account with
        | none => rfl
        | some holder =>
          rw [hh] at hf hne
          exact absurd (congrArg some (by simpa using hf)) hne
      rw [List.map_append, List.nodup_append]
      refine ⟨h.nodup, by simp, fun key hkey key' hkey' => ?_⟩
      obtain ⟨⟨locked, holder⟩, hm, rfl⟩ := List.mem_map.mp hkey
      rintro rfl
      have he : locked = account := by simpa using hkey'
      exact holder?_eq_none_iff.mp hfree holder (he ▸ hm)
  · intro account' holder hm
    rw [hlock]
    rcases (mem_locks_lock db connection account (account', holder)).mp hm with hm | he
    · exact h.isSome account' holder hm
    · rw [(Prod.mk.inj he).2]; exact ht

theorem lockFor {statement : Statement} (h : db.LocksSound)
    (hf : db.obstacle? connection statement = none) :
    (db.lockFor connection statement).LocksSound := by
  have hsame := transaction?_lockFor db connection statement
  unfold Database.lockFor at hsame ⊢
  split
  · rename_i transaction account ht hl
    refine h.lock (by rw [ht]; rfl) ?_
    simpa [obstacle?, hl, Option.filter] using hf
  · exact h
  · rename_i ht
    exact h.of_transactions rfl (by simpa [ht] using hsame)

theorem run {statement : Statement} {answer : statement.Answer} (h : db.LocksSound)
    (hr : db.run connection statement = .answered db' answer) : db'.LocksSound := by
  cases runs_of_run hr with
  | begun => exact h.enter connection
  | committed => exact h.publish connection
  | rolledBack => exact h.forget connection
  | aborted | nothingToBound => exact h
  | outOfRange => exact h.abort connection
  | bounded =>
    exact h.of_sublist (List.Sublist.refl _) (fun _ ho => .setTransaction ho db _)
      fun _ _ => by simp [transaction?]
  | performed _ _ hfree => exact (h.lockFor hfree).change connection _
  | rejected _ _ hfree => exact (h.lockFor hfree).abort connection

theorem twisted {statement : Statement} (h : db.LocksSound) (connection : Nat) (twist : Twist)
    (answer : statement.Answer) :
    (db.twisted connection statement twist answer).1.LocksSound := by
  unfold Database.twisted
  split
  all_goals first | exact h | exact h.disconnect connection

end LocksSound

end Passbook.Database
