import Passbook.Proofs.Database.Origins
import Passbook.Proofs.System.Custody

/-! # Open transactions live

Whatever happens in a run, a transaction is open on a living connection, and what it has changed has one
row for each account (`Run.lives`). -/

namespace Passbook

namespace Database

variable {Allowed : Twist → Prop} {db met db' : Database} {connection : Nat} {statement : Statement}
  {ran : Bool} {answer : statement.Answer} {transaction : Transaction}

/-- Every open transaction is on a living connection and has keyed changes. -/
def Lives (db : Database) : Prop :=
  ∀ connection transaction, db.transaction? connection = some transaction →
    (db.session connection).alive = true ∧ transaction.changes.Keyed

theorem AtRest.lives (h : db.AtRest) : db.Lives := by
  intro connection transaction ht
  simp [transaction?, session, h.sessions, Session.fresh] at ht

theorem Lives.congr (h : db.Lives)
    (ht : ∀ other, db'.transaction? other = db.transaction? other)
    (halive : ∀ other, (db'.session other).alive = (db.session other).alive) : db'.Lives := by
  intro other transaction hopen
  rw [ht] at hopen
  rw [halive]
  exact h other transaction hopen

theorem alive_abort (db : Database) (connection : Nat) :
    ((db.abort connection).session connection).alive = (db.session connection).alive := by
  unfold abort
  split <;> simp

/-- A connection on which a statement leaves a transaction open is as alive as before. -/
theorem alive_run (hr : db.run connection statement = .answered db' answer)
    (ht : db'.transaction? connection = some transaction) :
    (db'.session connection).alive = (db.session connection).alive := by
  have hquery : statement.isQuery = true →
      (db'.session connection).alive = (db.session connection).alive := by
    intro hq
    cases hformer : db.transaction? connection with
    | none =>
      rw [(run_outside_leaves hq hformer hr).1] at ht
      cases ht
    | some former =>
      obtain ⟨_, hsession, -⟩ := run_query hq hformer hr
      rw [hsession]
  cases runs_of_run hr with
  | begun =>
    unfold enter
    split <;> simp
  | committed | rolledBack =>
    rw [transaction?_run_end rfl hr] at ht
    cases ht
  | aborted | nothingToBound => rfl
  | outOfRange => exact alive_abort db connection
  | bounded => simp
  | performed hq | rejected hq => exact hquery hq

theorem Answers.alive (h : db.Answers Allowed connection statement db' ran answer)
    (halive : (db.session connection).alive = true)
    (ht : db'.transaction? connection = some transaction) :
    (db'.session connection).alive = true := by
  cases h with
  | dead | aborted => exact halive
  | refused rejection =>
    unfold refuse at ht ⊢
    split at ht
    · simp [transaction?] at ht
    · rw [if_neg ‹_›, alive_abort, halive]
  | lost =>
    rw [(disconnect_lost ..).2] at ht
    cases ht
  | @ran ended answer twist _ hr =>
    rcases twisted_cases ended connection twist answer with ⟨hsame, -⟩ | ⟨-, htwisted⟩
    · rw [hsame] at ht ⊢
      rw [alive_run hr ht, halive]
    · rw [htwisted, (disconnect_lost ..).2] at ht
      cases ht

theorem Tells.lives (h : db.Tells Allowed connection statement db' ran answer) (hl : db.Lives) :
    db'.Lives := by
  intro other transaction ht
  by_cases hne : other = connection
  · subst hne
    refine ⟨?_, ?_⟩
    · cases h with
      | dead => exact (hl other transaction ht).1
      | @living met ended _ answer halive hmet hanswers =>
        have hnoted : ended.transaction? other = some transaction := by
          split at ht
          · rwa [transaction?_note] at ht
          · exact ht
        have hmet : (met.session other).alive = true := by
          rcases hmet with rfl | ⟨-, rfl⟩
          · exact halive
          · rw [alive_note, halive]
        have hended := hanswers.alive hmet hnoted
        split
        · rw [alive_note, hended]
        · exact hended
    · cases h.origin ht with
      | continued former hformer _ hchanges =>
        rw [hchanges]
        exact (hl other former hformer).2.overlay _
      | begun _ _ _ _ _ hchanges =>
        rw [hchanges]
        exact List.nodup_nil
  · have huntouched := h.untouched hne
    rw [huntouched.session]
    rw [huntouched.transaction?] at ht
    exact hl other transaction ht

end Database

variable {db : Database} {capacity : Nat} {past : Past} {system after : System} {event : Event}

theorem System.lives_step (hu : system.Underway) (hs : system.step event = some after)
    (h : system.db.Lives) : after.db.Lives := by
  refine database_step (P := Database.Lives) hu hs h ?_ ?_ ?_ ?_ ?_ ?_
  · exact fun db connection unended h =>
      h.congr (db.transaction?_note connection unended) (db.alive_note connection unended)
  · exact fun connection _ _ =>
      h.congr (system.db.transaction?_wait connection) (system.db.alive_wait connection)
  · intro db connection h other transaction ht
    by_cases hne : other = connection
    · subst hne
      simp [Database.transaction?, Session.fresh] at ht
    · have huntouched := Database.Untouched.close hne db
      rw [huntouched.session]
      rw [huntouched.transaction?] at ht
      exact h other transaction ht
  · exact fun _ _ _ h => h
  · exact fun _ _ _ h => h
  · exact fun _ _ _ htells => htells.lives h

theorem Run.lives (h : Run (.start db capacity) past system) (hrest : db.AtRest) :
    system.db.Lives := by
  induction h with
  | refl => exact hrest.lives
  | step hrun hs ih =>
    exact System.lives_step (hrun.underway (System.orderly_start hrest capacity)
      (System.underway_start db capacity)) hs ih

end Passbook
