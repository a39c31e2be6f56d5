import Passbook.Proofs.Serial.Guarded

/-! # Replaying work

What guarded work has come to, and the changes that it has made, told from the committed books alone
(`Work.Replays`). It depends on nothing but which accounts there are and on the rows that the work has
locked, so it stays true when others publish what they have changed under locks of their own
(`Work.Replays.of_agree`). -/

namespace Passbook.Work

variable {α : Type} {Held Held' : Int → Prop} {books books' changes : Books} {draws : Draws}
  {began : Instant}

/-- The work has come to the rest with the changes, all its statements having been answered from the
books with its own changes laid over them. All rows that it has locked are held. -/
inductive Replays (Held : Int → Prop) (books : Books) (draws : Draws) (began : Instant)
    (work : Work α) :
    Books → Work α → Prop
  | start : Replays Held books draws began work .empty work
  | exec {changes : Books} {statement : Statement} {next : statement.Answer → Work α}
      {around : Surroundings} {effect : Effect statement} :
      Replays Held books draws began work changes (.exec statement next) → around.now = began →
      around.draws = draws → statement.isGuarded = true → statement.Locks Held books →
      statement.effect around (books.overlay changes) = .ok effect →
      Replays Held books draws began work (changes.overlay effect.changes) (next (.ok effect.rows))
  | draw {changes : Books} {next : Draw → Work α} (serial : Nat) :
      Replays Held books draws began work changes (.draw next) →
      Replays Held books draws began work changes (next (draws.draw serial))
  | report {changes : Books} {reply : Reply} {rest : Work α} :
      Replays Held books draws began work changes (.report reply rest) →
      Replays Held books draws began work changes rest

namespace Replays

variable {work rest rest' : Work α}

theorem passes (h : work.Replays Held books draws began changes rest) (hp : rest.Passes draws rest') :
    work.Replays Held books draws began changes rest' := by
  induction hp with
  | done | exec => exact h
  | draw serial _ ih => exact ih (h.draw serial)
  | report reply _ ih => exact ih h.report

theorem mono (h : work.Replays Held books draws began changes rest) (hh : ∀ id, Held id → Held' id) :
    work.Replays Held' books draws began changes rest := by
  induction h with
  | start => exact .start
  | exec _ hnow hdraws hg hl he ih =>
    exact .exec ih hnow hdraws hg (fun account ha => hh account (hl account ha)) he
  | draw serial _ ih => exact ih.draw serial
  | report _ ih => exact ih.report

/-- Other books that agree on what is held would have done as well. -/
theorem of_agree (h : work.Replays Held books draws began changes rest) (ha : books.Agree Held books') :
    work.Replays Held books' draws began changes rest := by
  induction h with
  | start => exact .start
  | exec _ hnow hdraws hg hl he ih =>
    refine .exec ih hnow hdraws hg ?_ ?_
    · unfold Statement.Locks
      rw [Statement.lockedAccount?_congr ha]
      exact hl
    · rw [Statement.effect_congr hg ha hl rfl rfl rfl, he]
  | draw serial _ ih => exact ih.draw serial
  | report _ ih => exact ih.report

/-- The rows that the work has changed are held. -/
theorem covers (h : work.Replays Held books draws began changes rest) : books.Covers Held changes := by
  induction h with
  | start => exact .empty Held books
  | exec _ _ _ hg hl he ih => exact ih.overlay (Statement.covers_effect hg hl ih he)
  | draw serial _ ih => exact ih
  | report _ ih => exact ih

theorem obeys {Asks : Statement → Prop} {Results : α → Prop}
    (h : work.Replays Held books draws began changes rest) (ho : work.Obeys Asks Results) :
    rest.Obeys Asks Results := by
  induction h with
  | start => exact ho
  | exec _ _ _ _ _ _ ih => cases ih with | exec _ hnext => exact hnext _
  | draw serial _ ih => cases ih with | draw hnext => exact hnext _
  | report _ ih => cases ih with | report hrest => exact hrest

end Replays

theorem Replays.guarded {work rest : Work (Except Failure α)}
    (h : work.Replays Held books draws began changes rest) (hg : work.Guarded) : rest.Guarded := by
  induction h with
  | start => exact hg
  | exec _ _ _ _ _ _ ih => cases ih with | exec _ _ hnext => exact hnext _
  | draw serial _ ih => cases ih with | draw hnext => exact hnext _
  | report _ ih => cases ih with | report hrest => exact hrest

end Passbook.Work
