import Passbook.Proofs.Footing.Follows
import Passbook.Proofs.Serial.Standing
import Passbook.Proofs.Transfer.Moved

/-! # No update is lost

Whatever others do, also those who write rows that they have never read or locked, a transfer that
commits as a unit of work of its own is applied to the books as they are right before its commit
(`execute_applied`). From the locked reads to the commit nobody can change the two rows, and so the
draft that is committed goes on to be a transfer on the committed books (`Applied.of_sways`). -/

namespace Passbook

namespace Transfer

open UnitOfWork

variable {command : Command} {runner : Runner}

/-- A unit of work may commit the transfer that was ordered, and it publishes nothing else. -/
def orders (command : Command) : Rules where
  keeps draft := ∃ debit credit,
    Applied command.source command.target command.amount draft.books draft.view debit credit ∧
      draft.Owns command.source ∧ draft.Owns command.target
  steady := by
    rintro draft draft' hsways ⟨debit, credit, happlied, hsource, htarget⟩
    exact ⟨debit, credit, happlied.of_sways hsource htarget hsways, hsways.owns.mpr hsource,
      hsways.owns.mpr htarget⟩
  lenient := False
  alone _ := False
  quits published := published = []
  loose _ := False.elim

/-- The work of a client that has one transfer done. -/
def order (runner : Runner) (command : Command) : Work Reply :=
  Call.replying .entry (execute runner command)

/-- What it comes to: an entry, or a failure that is not about a commit. -/
def Results : Except Failure Reply → Prop
  | .ok reply => ∃ entry, reply = .entry entry
  | .error failure => failure.isOutcomeUnknown = false

theorem upholds_order (runner : Runner) (command : Command) :
    (order runner command).Upholds (orders command) (Ended (orders command) Results)
      ⟨[], .outside⟩ := by
  refine upholds_ofCall rfl (fun _ => rfl) fun books => ?_
  refine upholds_perform rfl (fun _ => .broken rfl) command ?_ ?_
  · exact fun draft failure _ hfailure => .failed hfailure
  · intro draft serial debit credit _ _ _ hmoved
    have hempty : draft.books.overlay (Draft.opened books).changes = draft.books :=
      Books.overlay_empty _
    refine .kept ⟨debit, credit, hempty ▸ hmoved.applied, .inr ?_, .inr ?_⟩ ⟨debit, rfl⟩
    · exact (hmoved.changed _).mpr (.inl rfl)
    · exact (hmoved.changed _).mpr (.inr (.inl rfl))

variable {db : Database} {capacity : Nat} {past : Past} {before middle after system : System}
  {deadline : Option Deadline} {event : Event}

/-- What the task of a transfer publishes is the transfer, applied to the books of the moment. -/
theorem applied_of_publication (hrest : db.AtRest) (hrun : Run (.start db capacity) past system)
    (hfaith : past.Faithful) (hspawn : (before, .spawn [] deadline (order runner command)) ∈ past)
    (hmem : (middle, event) ∈ past) (hm : event.mover? = some before.tasks.length)
    (hs : middle.step event = some after) {publication : Nat × Books}
    (hp : middle.publication? event = some publication) :
    ∃ debit credit, Applied command.source command.target command.amount middle.db.books
      after.db.books debit credit := by
  obtain ⟨ground, hof, hpublishes⟩ :=
    hrun.publishes hrest hfaith hspawn (upholds_order runner command) hmem hm hp
  have hbooks := System.books_step hs
  rw [hp, Option.elim_some] at hbooks
  rw [hbooks]
  generalize publication.2 = written at hpublishes ⊢
  cases hpublishes with
  | alone halone => exact halone.elim
  | @draft draft hkeeps =>
    obtain ⟨transaction, -, -, hsame, -⟩ := hof
    obtain ⟨debit, credit, happlied, -, -⟩ := hkeeps
    rw [← hsame]
    exact ⟨debit, credit, happlied⟩

/-- A transfer that is committed as a unit of work of its own has moved its amount between the two
accounts as they were right before, whoever else reads and writes them in other transactions or
outside of any. -/
theorem execute_applied (hrest : db.AtRest) (hrun : Run (.start db capacity) past system)
    (hfaith : past.Faithful)
    (hspawn : (before, .spawn [] deadline (Call.replying .entry (execute runner command))) ∈ past)
    (hmem : (middle, event) ∈ past) (hs : middle.step event = some after)
    (hcommit : middle.committed? event = some before.tasks.length) :
    ∃ debit credit, Applied command.source command.target command.amount middle.db.books
      after.db.books debit credit := by
  obtain ⟨told, htold, hcommit⟩ := Option.bind_eq_some_iff.mp hcommit
  split at hcommit
  · rename_i hran
    obtain ⟨books, hbooks⟩ := Option.isSome_iff_exists.mp hran.2.2
    have hp : middle.publication? event = some (told.connection, books) := by
      rw [System.publication?_of_told htold, if_pos hran.1, hbooks]
      rfl
    have hm := (System.touched_of_told htold).1
    rw [Option.some.inj hcommit] at hm
    exact applied_of_publication hrest hrun hfaith hspawn hmem hm hs hp
  · cases hcommit

/-- A transfer of 30, and somebody who sets the balance of the sender without having read it. -/
def overwrittenEvents : List Event :=
  [.spawn [] none (order .default ⟨.nil, 1000000001, 1000000002, 30⟩),
    .spawn [] none (Call.replying .account
      (Store.setBalance .pooled 1000000001 ⟨70, by decide, by decide⟩)),
    .move (.connect 0), .move (.connect 1), .move (.send 0), .move (.send 0), .move (.send 1),
    .move (.send 0), .move (.send 0), .move (.send 0), .move (.send 0), .move (.send 0),
    .move (.send 0), .move (.wake 1)]

/-- The other write waits for the transfer, which is committed in the meantime. -/
theorem execute_applied_overwritten : ∃ past system middle event after debit credit,
    Run (.start pairLedger 2) past system ∧ (middle, event) ∈ past ∧
      middle.step event = some after ∧ middle.committed? event = some 0 ∧
      Applied 1000000001 1000000002 30 middle.db.books after.db.books debit credit ∧
      system.db.books.accounts.map (·.balance) = [70, 40] := by
  have htrace : (System.start pairLedger 2).traces overwrittenEvents (fun past system =>
      past.commits = [0] ∧ past.isPlain ∧ system.db.books.accounts.map (·.balance) = [70, 40]) =
        true := rfl
  obtain ⟨past, system, htrace, hend⟩ := System.exists_of_traces htrace
  obtain ⟨hcommits, hplain, hbalances⟩ := of_decide_eq_true hend
  have hrun := System.run_of_trace? htrace
  obtain ⟨⟨middle, event⟩, hmem, hcommit⟩ :=
    List.mem_filterMap.mp (hcommits ▸ List.mem_cons_self : 0 ∈ past.commits)
  obtain ⟨_, after, _, -, -, hs, -⟩ := hrun.of_mem hmem
  obtain ⟨debit, credit, happlied⟩ := execute_applied ⟨rfl, rfl⟩ hrun (.of_isPlain hplain)
    (System.mem_of_trace? htrace) hmem hs hcommit
  exact ⟨past, system, middle, event, after, debit, credit, hrun, hmem, hs, hcommit, happlied,
    hbalances⟩

end Transfer

end Passbook
