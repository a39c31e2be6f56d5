import Passbook.Proofs.UnitOfWork.Atomicity

/-! # What success means

The caller of a unit of work is told of success when the body has succeeded and the commit has been
answered. The database answers the commit of an aborted transaction too, and rolls it back. So what a
successful unit has written is public if and only if none of its statements was refused
(`published_iff_not_refused`); a body that goes on after a refusal loses everything, and its caller
does not hear of it (`careless_loses_its_writes`). -/

namespace Passbook

namespace UnitOfWork

open Passbook.System

variable {unit : UnitOfWork} {past : Past} {system : System} {reply : Reply}

/-- The books are made of what was published. When the caller of a unit is told of success, what the
unit has written was published exactly if none of its statements was refused. Otherwise nothing of it
was. -/
theorem published_iff_not_refused {db : Database} {capacity : Nat} {before : System}
    {deadline : Option Deadline} (hrest : db.AtRest) (hbody : IsBody unit.body.run)
    (hrun : Run (.start db capacity) past system)
    (hspawn : (before, .spawn [] deadline unit.work) ∈ past)
    (hreply : system.reply? before.tasks.length = some reply)
    (hok : ∀ failure, reply ≠ .failed failure) :
    system.db.books = (past.publications.map (·.2)).foldl Books.overlay db.books ∧
    ∃ connection, (∀ other, past.Took before.tasks.length other ↔ other = connection) ∧
      (past.publicationsOf connection = [past.writes before.tasks.length] ↔
        past.refused before.tasks.length = false) ∧
      (past.refused before.tasks.length = true → past.publicationsOf connection = []) := by
  refine ⟨hrun.books_eq, ?_⟩
  rcases (progress_of_spawn hrest hrun hspawn hbody).outcome with
    ⟨failure, hown, -⟩ | ⟨connection, reply, hown, houtcome, hone⟩ | ⟨hnone, -⟩
  · exact absurd (Option.some.inj (hreply.symm.trans hown)) (hok failure)
  · obtain rfl := Option.some.inj (hown.symm.trans hreply)
    refine ⟨connection, hone, ?_⟩
    cases houtcome with
    | committed _ _ hpub =>
      rw [hpub]
      cases past.refused before.tasks.length <;> simp
    | unknown => exact absurd rfl (hok _)
    | failed => exact absurd rfl (hok _)
  · cases hnone.symm.trans hreply

/-- Nothing was refused, and the deposit is public. -/
theorem published_iff_not_refused_deposit : ∃ past system connection,
    Run (.start smallLedger 1) past system ∧ system.reply? 0 = some .done ∧
      past.refused 0 = false ∧ past.publicationsOf connection = [past.writes 0] := by
  have htrace : (System.start smallLedger 1).traces depositEvents (fun past system =>
      system.reply? 0 = some .done ∧ past.refused 0 = false) = true := rfl
  obtain ⟨past, system, htrace, hend⟩ := exists_of_traces htrace
  obtain ⟨hreply, hrefused⟩ := of_decide_eq_true hend
  have hrun := run_of_trace? htrace
  obtain ⟨-, connection, -, hiff, -⟩ := published_iff_not_refused ⟨rfl, rfl⟩ (Plan.isBody ..) hrun
    (mem_of_trace? htrace) hreply (by simp)
  exact ⟨past, system, connection, hrun, hreply, hrefused, hiff.mpr hrefused⟩

/-- A unit that sets the balance of the account and then ignores that an entry about an account that
is not there is refused. -/
def careless : UnitOfWork :=
  Plan.toUnit .default [] {
    name := "careless"
    operations := [.setBalance (.number 1000000001) 70,
      .record .credit .nil (.number 1000000002) 20 20]
    ignoring := true
    failure := none }

/-- The careless unit alone, up to its commit. -/
def carelessEvents : List Event :=
  [.spawn [] none careless.work, .move (.connect 0), .move (.send 0), .move (.send 0),
    .move (.send 0), .move (.send 0)]

/-- Its caller is told of success, the call that sets the balance has succeeded, and the books are what
they were. -/
theorem careless_loses_its_writes : ∃ past system,
    Run (.start smallLedger 1) past system ∧ system.reply? 0 = some .done ∧
      (past.answers.map fun told => (told.statement.name, told.answer.toBool)) =
        [(.begin, true), (.updateAccount, true), (.insertEntry, false), (.commit, true)] ∧
      ((past.writes 0).account? 1000000001).map (·.balance) = some 70 ∧
      system.db.books = smallLedger.books := by
  have htrace : (System.start smallLedger 1).traces carelessEvents (fun past system =>
      system.reply? 0 = some .done ∧
        (past.answers.map fun told => (told.statement.name, told.answer.toBool)) =
          [(.begin, true), (.updateAccount, true), (.insertEntry, false), (.commit, true)] ∧
        ((past.writes 0).account? 1000000001).map (·.balance) = some 70 ∧
        system.db.books = smallLedger.books) = true := rfl
  obtain ⟨past, system, htrace, hend⟩ := exists_of_traces htrace
  exact ⟨past, system, run_of_trace? htrace, of_decide_eq_true hend⟩

end UnitOfWork

end Passbook
