import Passbook.Proofs.Transfer.LostUpdate

/-! # Transfers that are tried again

A client that tries a transfer again and again, for as long as the failure says that it may, has it
applied at most once (`retried_once`). A failure that may be tried again says that its attempt has
published nothing, and it is the only kind of failure after which there is another attempt. -/

namespace Passbook

/-- All that some tasks published. -/
def Past.publicationsOfAll (past : Past) (tasks : List Nat) : List Books :=
  tasks.flatMap past.publicationsBy

theorem Past.publicationsOfAll_eq_nil {past : Past} {tasks : List Nat}
    (h : ∀ index ∈ tasks, past.publicationsBy index = []) : past.publicationsOfAll tasks = [] :=
  List.flatMap_eq_nil_iff.mpr h

/-- Entries are added to the committed ones, and none is taken away. -/
theorem Run.entries_subset {start system : System} {past : Past} (h : Run start past system)
    {entry : Entry} (he : entry ∈ start.db.books.entries) : entry ∈ system.db.books.entries := by
  induction h with
  | refl => exact he
  | @step past system after event _ hs ih =>
    rw [System.books_step hs]
    cases system.publication? event with
    | none => exact ih
    | some publication => exact List.mem_append_left _ ih

theorem Failure.not_retryable_of_unknown {failure : Failure}
    (h : failure.isOutcomeUnknown = true) : failure.retryable = false := by
  cases failure <;> first | rfl | cases h

namespace Transfer

open UnitOfWork

variable {command : Command} {runner : Runner}

/-- The tasks of a client that tries a transfer again and again, the last one first. -/
inductive Attempts (runner : Runner) (command : Command) (past : Past) : List Nat → Prop
  | first {before : System} {deadline : Option Deadline} :
      (before, .spawn [] deadline (order runner command)) ∈ past →
      Attempts runner command past [before.tasks.length]
  | again {before : System} {deadline : Option Deadline} {last : Nat} {earlier : List Nat}
      {failure : Failure} : Attempts runner command past (last :: earlier) →
      (before, .spawn [] deadline (order runner command)) ∈ past →
      before.reply? last = some (.failed failure) → failure.retryable = true →
      Attempts runner command past (before.tasks.length :: last :: earlier)

theorem Attempts.spawned {past : Past} {last : Nat} {earlier : List Nat}
    (h : Attempts runner command past (last :: earlier)) :
    ∃ before deadline, (before, .spawn [] deadline (order runner command)) ∈ past ∧
      before.tasks.length = last := by
  cases h with
  | first hspawn => exact ⟨_, _, hspawn, rfl⟩
  | again _ hspawn => exact ⟨_, _, hspawn, rfl⟩

/-- Of some tasks, one has applied the transfer to the committed books, and what all of them have
published is nothing but the debit and the credit of this transfer, which are in the ledger. -/
def AppliedOnce (command : Command) (past : Past) (system : System) (tasks : List Nat) : Prop :=
  ∃ index ∈ tasks, ∃ middle event after debit credit, (middle, event) ∈ past ∧
    event.mover? = some index ∧ middle.step event = some after ∧
    Applied command.source command.target command.amount middle.db.books after.db.books debit
      credit ∧
    (past.publicationsOfAll tasks).flatMap (·.entries) = [debit, credit] ∧
    debit ∈ system.db.books.entries ∧ credit ∈ system.db.books.entries

/-- What has come of a transfer that was tried again and again, by what the client was told last. -/
structure Retried (command : Command) (past : Past) (system : System) (last : Nat)
    (tasks : List Nat) : Prop where
  told : ∀ reply, system.reply? last = some reply →
    (∃ entry, reply = .entry entry) ∨ ∃ failure, reply = .failed failure
  ok : ∀ entry, system.reply? last = some (.entry entry) → AppliedOnce command past system tasks
  failed : ∀ failure, system.reply? last = some (.failed failure) →
    failure.isOutcomeUnknown = false → past.publicationsOfAll tasks = []
  unknown : ∀ failure, system.reply? last = some (.failed failure) →
    failure.isOutcomeUnknown = true →
    past.publicationsOfAll tasks = [] ∨ AppliedOnce command past system tasks

variable {db : Database} {capacity : Nat} {past : Past} {before system : System}
  {deadline : Option Deadline} {last : Nat} {earlier : List Nat} {reply : Reply}

/-- What one attempt has published, by what its client is told. -/
inductive Attempted (command : Command) : List Books → Reply → Prop
  | applied {draft : Draft} (entry : Entry) : (orders command).keeps draft →
      Attempted command [draft.changes] (.entry entry)
  | failed {failure : Failure} : failure.isOutcomeUnknown = false →
      Attempted command [] (.failed failure)
  | unknown {published : List Books} (name : String) (error : StorageError) :
      published = [] ∨ (∃ draft, (orders command).keeps draft ∧ published = [draft.changes]) →
      Attempted command published (.failed (.commitOutcomeUnknown name error))

section

variable (hrest : db.AtRest) (hrun : Run (.start db capacity) past system)
  (hfaith : past.Faithful)
include hrest hrun hfaith

theorem attempted (hspawn : (before, .spawn [] deadline (order runner command)) ∈ past)
    (hreply : system.reply? before.tasks.length = some reply) :
    Attempted command (past.publicationsBy before.tasks.length) reply := by
  have hconcludes := hrun.concludes hrest hfaith hspawn (upholds_order runner command) hreply
  generalize past.publicationsBy before.tasks.length = published at hconcludes
  rcases hconcludes with ⟨ground, hended⟩ | ⟨hquits, due, -, rfl⟩
  · generalize hfooting : Footing.mk published ground = footing at hended
    cases hended with
    | committed hkeeps hresult =>
      cases hfooting
      obtain ⟨entry, rfl⟩ := hresult
      exact .applied entry hkeeps
    | lenient hlenient => exact hlenient.elim
    | unknown name error hpublished =>
      cases hfooting
      exact .unknown name error hpublished
    | failed hresult =>
      cases hfooting
      exact .failed hresult
  · obtain rfl : published = [] := hquits
    exact .failed rfl

/-- The attempts before the last one have published nothing. -/
theorem earlier_published_nothing (h : Attempts runner command past (last :: earlier)) :
    ∀ index ∈ earlier, past.publicationsBy index = [] := by
  generalize htasks : last :: earlier = tasks at h
  induction h generalizing last earlier with
  | first =>
    cases htasks
    nofun
  | @again before _ former formers failure hattempts hspawn hreply hretryable ih =>
    cases htasks
    intro index hmem
    rcases List.mem_cons.mp hmem with rfl | hmem
    · obtain ⟨sooner, _, hsooner, rfl⟩ := hattempts.spawned
      obtain ⟨_, next, later, -, -, hnext, hlater⟩ := hrun.of_mem hspawn
      -- what the client was told then is what the task has come to
      have htold := hlater.reply?_eq (System.reply?_step hnext hreply)
      generalize hfailed : Reply.failed failure = reply at htold
      have hattempted := attempted hrest hrun hfaith hsooner htold
      generalize past.publicationsBy sooner.tasks.length = published at hattempted
      cases hattempted with
      | applied => cases hfailed
      | failed => rfl
      | unknown =>
        cases hfailed
        cases hretryable
    · exact ih rfl index hmem

/-- If one task has published a transfer that may be committed, and the others nothing, then it is
applied once. -/
theorem appliedOnce {draft : Draft}
    (hspawn : (before, .spawn [] deadline (order runner command)) ∈ past)
    (hearlier : ∀ index ∈ earlier, past.publicationsBy index = [])
    (hpublished : past.publicationsBy before.tasks.length = [draft.changes]) :
    AppliedOnce command past system (before.tasks.length :: earlier) := by
  have hmem : draft.changes ∈ past.publicationsBy before.tasks.length := by
    rw [hpublished]
    exact List.mem_cons_self
  obtain ⟨⟨middle, event⟩, hpast, hmoved⟩ := List.mem_filterMap.mp hmem
  dsimp only at hmoved
  split at hmoved
  · rename_i hm
    obtain ⟨publication, hp, hbooks⟩ := Option.map_eq_some_iff.mp hmoved
    obtain ⟨_, after, _, -, -, hs, hlater⟩ := hrun.of_mem hpast
    obtain ⟨debit, credit, happlied⟩ :=
      applied_of_publication hrest hrun hfaith hspawn hpast hm hs hp
    have hentries : draft.changes.entries = [debit, credit] := by
      have hafter := happlied.entries
      rw [System.books_step hs, hp, Option.elim_some, hbooks] at hafter
      exact List.append_cancel_left hafter
    have hledger : ∀ entry ∈ [debit, credit], entry ∈ system.db.books.entries := by
      intro entry hentry
      refine hlater.entries_subset ?_
      rw [happlied.entries]
      exact List.mem_append_right _ hentry
    refine ⟨_, List.mem_cons_self, middle, event, after, debit, credit, hpast, hm, hs, happlied, ?_,
      hledger debit List.mem_cons_self, hledger credit (by simp)⟩
    have hall := Past.publicationsOfAll_eq_nil hearlier
    unfold Past.publicationsOfAll at hall ⊢
    rw [List.flatMap_cons, hall, hpublished, List.append_nil, List.flatMap_singleton, hentries]
  · cases hmoved

/-- A transfer that is tried again for as long as it may be is applied exactly once if the last
attempt succeeds, not at all if it fails, and at most once if the outcome of its commit is unknown; and
then it is not tried again. -/
theorem retried_once (h : Attempts runner command past (last :: earlier)) :
    Retried command past system last (last :: earlier) ∧
      ∀ failure : Failure, failure.isOutcomeUnknown = true → failure.retryable = false := by
  obtain ⟨before, deadline, hspawn, rfl⟩ := h.spawned
  have hearlier := earlier_published_nothing hrest hrun hfaith h
  have hnothing : past.publicationsBy before.tasks.length = [] →
      past.publicationsOfAll (before.tasks.length :: earlier) = [] := fun hlast =>
    Past.publicationsOfAll_eq_nil (List.forall_mem_cons.mpr ⟨hlast, hearlier⟩)
  have honce : ∀ draft : Draft, past.publicationsBy before.tasks.length = [draft.changes] →
      AppliedOnce command past system (before.tasks.length :: earlier) := fun draft =>
    appliedOnce hrest hrun hfaith hspawn hearlier
  refine ⟨⟨?_, ?_, ?_, ?_⟩, fun failure => Failure.not_retryable_of_unknown⟩
  · intro reply hreply
    have hattempted := attempted hrest hrun hfaith hspawn hreply
    generalize past.publicationsBy before.tasks.length = published at hattempted
    cases hattempted with
    | applied entry => exact .inl ⟨entry, rfl⟩
    | failed => exact .inr ⟨_, rfl⟩
    | unknown => exact .inr ⟨_, rfl⟩
  · intro entry hreply
    have hattempted := attempted hrest hrun hfaith hspawn hreply
    generalize hlast : past.publicationsBy before.tasks.length = published at hattempted
    cases hattempted with
    | @applied draft => exact honce draft hlast
  · intro failure hreply hknown
    have hattempted := attempted hrest hrun hfaith hspawn hreply
    generalize hlast : past.publicationsBy before.tasks.length = published at hattempted
    cases hattempted with
    | failed => exact hnothing hlast
    | unknown => cases hknown
  · intro failure hreply hunknown
    have hattempted := attempted hrest hrun hfaith hspawn hreply
    generalize hlast : past.publicationsBy before.tasks.length = published at hattempted
    cases hattempted with
    | failed hknown => cases hknown.symm.trans hunknown
    | unknown name error hpublished =>
      rcases hpublished with rfl | ⟨draft, -, rfl⟩
      · exact .inl (hnothing hlast)
      · exact .inr (honce draft hlast)

end

/-- A transfer of 30, as it is tried again and again. -/
def persistent : Work Reply := order .default ⟨.nil, 1000000001, 1000000002, 30⟩

/-- The first attempt, which loses its connection when it writes its first entry. -/
def brokenEvents : List Event :=
  [.spawn [] none persistent, .arm (.arm .insertEntry .disconnect 1), .move (.connect 0),
    .move (.send 0), .move (.send 0), .move (.send 0), .move (.send 0), .move (.send 0),
    .move (.send 0)]

/-- The second attempt, which nothing disturbs. -/
def secondEvents : List Event :=
  [.spawn [] none persistent, .move (.connect 1), .move (.send 1), .move (.send 1),
    .move (.send 1), .move (.send 1), .move (.send 1), .move (.send 1), .move (.send 1),
    .move (.send 1)]

/-- The transfer is applied once, although it was tried twice. -/
theorem retried_once_broken : ∃ past system,
    Run (.start pairLedger 1) past system ∧
      Retried ⟨.nil, 1000000001, 1000000002, 30⟩ past system 1 [1, 0] ∧
      system.reply? 0 = some (.failed (.storage .connectionLost)) ∧
      system.db.books.accounts.map (·.balance) = [20, 40] ∧
      system.db.books.entries.map (·.amount) = [30, 30] := by
  have htrace : (System.start pairLedger 1).traces brokenEvents (fun past middle =>
      middle.traces secondEvents fun later system =>
        middle.tasks.length = 1 ∧
          middle.reply? 0 = some (.failed (.storage .connectionLost)) ∧
          Past.isPlain (past ++ later) ∧ system.db.books.accounts.map (·.balance) = [20, 40] ∧
          system.db.books.entries.map (·.amount) = [30, 30]) = true := rfl
  obtain ⟨past, middle, hbroken, htrace⟩ := System.exists_of_traces htrace
  obtain ⟨later, system, hsecond, hend⟩ := System.exists_of_traces htrace
  obtain ⟨hlength, hreply, hplain, hbalances, hentries⟩ := of_decide_eq_true hend
  have hlater := System.run_of_trace? hsecond
  have hrun := (System.run_of_trace? hbroken).append hlater
  have hattempts : Attempts .default ⟨.nil, 1000000001, 1000000002, 30⟩ (past ++ later) [1, 0] := by
    rw [← hlength]
    exact .again (.first (List.mem_append_left _ (System.mem_of_trace? hbroken)))
      (List.mem_append_right _ (System.mem_of_trace? hsecond)) hreply rfl
  exact ⟨_, system, hrun, (retried_once ⟨rfl, rfl⟩ hrun (.of_isPlain hplain) hattempts).1,
    hlater.reply?_eq hreply, hbalances, hentries⟩

end Transfer

end Passbook
