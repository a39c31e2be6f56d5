import Passbook.Proofs.Footing.Tasks

/-! # A task from its beginning on

A task that upholds rules is followed through a run (`Follows`): it works, or it leaves because its
caller has given up, or it is finished and its caller has been told what belongs to what the task has
published (`Concludes`). It publishes only what the rules admit (`Run.publishes`). Whatever the other
tasks of the run are, they need not uphold anything. -/

namespace Passbook

/-- What a task published, in order. -/
def Past.publicationsBy (past : Past) (index : Nat) : List Books :=
  past.filterMap fun (system, event) =>
    if event.mover? = some index then (system.publication? event).map (·.2) else none

namespace Past

variable {past : Past} {event : Event} {index : Nat}

theorem publicationsBy_of_moved (past : Past) (system : System) (hm : event.mover? = some index) :
    Past.publicationsBy (past ++ [(system, event)]) index =
      past.publicationsBy index ++ ((system.publication? event).map (·.2)).toList := by
  unfold publicationsBy
  rw [List.filterMap_append]
  cases h : system.publication? event <;> simp [hm, h]

theorem publicationsBy_of_not_moved (past : Past) (system : System)
    (hm : event.mover? ≠ some index) :
    Past.publicationsBy (past ++ [(system, event)]) index = past.publicationsBy index := by
  unfold publicationsBy
  rw [List.filterMap_append]
  simp [hm]

end Past

theorem Run.length_le {start system : System} {past : Past} (h : Run start past system) :
    start.tasks.length ≤ system.tasks.length := by
  induction h with
  | refl => exact Nat.le_refl _
  | step _ hs ih => exact Nat.le_trans ih (System.length_le_step hs)

theorem Run.publicationsBy_of_length_le {start system : System} {past : Past}
    (h : Run start past system) {index : Nat} (hi : system.tasks.length ≤ index) :
    past.publicationsBy index = [] := by
  induction h with
  | refl => rfl
  | @step past system after event _ hs ih =>
    have hle := System.length_le_step hs
    rw [Past.publicationsBy_of_not_moved, ih (Nat.le_trans hle hi)]
    intro hm
    have hlt := System.lt_length_of_mover hs hm
    omega

namespace System

variable {rules : Rules} {Ends : Footing → Reply → Prop} {system after : System} {event : Event}
  {index : Nat} {deadline : Option Deadline} {work : Work Reply} {published : List Books}

/-- What the caller is told belongs to what has been published, or the caller has given up. -/
def Concludes (rules : Rules) (Ends : Footing → Reply → Prop) (deadline : Option Deadline)
    (published : List Books) (reply : Reply) : Prop :=
  (∃ ground, Ends ⟨published, ground⟩ reply) ∨
    rules.quits published ∧ ∃ due, deadline = some due ∧ reply = .failed (.timeout due.unit)

/-- How far a task has come that upholds rules, and what it has published. -/
inductive Follows (rules : Rules) (Ends : Footing → Reply → Prop) (deadline : Option Deadline)
    (system : System) (index : Nat) (published : List Books) : Prop
  | working {task : Task} {ground : Ground} : system.tasks[index]? = some task →
      task.stage.isFinished = false → task.reply = none → task.deadline = deadline →
      ground.At (fun _ => True) system.db task.connections →
      task.stage.work.Upholds rules Ends ⟨published, ground⟩ →
      Follows rules Ends deadline system index published
  | leaving {task : Task} {ground : Ground} (due : Deadline) : system.tasks[index]? = some task →
      task.stage.isFinished = false → deadline = some due →
      task.reply = some (.failed (.timeout due.unit)) → task.deadline = none →
      ground.At (fun _ => True) system.db task.connections → rules.quits published →
      task.stage.work.Upholds rules.leaving Leaves ⟨published, ground⟩ →
      Follows rules Ends deadline system index published
  | finished {task : Task} {reply : Reply} : system.tasks[index]? = some task →
      task.stage.isFinished = true → task.reply = some reply →
      Concludes rules Ends deadline published reply →
      Follows rules Ends deadline system index published

/-- Work that has no connection yet does not give one back. -/
theorem tasks_proceed_outside (system : System) (task : Task)
    (h : work.Upholds rules Ends ⟨published, .outside⟩) :
    (system.proceed task work).1.tasks = system.tasks := by
  induction work generalizing system task with
  | done | connect | exec => rfl
  | giveBack rest => exact absurd rfl h.1
  | draw next ih => exact ih _ _ task (h _ trivial)
  | report reply rest ih => exact ih system _ h

namespace Follows

theorem of_spawn (h : work.Upholds rules Ends ⟨[], .outside⟩)
    (hs : system.step (.spawn [] deadline work) = some after) :
    Follows rules Ends deadline after system.tasks.length [] := by
  obtain ⟨-, -, rfl⟩ := spawned_of_step hs
  have hdrawn : ∀ serial, system.db.serial ≤ serial → True := fun _ _ => trivial
  obtain ⟨ground, hat, -, hsettles⟩ :=
    settles_proceed system (.fresh [] deadline) h rfl hdrawn
  have ht : (system.spawn [] deadline work).1.tasks[system.tasks.length]? =
      some (system.proceed (.fresh [] deadline) work).2 := by
    change ((system.proceed (.fresh [] deadline) work).1.tasks ++ [_])[system.tasks.length]? = _
    rw [tasks_proceed_outside system _ h]
    exact List.getElem?_concat_length
  cases hsettles with
  | waits hf hreply hdeadline hup => exact .working ht hf hreply hdeadline hat hup
  | ends reply hf hreply hends => exact .finished ht hf hreply (.inl ⟨ground, hends⟩)

section

variable (h : Follows rules Ends deadline system index published) (hsound : system.Sound)
  (hs : system.step event = some after)
include h hsound hs

/-- What the task publishes by a move the rules admit. -/
theorem publishes (hm : event.mover? = some index) {publication : Nat × Books}
    (hp : system.publication? event = some publication) :
    ∃ ground, ground.Of (fun _ => True) system.db publication.1 ∧
      rules.Publishes system.db publication.1 ground publication.2 := by
  obtain ⟨move, rfl, rfl⟩ := mover?_eq_some hm
  have hof : ∀ {connections : List Nat} {connection : Nat} {ground : Ground},
      ground.At (fun _ => True) system.db connections → connection ∈ connections →
      ground.Of (fun _ => True) system.db connection := by
    intro connections connection ground hat hmem
    match connections, hat with
    | [own], hat => rwa [List.mem_singleton.mp hmem]
    | _ :: _ :: _, hat => exact hat.elim
  cases h with
  | working ht hf _ _ hat hup =>
    obtain ⟨task', ground', -, hproceeds⟩ := proceeds hsound ht hat (fun _ _ => trivial) hs hf hup
    obtain ⟨hmem, hpublishes, -⟩ := hproceeds.publishes publication hp
    exact ⟨_, hof hat hmem, hpublishes⟩
  | leaving _ ht hf _ _ _ hat _ hup =>
    obtain ⟨task', ground', -, hproceeds⟩ := proceeds hsound ht hat (fun _ _ => trivial) hs hf
      hup.of_leaving
    obtain ⟨hmem, hpublishes, -⟩ := hproceeds.publishes publication hp
    exact ⟨_, hof hat hmem, hpublishes⟩
  | finished ht hf => exact absurd hm (not_mover_of_finished hs ht hf)

/-- The moves of the task. -/
theorem of_moved (hm : event.mover? = some index) :
    Follows rules Ends deadline after index
      (published ++ ((system.publication? event).map (·.2)).toList) := by
  obtain ⟨move, rfl, rfl⟩ := mover?_eq_some hm
  cases h with
  | working ht hf hreply hdeadline hat hup =>
    obtain ⟨task', ground', ht', hproceeds⟩ := proceeds hsound ht hat (fun _ _ => trivial) hs hf hup
    cases hproceeds.carries with
    | on hsettles =>
      rw [hreply, hdeadline] at hsettles
      cases hsettles with
      | waits hf' hreply' hdeadline' hup' =>
        exact .working ht' hf' hreply' hdeadline' hproceeds.stands hup'
      | ends reply hf' hreply' hends => exact .finished ht' hf' hreply' (.inl ⟨ground', hends⟩)
    | quit due hdue hquits hsame hsettles =>
      rw [hdeadline] at hdue
      rw [hreply] at hsettles
      dsimp only at hsame hsettles hquits
      rw [hsame] at hsettles ⊢
      cases hsettles with
      | waits hf' hreply' hdeadline' hup' =>
        exact .leaving due ht' hf' hdue hreply' hdeadline' hproceeds.stands hquits hup'
      | ends reply hf' hreply' hends =>
        exact .finished ht' hf' hreply' (.inr ⟨hquits, due, hdue, rfl⟩)
  | leaving due ht hf hdue hreply hdeadline hat hquits hup =>
    obtain ⟨task', ground', ht', hproceeds⟩ := proceeds hsound ht hat (fun _ _ => trivial) hs hf hup
    have hquits' : rules.quits
        (published ++ ((system.publication? (.move move)).map (·.2)).toList) := by
      cases hp : system.publication? (.move move) with
      | none => simpa using hquits
      | some publication =>
        obtain ⟨-, hpublishes, -⟩ := hproceeds.publishes publication hp
        generalize publication.2 = books at hpublishes ⊢
        cases hpublishes with
        | draft hkeeps => exact hkeeps.elim
        | alone halone => exact rules.loose _ halone _
    cases hproceeds.carries with
    | on hsettles =>
      rw [hreply, hdeadline] at hsettles
      cases hsettles with
      | waits hf' hreply' hdeadline' hup' =>
        exact .leaving due ht' hf' hdue hreply' hdeadline' hproceeds.stands hquits' hup'
      | ends reply hf' hreply' hends =>
        exact .finished ht' hf' hreply' (.inr ⟨hquits', due, hdue, rfl⟩)
    | quit other hother => cases hdeadline.symm.trans hother
  | finished ht hf => exact absurd hm (not_mover_of_finished hs ht hf)

/-- The moves of others. -/
theorem of_not_moved (hkeys : system.KeysFree event) (hm : event.mover? ≠ some index) :
    Follows rules Ends deadline after index published := by
  cases h with
  | working ht hf hreply hdeadline hat hup =>
    obtain ⟨task', ht', hstays⟩ := stays_of_step hs ht hm
    obtain ⟨ground', hsways, hat'⟩ := hsound.sways_task hkeys hs ht hf hm hat
    refine .working ht' (hstays.isFinished.trans hf) (hstays.reply.trans hreply)
      (hstays.deadline.trans hdeadline) (by rw [hstays.connections]; exact hat') ?_
    rw [hstays.work]
    exact upholds_of_sways hf hup hsways
  | leaving due ht hf hdue hreply hdeadline hat hquits hup =>
    obtain ⟨task', ht', hstays⟩ := stays_of_step hs ht hm
    obtain ⟨ground', hsways, hat'⟩ := hsound.sways_task hkeys hs ht hf hm hat
    refine .leaving due ht' (hstays.isFinished.trans hf) hdue (hstays.reply.trans hreply)
      (hstays.deadline.trans hdeadline) (by rw [hstays.connections]; exact hat') hquits ?_
    rw [hstays.work]
    exact upholds_of_sways hf hup hsways
  | finished ht hf hreply hconcludes =>
    exact .finished (finished_of_step hs ht hf) hf hreply hconcludes

end

end Follows

end System

namespace Run

variable {rules : Rules} {Ends : Footing → Reply → Prop} {db : Database} {capacity : Nat}
  {past : Past} {before middle system : System} {deadline : Option Deadline} {work : Work Reply}
  {event : Event}

/-- A task that is spawned to do work that upholds rules is followed to the end of the run. -/
theorem follows (h : Run (.start db capacity) past system) (hrest : db.AtRest)
    (hfaith : past.Faithful) (hspawn : (before, .spawn [] deadline work) ∈ past)
    (hup : work.Upholds rules Ends ⟨[], .outside⟩) :
    System.Follows rules Ends deadline system before.tasks.length
      (past.publicationsBy before.tasks.length) := by
  obtain ⟨earlier, next, later, rfl, hearlier, hnext, hlater⟩ := h.of_mem hspawn
  have hbase := hearlier.step hnext
  clear h hspawn
  induction hlater with
  | refl =>
    rw [List.append_nil, Past.publicationsBy_of_not_moved earlier before (by rintro ⟨⟩),
      hearlier.publicationsBy_of_length_le (Nat.le_refl _)]
    exact .of_spawn hup hnext
  | @step later system after event hlater hs ih =>
    have hwhole := hbase.append hlater
    rw [← List.append_assoc] at hfaith ⊢
    have hsound := hwhole.sound hrest hfaith.of_append
    have hkeys := hfaith.keys system event (List.mem_append_right _ List.mem_cons_self)
    by_cases hm : event.mover? = some before.tasks.length
    · rw [Past.publicationsBy_of_moved _ _ hm]
      exact (ih hfaith.of_append).of_moved hsound hs hm
    · rw [Past.publicationsBy_of_not_moved _ _ hm]
      exact (ih hfaith.of_append).of_not_moved hsound hs hkeys hm

/-- Whatever such a task publishes, the rules admit. -/
theorem publishes (h : Run (.start db capacity) past system) (hrest : db.AtRest)
    (hfaith : past.Faithful) (hspawn : (before, .spawn [] deadline work) ∈ past)
    (hup : work.Upholds rules Ends ⟨[], .outside⟩) (hmem : (middle, event) ∈ past)
    (hm : event.mover? = some before.tasks.length) {publication : Nat × Books}
    (hp : middle.publication? event = some publication) :
    ∃ ground, ground.Of (fun _ => True) middle.db publication.1 ∧
      rules.Publishes middle.db publication.1 ground publication.2 := by
  obtain ⟨earlier, next, later, rfl, hearlier, hnext, hlater⟩ := h.of_mem hmem
  have hfaith' : earlier.Faithful := by
    rw [List.append_assoc] at hfaith
    exact hfaith.of_append
  have hspawned : (before, .spawn [] deadline work) ∈ earlier := by
    simp only [List.mem_append, List.mem_singleton] at hspawn
    rcases hspawn with (hspawn | hspawn) | hspawn
    · exact hspawn
    · cases hspawn
      cases hm
    · -- what has not been spawned yet cannot move
      obtain ⟨sooner, _, _, -, hsooner, -, -⟩ := hlater.of_mem hspawn
      have hlt := System.lt_length_of_mover hnext hm
      have hle := System.length_le_step hnext
      have hle' := hsooner.length_le
      omega
  exact (hearlier.follows hrest hfaith' hspawned hup).publishes (hearlier.sound hrest hfaith') hnext
    hm hp

/-- What the caller of such a task is told. -/
theorem concludes (h : Run (.start db capacity) past system) (hrest : db.AtRest)
    (hfaith : past.Faithful) (hspawn : (before, .spawn [] deadline work) ∈ past)
    (hup : work.Upholds rules Ends ⟨[], .outside⟩) {reply : Reply}
    (hreply : system.reply? before.tasks.length = some reply) :
    System.Concludes rules Ends deadline (past.publicationsBy before.tasks.length) reply := by
  obtain ⟨task, ht, hreply⟩ := Option.bind_eq_some_iff.mp hreply
  have htask : ∀ {other}, system.tasks[before.tasks.length]? = some other → task = other :=
    fun hother => Option.some.inj (ht.symm.trans hother)
  cases h.follows hrest hfaith hspawn hup with
  | working hother _ hnone =>
    rw [← htask hother, hreply] at hnone
    cases hnone
  | leaving due hother _ hdue htold _ _ hquits =>
    rw [← htask hother, hreply] at htold
    exact .inr ⟨hquits, due, hdue, Option.some.inj htold⟩
  | finished hother _ htold hconcludes =>
    rw [← htask hother, hreply] at htold
    obtain rfl := Option.some.inj htold
    exact hconcludes

end Run

end Passbook
