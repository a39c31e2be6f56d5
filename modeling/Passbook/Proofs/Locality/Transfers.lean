import Passbook.Proofs.Locality.Undisturbed
import Passbook.Scenario

/-! # What a transfer depends on

A transfer that two systems are asked for does the same in both as long as it finds its two rows alike
and locked by the same others (`System.OrderedAlike`), it locks these rows and no others, and so two
transfers between other accounts never wait for one another, and it does not matter which of them comes
first (`System.transfer_local`). -/

namespace Passbook

namespace System

open Database

variable {runner runner' : Runner} {command command' : Command} {system system' after after' : System}
  {deadline deadline' : Option Deadline} {past past' : Past} {task task' : Task}

/-! ## The beginning -/

/-- What a task is that somebody has just come with. -/
theorem spawned_order
    (hs : system.step (.spawn [] deadline (Transfer.order runner command)) = some after) :
    ∃ task, after = { system with tasks := system.tasks ++ [task] } ∧ task.connections = [] ∧
      task.reply = none ∧ ∃ since next, task.stage = .queued since next ∧
        Work.connect next = Transfer.order runner command := by
  rw [Transfer.order, ← UnitOfWork.work_execute] at hs ⊢
  obtain ⟨task, rfl, hwait, -⟩ := Waiting.of_spawn hs
  have hwork := hwait.work
  refine ⟨task, rfl, hwait.connections, hwait.reply, ?_⟩
  rw [← hwork]
  cases hstage : task.stage with
  | queued since next => exact ⟨since, next, rfl, rfl⟩
  | ready | sent | finished =>
    rw [hstage, UnitOfWork.work_eq] at hwork
    cases hwork

/-- Transfers that have just been ordered are abreast. -/
theorem abreast_spawn
    (hs : system.step (.spawn [] deadline (Transfer.order runner command)) = some after)
    (hs' : system'.step (.spawn [] deadline' (Transfer.order runner command)) = some after') :
    Abreast (· ∈ command.accounts) system.tasks.length system'.tasks.length after after' := by
  obtain ⟨task, rfl, hown, hreply, since, next, hstage, hwork⟩ := spawned_order hs
  obtain ⟨task', rfl, hown', hreply', since', next', hstage', hwork'⟩ := spawned_order hs'
  have hworks : (Work.connect next).Abreast (· ∈ command.accounts) false (.connect next') := by
    rw [hwork, hwork']
    exact UnitOfWork.abreast_order runner command
  refine ⟨task, task', List.getElem?_concat_length, List.getElem?_concat_length, ⟨false, ?_, ?_⟩, ?_, ?_⟩
  · rw [hown, hown']
    exact .empty
  · rw [hstage, hstage']
    exact .queued hworks
  · rw [hreply, hreply']
  · rw [hstage]
    exact nofun

theorem Level.of_spawn (ho : Orderly [] [] system) (ho' : Orderly [] [] system') (hu : system.Underway)
    (hagreed : Agreed (· ∈ command.accounts) system.tasks.length system'.tasks.length system system')
    (hs : system.step (.spawn [] deadline (Transfer.order runner command)) = some after)
    (hs' : system'.step (.spawn [] deadline' (Transfer.order runner command)) = some after') :
    Level (· ∈ command.accounts) system.tasks.length system'.tasks.length after after' := by
  have horderly := ho.step hs
  have horderly' := ho'.step hs'
  have hunderway := hu.step ho hs
  have habreast := abreast_spawn hs hs'
  obtain ⟨hfaults, hfaults', hclosed, hc⟩ := hagreed
  obtain ⟨task, rfl, hown, -, since, next, hstage, -⟩ := spawned_order hs
  obtain ⟨task', rfl, hown', -, since', next', hstage', -⟩ := spawned_order hs'
  refine ⟨horderly, horderly', hunderway, habreast, ⟨hfaults, hfaults', hclosed, ?_⟩, ?_⟩
  · simpa [hands, Task.claims, hown, hown'] using hc
  · intro own hplace hsent
    cases List.getElem?_concat_length.symm.trans hplace
    rw [hstage] at hsent
    cases hsent

/-! ## Transfers that are served undisturbed -/

theorem Serves.fared (h : system.Serves [] (Transfer.order runner command) past after task)
    (h' : system'.Serves [] (Transfer.order runner command) past' after' task')
    (ho : Orderly [] [] system) (ho' : Orderly [] [] system') (hu : system.Underway)
    (hagreed : Agreed (· ∈ command.accounts) system.tasks.length system'.tasks.length system system') :
    Fared (· ∈ command.accounts) system.tasks.length system'.tasks.length system system' after
      after' := by
  obtain ⟨deadline, spawned, own, -, hs, hrun, hown⟩ := h.undisturbed
  obtain ⟨deadline', spawned', own', -, hs', hrun', hown'⟩ := h'.undisturbed
  have hlevel := Level.of_spawn ho ho' hu hagreed hs hs'
  obtain ⟨hanswered, hreply, hchanges, helsewhere⟩ :=
    hlevel.fared hrun hown ⟨task, h.place, h.finished⟩ hrun' hown' ⟨task', h'.place, h'.finished⟩
  obtain ⟨_, rfl, -⟩ := spawned_order hs
  obtain ⟨_, rfl, -⟩ := spawned_order hs'
  exact ⟨hanswered, hreply, hchanges, helsewhere⟩

/-- A transfer that the first system serves can be served by the second one. -/
theorem Serves.isServed (h : system.Serves [] (Transfer.order runner command) past after task)
    (ho : Orderly [] [] system) (ho' : Orderly [] [] system') (hu : system.Underway)
    (hagreed : Agreed (· ∈ command.accounts) system.tasks.length system'.tasks.length system system')
    (hroom : system'.inUse.length < system'.capacity) :
    ∃ past' after' task', system'.Serves [] (Transfer.order runner command) past' after' task' := by
  obtain ⟨deadline, spawned, own, -, hs, hrun, hown⟩ := h.undisturbed
  have hs' : system'.step (.spawn [] deadline (Transfer.order runner command)) =
      some (system'.spawn [] deadline (Transfer.order runner command)).1 := by
    simp [step]
  have hlevel := Level.of_spawn ho ho' hu hagreed hs hs'
  obtain ⟨own', after', task', hrun', hown', hplace, hfinished⟩ :=
    hlevel.completes hrun hown ⟨task, h.place, h.finished⟩ fun _ => by
      obtain ⟨_, hspawned, -⟩ := spawned_order hs'
      rwa [hspawned]
  exact ⟨_, after', task', ⟨deadline, _, own', rfl, hs', hrun', hown'⟩, hplace, hfinished⟩

theorem Serves.keeps (h : system.Serves [] (Transfer.order runner command) past after task)
    (ho : Orderly [] [] system) (hu : system.Underway) (hf : system.faults = []) :
    Orderly [] [] after ∧ after.Underway ∧ after.faults = [] ∧ after.closed = system.closed := by
  obtain ⟨deadline, spawned, own, -, hs, hrun, hown⟩ := h.undisturbed
  have hcalm := Run.calm hrun hown
  obtain ⟨_, rfl, -⟩ := spawned_order hs
  exact ⟨hrun.orderly (ho.step hs), hrun.underway (ho.step hs) (hu.step ho hs), hcalm hf⟩

/-! ## Two transfers one after the other -/

/-- Both callers are told the same in either order, the rows of all accounts are alike in the end, and
the same entries have come in. -/
structure Commute (first first' second second' : Option Reply) (db db' : Database) : Prop where
  first : first.map (·.core) = first'.map (·.core)
  second : second.map (·.core) = second'.map (·.core)
  accounts : ∀ id, (db.books.account? id).map (·.core) = (db'.books.account? id).map (·.core)
  entries : (db.books.entries.map (·.core)).Perm (db'.books.entries.map (·.core))

/-- The rows of other accounts are as they were, and so are the locks on them. -/
theorem Fared.agreed {Mine Mine' : Int → Prop} {index index' : Nat}
    (h : Fared Mine index index' system system' after after') (ho : Orderly [] [] system)
    (hafter : Orderly [] [] after) (hf : system.faults = []) (hf' : after.faults = [])
    (hclosed : after.closed = system.closed) (hapart : ∀ id, Mine' id → ¬ Mine id) :
    Agreed Mine' after.tasks.length system.tasks.length after system where
  faults := hf'
  faults' := hf
  closed := hclosed.symm
  concurs := by
    have hnone : ∀ system : System, system.hands system.tasks.length = [] := by
      intro system
      simp [hands]
    rw [hnone, hnone]
    refine ⟨fun id hid => ?_, fun id hid => Option.ext fun holder => ?_⟩
    · rw [h.changes.elsewhere (hapart id hid)]
    · rw [rival?_iff hafter.locks, rival?_iff ho.locks, h.elsewhere id (hapart id hid) holder]

theorem Agreed.symm {Mine : Int → Prop} {index index' : Nat}
    (h : Agreed Mine index index' system system') : Agreed Mine index' index system' system :=
  ⟨h.faults', h.faults, h.closed.symm,
    ⟨fun id hid => (h.concurs.rows id hid).symm, fun id hid => (h.concurs.rivals id hid).symm⟩⟩

theorem Agreed.refl {Mine : Int → Prop} {index : Nat} (hf : system.faults = []) :
    Agreed Mine index index system system :=
  ⟨hf, hf, rfl, fun _ _ => rfl, fun _ _ => rfl⟩

/-- Transfers between different accounts can be done in either order. -/
theorem Serves.commute {middle middle' last last' : System} {first first' second second' : Task}
    {past₁ past₁' past₂ past₂' : Past} (ho : Orderly [] [] system) (hu : system.Underway)
    (hf : system.faults = []) (hapart : ∀ id ∈ command.accounts, id ∉ command'.accounts)
    (h₁ : system.Serves [] (Transfer.order runner command) past₁ middle first)
    (h₂ : middle.Serves [] (Transfer.order runner' command') past₂ last second)
    (h₂' : system.Serves [] (Transfer.order runner' command') past₂' middle' second')
    (h₁' : middle'.Serves [] (Transfer.order runner command) past₁' last' first') :
    Commute first.reply first'.reply second.reply second'.reply last.db last'.db := by
  obtain ⟨ho₁, hu₁, hf₁, hclosed₁⟩ := h₁.keeps ho hu hf
  obtain ⟨ho₂, hu₂, hf₂, hclosed₂⟩ := h₂'.keeps ho hu hf
  have hself₁ := h₁'.fared h₁' ho₂ ho₂ hu₂ (.refl hf₂)
  have hself₂ := h₂'.fared h₂' ho ho hu (.refl hf)
  have hagreed₁ : Agreed (· ∈ command.accounts) middle'.tasks.length system.tasks.length middle'
      system :=
    hself₂.agreed ho ho₂ hf hf₂ hclosed₂ hapart
  have hagreed₂ : Agreed (· ∈ command'.accounts) middle.tasks.length system.tasks.length middle
      system :=
    (h₁.fared h₁ ho ho hu (.refl hf)).agreed ho ho₁ hf hf₁ hclosed₁
      fun id hid' hid => hapart id hid hid'
  have hfared₁ := h₁.fared h₁' ho ho₂ hu hagreed₁.symm
  have hfared₂ := h₂.fared h₂' ho₁ ho hu₁ hagreed₂
  refine ⟨?_, ?_, fun id => ?_, ?_⟩
  · simpa only [reply?, h₁.place, h₁'.place, Option.bind_some] using hfared₁.reply
  · simpa only [reply?, h₂.place, h₂'.place, Option.bind_some] using hfared₂.reply
  · by_cases hid : id ∈ command'.accounts
    · have hother : id ∉ command.accounts := fun hmem => hapart id hmem hid
      rw [hself₁.changes.elsewhere hother]
      refine hfared₂.changes.rows ?_
      rw [hfared₁.changes.elsewhere hother]
    · rw [hfared₂.changes.elsewhere hid]
      refine hfared₁.changes.rows ?_
      rw [hself₂.changes.elsewhere hid]
  · obtain ⟨added₁, added₁', hentries₁, hentries₁', hsame₁⟩ := hfared₁.changes.entries
    obtain ⟨added₂, added₂', hentries₂, hentries₂', hsame₂⟩ := hfared₂.changes.entries
    rw [hentries₂, hentries₁, hentries₁', hentries₂', List.append_assoc, List.append_assoc]
    simp only [List.map_append, hsame₁, hsame₂]
    exact List.perm_append_comm.append_left _

/-- If the one order is possible, so is the other one. -/
theorem Serves.reorder {middle last : System} {first second : Task} {past₁ past₂ : Past}
    (ho : Orderly [] [] system) (hu : system.Underway) (hf : system.faults = [])
    (hapart : ∀ id ∈ command.accounts, id ∉ command'.accounts)
    (h₁ : system.Serves [] (Transfer.order runner command) past₁ middle first)
    (h₂ : middle.Serves [] (Transfer.order runner' command') past₂ last second)
    (hroom : system.inUse.length < system.capacity) :
    ∃ past₂' middle' second', system.Serves [] (Transfer.order runner' command') past₂' middle' second' ∧
      (middle'.inUse.length < middle'.capacity → ∃ past₁' last' first',
        middle'.Serves [] (Transfer.order runner command) past₁' last' first') := by
  obtain ⟨ho₁, hu₁, hf₁, hclosed₁⟩ := h₁.keeps ho hu hf
  have hagreed₂ : Agreed (· ∈ command'.accounts) middle.tasks.length system.tasks.length middle
      system :=
    (h₁.fared h₁ ho ho hu (.refl hf)).agreed ho ho₁ hf hf₁ hclosed₁
      fun id hid' hid => hapart id hid hid'
  obtain ⟨past₂', middle', second', h₂'⟩ := h₂.isServed ho₁ ho hu₁ hagreed₂ hroom
  obtain ⟨ho₂, hu₂, hf₂, hclosed₂⟩ := h₂'.keeps ho hu hf
  have hagreed₁ : Agreed (· ∈ command.accounts) middle'.tasks.length system.tasks.length middle'
      system :=
    (h₂'.fared h₂' ho ho hu (.refl hf)).agreed ho ho₂ hf hf₂ hclosed₂ hapart
  exact ⟨past₂', middle', second', h₂', h₁.isServed ho ho₂ hu hagreed₁.symm⟩

/-! ## Transfers -/

/-- Two systems that are asked for the same transfer. -/
structure OrderedAlike (runner : Runner) (command : Command) (system system' : System) : Prop where
  /-- Whatever others do, while the transfer makes its moves in both systems and finds the same at each
  of them, it comes to the same points with the same in hand, and it waits for the same holders. -/
  inStep : ∀ {deadline deadline' : Option Deadline} {spawned spawned' now now' : System},
    system.step (.spawn [] deadline (Transfer.order runner command)) = some spawned →
    system'.step (.spawn [] deadline' (Transfer.order runner command)) = some spawned' →
    InStep (· ∈ command.accounts) system.tasks.length system'.tasks.length spawned spawned' now now' →
    Abreast (· ∈ command.accounts) system.tasks.length system'.tasks.length now now' ∧
      (Agreed (· ∈ command.accounts) system.tasks.length system'.tasks.length now now' →
        Concerted (· ∈ command.accounts) system.tasks.length system'.tasks.length now now')
  /-- If nobody else does anything, its caller is told the same in the end, and the same is published. -/
  fared : ∀ {past past' : Past} {after after' : System} {task task' : Task},
    system.Serves [] (Transfer.order runner command) past after task →
    system'.Serves [] (Transfer.order runner command) past' after' task' →
    Fared (· ∈ command.accounts) system.tasks.length system'.tasks.length system system' after after'
  isServed : ∀ {past : Past} {after : System} {task : Task},
    system.Serves [] (Transfer.order runner command) past after task →
    system'.inUse.length < system'.capacity →
    ∃ past' after' task', system'.Serves [] (Transfer.order runner command) past' after' task'

/-- What a transfer has to do with the others in a system. -/
structure KeptApart (runner : Runner) (command : Command) (past : Past) (system : System) : Prop where
  confined : ∀ {before : System} {deadline : Option Deadline},
    (before, .spawn [] deadline (Transfer.order runner command)) ∈ past →
    Confined command past system before.tasks.length
  /-- It does not wait for a connection that a transfer between other accounts has taken. -/
  waits : ∀ {before before' : System} {deadline deadline' : Option Deadline} {runner' : Runner}
    {command' : Command} {id : Int} {holder : Nat},
    (before, .spawn [] deadline (Transfer.order runner command)) ∈ past →
    (before', .spawn [] deadline' (Transfer.order runner' command')) ∈ past →
    (∀ id ∈ command.accounts, id ∉ command'.accounts) →
    system.wanted? before.tasks.length = some id → system.db.holder? id = some holder →
    ¬ past.Took before'.tasks.length holder
  commute : ∀ {runner' : Runner} {command' : Command} {past₁ past₁' past₂ past₂' : Past}
    {middle middle' last last' : System} {first first' second second' : Task},
    (∀ id ∈ command.accounts, id ∉ command'.accounts) →
    system.Serves [] (Transfer.order runner command) past₁ middle first →
    middle.Serves [] (Transfer.order runner' command') past₂ last second →
    system.Serves [] (Transfer.order runner' command') past₂' middle' second' →
    middle'.Serves [] (Transfer.order runner command) past₁' last' first' →
    Commute first.reply first'.reply second.reply second'.reply last.db last'.db
  reorder : ∀ {runner' : Runner} {command' : Command} {past₁ past₂ : Past} {middle last : System}
    {first second : Task},
    (∀ id ∈ command.accounts, id ∉ command'.accounts) →
    system.Serves [] (Transfer.order runner command) past₁ middle first →
    middle.Serves [] (Transfer.order runner' command') past₂ last second →
    system.inUse.length < system.capacity →
    ∃ past₂' middle' second', system.Serves [] (Transfer.order runner' command') past₂' middle' second' ∧
      (middle'.inUse.length < middle'.capacity → ∃ past₁' last' first',
        middle'.Serves [] (Transfer.order runner command) past₁' last' first')

section

variable {db db' : Database} {capacity capacity' : Nat}

theorem orderedAlike (ho : Orderly [] [] system) (ho' : Orderly [] [] system') (hu : system.Underway)
    (hagreed : Agreed (· ∈ command.accounts) system.tasks.length system'.tasks.length system system') :
    OrderedAlike runner command system system' where
  inStep hs hs' hstep := by
    obtain ⟨hnow, hnow', hunder, habreast⟩ :=
      hstep.abreast (ho.step hs) (ho'.step hs') (hu.step ho hs) (abreast_spawn hs hs')
    exact ⟨habreast, habreast.concerted hnow hnow' hunder⟩
  fared h h' := h.fared h' ho ho' hu hagreed
  isServed h hroom := h.isServed ho ho' hu hagreed hroom

theorem keptApart (hrest : db.AtRest) (hrun : Run (.start db capacity) past system)
    (hf : system.faults = []) : KeptApart runner command past system where
  confined hspawn := confined_of_spawn hrest hrun hspawn
  waits hspawn hspawn' hapart hwanted hholder :=
    (confined_of_spawn hrest hrun hspawn).not_waiting (confined_of_spawn hrest hrun hspawn') hapart
      hwanted hholder
  commute hapart h₁ h₂ h₂' h₁' :=
    Serves.commute (hrun.orderly (orderly_start hrest capacity))
      (hrun.underway (orderly_start hrest capacity) (underway_start db capacity)) hf hapart h₁ h₂ h₂' h₁'
  reorder hapart h₁ h₂ hroom :=
    Serves.reorder (hrun.orderly (orderly_start hrest capacity))
      (hrun.underway (orderly_start hrest capacity) (underway_start db capacity)) hf hapart h₁ h₂ hroom

/-- A transfer depends on the rows of its two accounts and on who has locked these, and on nothing else.
It locks these rows and no others, in ascending order, and none if the command makes no sense. -/
theorem transfer_local (hrest : db.AtRest) (hrest' : db'.AtRest)
    (hrun : Run (.start db capacity) past system) (hrun' : Run (.start db' capacity') past' system')
    (hagreed : Agreed (· ∈ command.accounts) system.tasks.length system'.tasks.length system system') :
    OrderedAlike runner command system system' ∧ KeptApart runner command past system ∧
      command.rows.Pairwise (· < ·) ∧
      ∀ id, id ∈ command.rows ↔ command.validate.toBool = true ∧ id ∈ command.accounts :=
  ⟨orderedAlike (hrun.orderly (orderly_start hrest capacity))
      (hrun'.orderly (orderly_start hrest' capacity'))
      (hrun.underway (orderly_start hrest capacity) (underway_start db capacity)) hagreed,
    keptApart hrest hrun hagreed.faults, command.pairwise_rows, command.mem_rows_iff⟩

end

/-- The pair of accounts with another account beside them, and other times. -/
def crowdedLedger : Database :=
  { pairLedger with
    books := ⟨⟨1000000003, .nil, 7, .savings, ⟨3, 0⟩, ⟨4, 0⟩⟩ :: pairLedger.books.accounts, []⟩
    clock := ⟨9, 0⟩
    serial := 5 }

/-- Somebody locks the row of the account beside them. -/
def crowdedEvents : List Event :=
  [.spawn [] none (Scenario.opening none), .move (.connect 0), .move (.send 0),
    .spawn [0] none (.exec (.selectAccount ⟨1000000003, true⟩) fun _ => .done .done), .move (.send 1)]

/-- The same transfer fares alike in both. -/
theorem transfer_local_crowded : ∃ crowdedPast crowded past after task crowdedPast' after' task',
    Run (.start crowdedLedger 2) crowdedPast crowded ∧ crowded.db.holder? 1000000003 = some 0 ∧
    (start pairLedger 1).Serves [] (Transfer.order .default ⟨.nil, 1000000001, 1000000002, 30⟩) past
      after task ∧
    crowded.Serves [] (Transfer.order .default ⟨.nil, 1000000001, 1000000002, 30⟩) crowdedPast' after'
      task' ∧
    Fared (· ∈ [1000000001, 1000000002]) 0 2 (.start pairLedger 1) crowded after after' ∧
    after.db.books.accounts.map (·.balance) = [20, 40] := by
  have hcrowded : (start crowdedLedger 2).traces crowdedEvents (fun _ system =>
      system.faults.isEmpty ∧ system.closed = false ∧ system.tasks.length = 2 ∧
      system.db.holder? 1000000003 = some 0 ∧ system.inUse.length < system.capacity ∧
      ∀ id ∈ ([1000000001, 1000000002] : List Int), system.db.rival? [] id = none ∧
        (pairLedger.books.account? id).map (·.core) =
          (system.db.books.account? id).map (·.core)) = true := rfl
  have hserved : (start pairLedger 1).traces
      (.spawn [] none (Transfer.order .default ⟨.nil, 1000000001, 1000000002, 30⟩) ::
        .move (.connect 0) :: List.replicate 8 (.move (.send 0)))
      (fun _ system => (system.tasks[0]?).any (·.stage.isFinished) ∧
        system.db.books.accounts.map (·.balance) = [20, 40]) = true := rfl
  obtain ⟨crowdedPast, crowded, hcrowded, hstate⟩ := exists_of_traces hcrowded
  obtain ⟨hfaults, hclosed, hlength, hholder, hroom, hsame⟩ := of_decide_eq_true hstate
  obtain ⟨past, after, hserved, hend⟩ := exists_of_traces hserved
  obtain ⟨hfinished, hbalances⟩ := of_decide_eq_true hend
  obtain ⟨task, hplace, hfinished⟩ := (Option.any_eq_true ..).mp hfinished
  have hagreed : Agreed (· ∈ Command.accounts ⟨.nil, 1000000001, 1000000002, 30⟩) 0 crowded.tasks.length
      (start pairLedger 1) crowded := by
    refine ⟨rfl, List.isEmpty_iff.mp hfaults, hclosed, fun id hid => (hsame id hid).2, fun id hid => ?_⟩
    simpa [hands, start, rival?, holder?, pairLedger] using (hsame id hid).1.symm
  obtain ⟨⟨-, hfared, hserves⟩, -⟩ := @transfer_local .default ⟨.nil, 1000000001, 1000000002, 30⟩
    (start pairLedger 1) crowded [] crowdedPast pairLedger crowdedLedger 1 2 ⟨rfl, rfl⟩ ⟨rfl, rfl⟩ .refl
    (run_of_trace? hcrowded) hagreed
  have hown : (start pairLedger 1).Serves [] (Transfer.order .default ⟨.nil, 1000000001, 1000000002, 30⟩)
      past after task :=
    .of_trace? hserved (by decide) hplace hfinished
  obtain ⟨crowdedPast', after', task', hother⟩ := hserves hown hroom
  refine ⟨crowdedPast, crowded, past, after, task, crowdedPast', after', task', run_of_trace? hcrowded,
    hholder, hown, hother, ?_, hbalances⟩
  have hends := hfared hown hother
  rwa [hlength] at hends

end System

end Passbook
