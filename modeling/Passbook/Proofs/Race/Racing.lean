import Passbook.Proofs.Race.Racers

/-! # Races

In a smooth run in which all work that comes are transfers with room for what they move, the committed
books are at every moment those that the transfers committed so far make of the ones at the start
(`Racing`). It is enough to look at the task that moves: what it publishes it has locked, so the others
go on to fit the committed books. -/

namespace Passbook

namespace System

open UnitOfWork Transfer

variable {start : Books} {past : Past} {system after : System} {event : Event} {move : Move}
  {runner : Runner} {command : Command} {index limit capacity : Nat}

/-- The task does one of the orders, the one whose turn it was when it came. -/
def Entrant (start : Books) (orders : List (Runner × Command)) (past : Past) (system : System)
    (index : Nat) (task : Task) : Prop :=
  ∃ runner command, orders[index]? = some (runner, command) ∧
    past.Spawned index (order runner command) ∧
      Racer start (orders.map (·.2)) past system runner command index task

/-- A race of transfers: its tasks are the first of the orders, and the committed books are those that
the committed ones of them have made. -/
structure Racing (start : Books) (orders : List (Runner × Command)) (past : Past)
    (system : System) : Prop where
  works : past.works <+: orderAll orders
  faithful : past.Faithful
  executes : Executes start (chosen (orders.map (·.2)) past.commits) system.db.books
  nodup : past.commits.Nodup
  committed : ∀ index ∈ past.commits, index < system.tasks.length
  entrant : ∀ index task, system.tasks[index]? = some task →
    Entrant start orders past system index task

variable {db : Database} {orders : List (Runner × Command)}

theorem racing_start (orders : List (Runner × Command)) (db : Database) (capacity : Nat) :
    Racing db.books orders [] (.start db capacity) where
  works := List.nil_prefix
  faithful := .of_isPlain rfl
  executes := .nil
  nodup := List.nodup_nil
  committed _ hmem := by cases hmem
  entrant _ _ ht := by cases ht

namespace Racing

theorem lt_length (h : Racing start orders past system) (hmem : index ∈ past.commits) :
    index < orders.length := by
  have ht := List.getElem?_eq_getElem (h.committed index hmem)
  obtain ⟨runner, command, horder, -⟩ := h.entrant index _ ht
  exact (List.getElem?_eq_some_iff.mp horder).1

theorem subperm_commits (h : Racing start orders past system) :
    (chosen (orders.map (·.2)) past.commits).Subperm (orders.map (·.2)) := by
  refine chosen_subperm h.nodup fun index hmem => ?_
  rw [List.length_map]
  exact h.lt_length hmem

/-- An order that has not been committed, and some that have been, are different ones of the orders. -/
theorem subperm (h : Racing start orders past system) {earlier : List Nat}
    (horder : orders[index]? = some (runner, command)) (hnot : index ∉ past.commits)
    (hearlier : earlier <+: past.commits) :
    (command :: chosen (orders.map (·.2)) earlier).Subperm (orders.map (·.2)) := by
  have hown : (orders.map (·.2))[index]? = some command := by
    rw [List.getElem?_map, horder]
    rfl
  have hlt : ∀ other ∈ index :: earlier, other < (orders.map (·.2)).length := by
    rw [List.length_map]
    refine List.forall_mem_cons.mpr ⟨(List.getElem?_eq_some_iff.mp horder).1, ?_⟩
    exact fun other hmem => h.lt_length (hearlier.subset hmem)
  have hnodup : (index :: earlier).Nodup :=
    List.nodup_cons.mpr ⟨fun hmem => hnot (hearlier.subset hmem), h.nodup.sublist hearlier.sublist⟩
  have hsub := chosen_subperm hnodup hlt
  rwa [chosen, List.filterMap_cons, hown] at hsub

/-- An order that has not been committed can be executed next. -/
theorem ready (h : Racing start orders past system) (hroomy : Roomy start (orders.map (·.2)))
    (horder : orders[index]? = some (runner, command)) (hnot : index ∉ past.commits) :
    Ready command system.db.books :=
  hroomy.ready h.executes (h.subperm horder hnot List.prefix_rfl)

theorem keysFree (h : Racing start orders past system) : system.KeysFree event := by
  intro told htold _
  obtain ⟨task, next, ht, -, hw⟩ := work_of_told htold
  obtain ⟨runner, command, -, -, hracer⟩ := h.entrant told.index task ht
  exact hracer.not_adds hw _ _

/-- It is enough to look at the task that moves, and at those that are new. -/
theorem of_step (h : Racing start orders past system) (ho : Orderly [] [] system)
    (hs : system.step event = some after)
    (hworks : Past.works (past ++ [(system, event)]) <+: orderAll orders)
    (hfaith : Past.Faithful (past ++ [(system, event)]))
    (hexecutes : Executes start (chosen (orders.map (·.2))
      (Past.commits (past ++ [(system, event)]))) after.db.books)
    (hfirst : ∀ index, system.committed? event = some index → index ∉ past.commits)
    (hagree : ∀ index task, system.tasks[index]? = some task → event.mover? ≠ some index →
      ∀ connection ∈ task.claims,
        system.db.books.Agree (system.db.Holds connection) after.db.books)
    (hold : ∀ index task, system.tasks[index]? = some task → event.mover? ≠ some index →
      after.tasks[index]? = some task)
    (hnew : ∀ index task, after.tasks[index]? = some task →
      event.mover? = some index ∨ system.tasks[index]? = none →
      Entrant start orders (past ++ [(system, event)]) after index task) :
    Racing start orders (past ++ [(system, event)]) after where
  works := hworks
  faithful := hfaith
  executes := hexecutes
  nodup := by
    rw [Past.commits_concat]
    refine List.Nodup.append h.nodup ?_ ?_
    · cases system.committed? event <;> simp
    · intro index hmem hlast
      exact hfirst index (Option.mem_toList.mp hlast) hmem
  committed := by
    intro index hmem
    rw [Past.commits_concat] at hmem
    refine Nat.lt_of_lt_of_le ?_ (length_le_step hs)
    rcases List.mem_append.mp hmem with hmem | hmem
    · exact h.committed index hmem
    · exact lt_length_of_mover hs (mover_of_committed? (Option.mem_toList.mp hmem))
  entrant := by
    intro index task ht
    by_cases hm : event.mover? = some index
    · exact hnew index task ht (.inl hm)
    · cases hown : system.tasks[index]? with
      | none => exact hnew index task ht (.inr hown)
      | some own =>
        obtain rfl := Option.some.inj ((hold index own hown hm).symm.trans ht)
        obtain ⟨runner, command, horder, hspawned, hracer⟩ := h.entrant index own hown
        exact ⟨runner, command, horder, hspawned.concat system event,
          hracer.of_step ho hs hown hm (hagree index own hown hm)⟩

section

variable (h : Racing start orders past system) (ho : Orderly [] [] system)
  (hs : system.step event = some after)
include h ho hs

/-- An event by which nothing becomes public. -/
theorem of_quiet (hsilent : system.publication? event = none)
    (hworks : Past.works (past ++ [(system, event)]) <+: orderAll orders)
    (hfaith : Past.Faithful (past ++ [(system, event)]))
    (hold : ∀ index task, system.tasks[index]? = some task → event.mover? ≠ some index →
      after.tasks[index]? = some task)
    (hnew : ∀ index task, after.tasks[index]? = some task →
      event.mover? = some index ∨ system.tasks[index]? = none →
      Entrant start orders (past ++ [(system, event)]) after index task) :
    Racing start orders (past ++ [(system, event)]) after := by
  have hbooks : after.db.books = system.db.books := by
    rw [books_step hs, hsilent]
    rfl
  refine h.of_step ho hs hworks hfaith ?_ ?_ (fun _ _ _ _ connection _ => ?_) hold hnew
  · rw [commits_of_quiet hsilent, hbooks]
    exact h.executes
  · intro index hc
    rw [committed?_of_silent hsilent] at hc
    cases hc
  · rw [hbooks]
    exact .refl _ _

/-- An event by which nobody comes and nobody moves. -/
theorem idle (hm : event.mover? = none) (hw : event.work? = none)
    (hfaith : Past.Faithful (past ++ [(system, event)])) {db : Database} {now : Nat}
    (hafter : after = { system with db, now }) :
    Racing start orders (past ++ [(system, event)]) after := by
  have hsilent : system.publication? event = none := by
    cases event <;> first | rfl | cases hm
  subst hafter
  refine h.of_quiet ho hs hsilent ?_ hfaith (fun _ _ ht _ => ht) ?_
  · rw [Past.works_concat, hw]
    simpa using h.works
  · rintro index task ht (hmover | hnone)
    · cases hm.symm.trans hmover
    · cases hnone.symm.trans ht

end

/-- The order that is committed has been executed on the books as they were. -/
theorem executes_committed {connection : Nat} {changes : Books}
    (h : Racing db.books orders past system) (hrest : db.AtRest)
    (hrun : Run (.start db capacity) past system)
    (hconnections : ∀ before connections deadline work,
      (before, .spawn connections deadline work) ∈ past → connections = [])
    (horder : orders[move.index]? = some (runner, command))
    (hspawned : past.Spawned move.index (order runner command))
    (hs : system.step (.move move) = some after)
    (hfaith : Past.Faithful (past ++ [(system, .move move)]))
    (hp : system.publication? (.move move) = some (connection, changes))
    (hcommits : Past.commits (past ++ [(system, .move move)]) = past.commits ++ [move.index]) :
    Executes db.books (chosen (orders.map (·.2)) (Past.commits (past ++ [(system, .move move)])))
      after.db.books := by
  obtain ⟨before, connections, deadline, hmem, hlength⟩ := hspawned
  obtain rfl := hconnections before connections deadline _ hmem
  obtain ⟨debit, credit, happlied⟩ := applied_of_publication hrest (hrun.step hs) hfaith
    (List.mem_append_left _ hmem) (List.mem_append_right _ List.mem_cons_self)
    (congrArg some hlength.symm) hs hp
  have hown : (orders.map (·.2))[move.index]? = some command := by
    rw [List.getElem?_map, horder]
    rfl
  have hchosen : chosen (orders.map (·.2)) (past.commits ++ [move.index]) =
      chosen (orders.map (·.2)) past.commits ++ [command] := by
    simp only [chosen, List.filterMap_append, List.filterMap_cons, hown, List.filterMap_nil]
  rw [hcommits, hchosen]
  exact h.executes.concat happlied

theorem step_move (h : Racing db.books orders past system) (hrest : db.AtRest)
    (hroomy : Roomy db.books (orders.map (·.2)))
    (hadmits : ∀ order ∈ orders, (UnitOfWork.transfer order.1 order.2).Admits)
    (hrun : Run (.start db capacity) past system)
    (hconnections : ∀ before connections deadline work,
      (before, .spawn connections deadline work) ∈ past → connections = [])
    (hflow : Flowing False limit capacity past system)
    (hT : system.Twists fun twist => twist = .none) (hs : system.step (.move move) = some after)
    (honward : move.isOnward = true)
    (hfaith : Past.Faithful (past ++ [(system, .move move)])) :
    Racing db.books orders (past ++ [(system, .move move)]) after := by
  have hsound := hrun.sound hrest h.faithful
  have hlt := lt_length_of_mover hs rfl
  have ht := List.getElem?_eq_getElem hlt
  obtain ⟨runner, command, horder, hspawned, hracer⟩ := h.entrant move.index _ ht
  have hheat := hracer.heat hflow hsound (hsound.step hfaith hs) hT ht hs honward h.executes
    (h.ready hroomy horder) (hadmits _ (List.mem_of_getElem? horder))
  obtain ⟨task', hadv⟩ := (hflow.climber move.index _ ht).advances hflow.faults hsound.twists
    hsound.underway hsound.orderly (fun hmove => absurd hmove (ne_of_isOnward honward rfl)) ht hs
  have hworks : Past.works (past ++ [(system, .move move)]) <+: orderAll orders := by
    rw [Past.works_concat]
    simpa [Event.work?] using h.works
  have hold : ∀ index task, system.tasks[index]? = some task →
      (Event.move move).mover? ≠ some index → after.tasks[index]? = some task := by
    intro index task hown hne
    rw [hadv.tasks, List.getElem?_set_ne fun he => hne (congrArg some he)]
    exact hown
  have hnew : ∀ {own : Task}, after.tasks[move.index]? = some own →
      Racer db.books (orders.map (·.2)) (past ++ [(system, .move move)]) after runner command
        move.index own →
      ∀ index task, after.tasks[index]? = some task →
        (Event.move move).mover? = some index ∨ system.tasks[index]? = none →
        Entrant db.books orders (past ++ [(system, .move move)]) after index task := by
    rintro own hplace hown index task htask (hm | hnone)
    · obtain rfl : move.index = index := Option.some.inj hm
      rw [← Option.some.inj (hplace.symm.trans htask)]
      exact ⟨runner, command, horder, hspawned.concat _ _, hown⟩
    · have hle := List.getElem?_eq_none_iff.mp hnone
      have hin := (List.getElem?_eq_some_iff.mp htask).1
      rw [hadv.tasks, List.length_set] at hin
      omega
  cases hheat with
  | quiet hplace hsilent hown =>
    exact h.of_quiet hsound.orderly hs hsilent hworks hfaith hold (hnew hplace hown)
  | @wins own debit connection changes hplace hnot hclaims hp hc hcovers hf hreply =>
    have hbooks : after.db.books = system.db.books.overlay changes := by
      rw [books_step hs, hp]
      rfl
    have hcommits : Past.commits (past ++ [(system, .move move)]) =
        past.commits ++ [move.index] := by
      rw [Past.commits_concat, hc]
      rfl
    have hexecutes :=
      h.executes_committed hrest hrun hconnections horder hspawned hs hfaith hp hcommits
    refine h.of_step hsound.orderly hs hworks hfaith hexecutes ?_ ?_ hold
      (hnew hplace (.won hf (by simp [hcommits]) hreply))
    · intro index hc'
      rw [← Option.some.inj (hc.symm.trans hc')]
      exact hnot
    · intro index task hown hne other hother
      rw [hbooks]
      refine Books.agree_overlay hcovers ?_
      intro account hheld hlocked
      obtain rfl := hsound.orderly.locks.eq_of_mem hheld hlocked
      obtain rfl := hsound.orderly.eq_of_claims ht hown hclaims hother
      exact hne rfl

theorem step_spawn (h : Racing start orders past system) (ho : Orderly [] [] system)
    {deadline : Option Deadline} {work : Work Reply}
    (hlength : past.works.length = system.tasks.length)
    (hs : system.step (.spawn [] deadline work) = some after)
    (hworks : Past.works (past ++ [(system, .spawn [] deadline work)]) <+: orderAll orders)
    (hfaith : Past.Faithful (past ++ [(system, .spawn [] deadline work)])) :
    Racing start orders (past ++ [(system, .spawn [] deadline work)]) after := by
  obtain ⟨runner, command, horder, rfl⟩ : ∃ runner command,
      orders[system.tasks.length]? = some (runner, command) ∧ work = order runner command := by
    obtain ⟨later, hlater⟩ := hworks
    have hown : (orderAll orders)[system.tasks.length]? = some work := by
      rw [← hlater, Past.works_concat, ← hlength]
      simp [Event.work?]
    rw [orderAll, List.getElem?_map, Option.map_eq_some_iff] at hown
    obtain ⟨⟨runner, command⟩, horder, rfl⟩ := hown
    exact ⟨runner, command, horder, rfl⟩
  rw [order, ← UnitOfWork.work_execute] at hs
  obtain ⟨own, rfl, hwait, -⟩ := Waiting.of_spawn hs
  rw [UnitOfWork.work_execute] at hs
  have hsilent : system.publication? (.spawn [] deadline (order runner command)) = none := rfl
  refine h.of_quiet ho hs hsilent hworks hfaith ?_ ?_
  · intro index task ht _
    rw [List.getElem?_append_left (List.getElem?_eq_some_iff.mp ht).1]
    exact ht
  · rintro index task ht (hm | hnone)
    · cases hm
    · have hle := List.getElem?_eq_none_iff.mp hnone
      have hlt := (List.getElem?_eq_some_iff.mp ht).1
      simp only [List.length_append, List.length_singleton] at hlt
      obtain rfl : index = system.tasks.length := by omega
      simp only [List.getElem?_concat_length, Option.some.injEq] at ht
      subst ht
      refine ⟨runner, command, horder,
        ⟨system, [], deadline, List.mem_append_right _ List.mem_cons_self, rfl⟩, .waiting ?_ hwait⟩
      rw [commits_of_quiet hsilent]
      exact fun hmem => Nat.lt_irrefl _ (h.committed _ hmem)

end Racing

end System

/-- A smooth event by which nothing but an order comes that can be executed. -/
theorem Event.IsSmooth.flows {orders : List (Runner × Command)} {event : Event}
    (h : event.IsSmooth) (hwork : ∀ work, event.work? = some work → work ∈ Transfer.orderAll orders)
    (hadmits : ∀ order ∈ orders, (UnitOfWork.transfer order.1 order.2).Admits) :
    event.Flows False 9 := by
  cases event with
  | spawn connections deadline work =>
    obtain ⟨⟨runner, command⟩, hmem, rfl⟩ := List.mem_map.mp (hwork work rfl)
    refine ⟨h, False.elim, runner, command, ?_, hadmits _ hmem, rfl⟩
    unfold UnitOfWork.statements
    split <;> omega
  | move made =>
    intro hmade
    rw [hmade] at h
    cases h
  | elapse | tick => trivial
  | release | arm | unstall | closePool => cases h

section

variable {db : Database} {capacity : Nat} {orders : List (Runner × Command)} {past : Past}
  {system : System} (hrest : db.AtRest)
  (hadmits : ∀ order ∈ orders, (UnitOfWork.transfer order.1 order.2).Admits)
  (hrun : Run (.start db capacity) past system)
  (hsmooth : ∀ before event, (before, event) ∈ past → event.IsSmooth)
include hrest hadmits hrun hsmooth

theorem Run.flows_smoothly (hworks : past.works <+: Transfer.orderAll orders) :
    System.Flowing False 9 capacity past system := by
  refine hrun.flowing hrest fun before event hmem => ?_
  refine (hsmooth before event hmem).flows (fun work hwork => ?_) hadmits
  exact hworks.subset (List.mem_filterMap.mpr ⟨_, hmem, hwork⟩)

/-- A smooth run of orders for which there is room is a race. -/
theorem Run.racing (hroomy : Transfer.Roomy db.books (orders.map (·.2)))
    (hworks : past.works <+: Transfer.orderAll orders) :
    System.Racing db.books orders past system := by
  induction hrun with
  | refl => exact System.racing_start orders db capacity
  | @step past system after event hrun hs ih =>
    have hbefore : ∀ before event, (before, event) ∈ past → event.IsSmooth :=
      fun before event hmem => hsmooth before event (List.mem_append_left _ hmem)
    have hlast := hsmooth system event (List.mem_append_right _ List.mem_cons_self)
    have hworks' : past.works <+: Transfer.orderAll orders := by
      rw [Past.works_concat] at hworks
      exact (List.prefix_append ..).trans hworks
    have hracing := ih hbefore hworks'
    have hsound := hrun.sound hrest hracing.faithful
    have hflow := hrun.flows_smoothly hrest hadmits hbefore hworks'
    have hfaith : Past.Faithful (past ++ [(system, event)]) := by
      constructor
      · intro before armed hmem
        cases hsmooth before _ hmem
      · intro before other hmem
        rcases List.mem_append.mp hmem with hmem | hmem
        · exact hracing.faithful.keys before other hmem
        · obtain ⟨rfl, rfl⟩ := Prod.mk.inj (List.mem_singleton.mp hmem)
          exact hracing.keysFree
    cases event with
    | move move =>
      refine hracing.step_move hrest hroomy hadmits hrun ?_ hflow ?_ hs hlast hfaith
      · exact fun before connections deadline work hmem => hbefore before _ hmem
      · exact hrun.twists (System.twists_start (fun twist => twist = .none) rfl db capacity)
          fun before armed hmem => by cases hbefore before _ hmem
    | spawn connections deadline work =>
      obtain rfl : connections = [] := hlast
      refine hracing.step_spawn hsound.orderly ?_ hs hworks hfaith
      rw [Past.length_works, hflow.calls]
    | elapse till =>
      exact hracing.idle hsound.orderly hs rfl rfl hfaith (Option.some.inj hs).symm
    | tick clock => exact hracing.idle hsound.orderly hs rfl rfl hfaith (Option.some.inj hs).symm
    | release | arm | unstall | closePool => cases hlast

end

end Passbook
