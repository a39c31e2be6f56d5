import Passbook.Proofs.Serial.Standing

/-! # What work asks for

Work asks for statements of some kind only, whatever it is answered (`Work.Asks`). A task that was
spawned to do such work is never told of any other statement, whatever happens in the run, also when its
caller gives up (`Run.asks_of_spawned`). If all work is such, then so is all that anybody is told of
(`Run.asks`). -/

namespace Passbook

namespace Work

variable {α β : Type} {Allows : Statement → Prop}

/-- The work asks for no statements but the given ones, on any connection. -/
inductive Asks (Allows : Statement → Prop) : Work α → Prop
  | done (value : α) : Asks Allows (.done value)
  | connect {next : Except StorageError Unit → Work α} : (∀ result, Asks Allows (next result)) →
      Asks Allows (.connect next)
  | giveBack {rest : Work α} : Asks Allows rest → Asks Allows (.giveBack rest)
  | exec {statement : Statement} {next : statement.Answer → Work α} : Allows statement →
      (∀ answer, Asks Allows (next answer)) → Asks Allows (.exec statement next)
  | draw {next : Draw → Work α} : (∀ drawn, Asks Allows (next drawn)) → Asks Allows (.draw next)
  | report {reply : Reply} {rest : Work α} : Asks Allows rest → Asks Allows (.report reply rest)

theorem Asks.bind {work : Work α} {f : α → Work β} (h : work.Asks Allows)
    (hf : ∀ value, (f value).Asks Allows) : (work.bind f).Asks Allows := by
  induction h with
  | done value => exact hf value
  | connect _ ih => exact .connect ih
  | giveBack _ ih => exact .giveBack ih
  | exec hs _ ih => exact .exec hs ih
  | draw _ ih => exact .draw ih
  | report _ ih => exact .report ih

theorem asks_leave (task : Task) : task.leave.Asks Allows := by
  unfold Task.leave
  induction task.connections with
  | nil => exact .done _
  | cons connection connections ih => exact .giveBack ih

/-- A call that is done at a place asks for what it asks for itself. -/
theorem asks_replying {call : Call α} (h : call.run.Asks Allows) (place : Place)
    (reply : α → Reply) : (Call.replying reply (place.run call)).Asks Allows := by
  refine Asks.bind ?_ fun _ => .done _
  cases place with
  | callers => exact h
  | pooled =>
    refine .connect fun result => ?_
    cases result with
    | error error => exact .done _
    | ok => exact h.bind fun _ => .giveBack (.done _)

end Work

namespace System

variable {Allows : Statement → Prop} {system after : System} {event : Event} {index : Nat}
  {task : Task}

theorem asks_proceed (system : System) (task : Task) {work : Work Reply} (h : work.Asks Allows) :
    (system.proceed task work).2.stage.work.Asks Allows := by
  induction work generalizing system task with
  | done reply => exact .done _
  | connect next => exact h
  | exec statement next => exact h
  | giveBack rest ih =>
    cases h with | giveBack hrest
    unfold proceed
    split
    · exact ih system task hrest
    · exact ih _ _ hrest
  | draw next ih =>
    cases h with | draw hnext
    exact ih _ _ task (hnext _)
  | report reply rest ih =>
    cases h with | report hrest
    exact ih system _ hrest

theorem asks_moves {move : Move} (ht : system.tasks[move.index]? = some task)
    (hs : system.step (.move move) = some after) (h : task.stage.work.Asks Allows) :
    ∃ task', after.tasks[move.index]? = some task' ∧ task'.stage.work.Asks Allows := by
  have hlt := (List.getElem?_eq_some_iff.mp ht).1
  cases System.moves (Twists.any system) hs with
  | connected _ ho hw =>
    cases ht.symm.trans ho
    rw [hw] at h
    cases h with | connect hnext
    exact ⟨_, getElem?_carryOn_self (by exact hlt) _ _, asks_proceed _ _ (hnext _)⟩
  | turnedAway error _ ho hw =>
    cases ht.symm.trans ho
    rw [hw] at h
    cases h with | connect hnext
    exact ⟨_, getElem?_carryOn_self hlt _ _, asks_proceed _ _ (hnext _)⟩
  | gaveUp _ ho =>
    cases ht.symm.trans ho
    exact ⟨_, getElem?_carryOn_self hlt _ _, asks_proceed _ _ (Work.asks_leave _)⟩
  | leftBehind _ ho _ hstage =>
    cases ht.symm.trans ho
    rw [hstage] at h
    cases h with | exec hallows
    exact ⟨_, List.getElem?_set_self hlt, .exec hallows fun _ => Work.asks_leave _⟩
  | @arrived arrival _ ha =>
    cases ht.symm.trans ha.task
    have hstage := ha.stage
    have htasks : arrival.system.tasks = system.tasks := by rw [ha.meets.eq]
    rw [← htasks, ← ha.index] at hlt
    rw [← ha.index]
    rw [hstage] at h
    cases h with | exec hallows hnext
    obtain ⟨sending, met, fate⟩ := arrival
    cases fate with
    | answered => exact ⟨_, getElem?_carryOn_self (by exact hlt) _ _, asks_proceed _ _ (hnext _)⟩
    | held => exact ⟨_, List.getElem?_set_self hlt, .exec hallows hnext⟩

/-- Whatever happens, a task goes on to ask for what it may ask for. -/
theorem asks_step (ht : system.tasks[index]? = some task) (hs : system.step event = some after)
    (h : task.stage.work.Asks Allows) :
    ∃ task', after.tasks[index]? = some task' ∧ task'.stage.work.Asks Allows := by
  by_cases hm : event.mover? = some index
  · obtain ⟨move, rfl, rfl⟩ := mover?_eq_some hm
    exact asks_moves ht hs h
  · rcases getElem?_step hs ht hm with ht' | ⟨-, ht'⟩
    · exact ⟨task, ht', h⟩
    · refine ⟨_, ht', ?_⟩
      dsimp only
      rwa [Stage.work_unstall]

/-- A task that comes new asks for what it was spawned to ask for, or it rolls back. -/
theorem asks_of_new (hrollback : Allows .rollback) (hs : system.step event = some after)
    (ht : after.tasks[index]? = some task) (hnew : system.tasks[index]? = none)
    (hspawn : ∀ connections deadline work, event = .spawn connections deadline work →
      work.Asks Allows) : task.stage.work.Asks Allows := by
  rcases new_of_step hs ht hnew with ⟨connection, rfl⟩ | ⟨connections, deadline, work, he, rfl⟩
  · exact .exec hrollback fun _ => .giveBack (.done _)
  · exact asks_proceed _ _ (hspawn connections deadline work he)

/-- Who is told of a statement has asked for it. -/
theorem allows_of_told {told : Told} (htold : system.told? event = some told)
    (ht : system.tasks[told.index]? = some task) (h : task.stage.work.Asks Allows) :
    Allows told.statement := by
  obtain ⟨_, next, ht', -, hwork⟩ := work_of_told htold
  cases ht.symm.trans ht'
  rw [hwork] at h
  cases h with | exec hallows
  exact hallows

end System

namespace Run

variable {Allows : Statement → Prop} {start system : System} {past : Past} {index : Nat}
  {work : Work Reply}

/-- Who has been told of something is there. -/
theorem lt_of_told (h : Run start past system) {before : System} {event : Event} {told : Told}
    (hmem : (before, event) ∈ past) (htold : before.told? event = some told) :
    told.index < system.tasks.length := by
  induction h with
  | refl => cases hmem
  | step _ hs ih =>
    have hle := System.length_le_step hs
    rcases List.mem_append.mp hmem with hmem | hmem
    · exact Nat.lt_of_lt_of_le (ih hmem) hle
    · obtain ⟨rfl, rfl⟩ := Prod.mk.inj (List.mem_singleton.mp hmem)
      exact Nat.lt_of_lt_of_le (System.lt_length_of_mover hs (System.touched_of_told htold).1) hle

/-- A task that was spawned for such work asks for such statements only. -/
theorem asks_of_spawned (h : Run start past system) (hrollback : Allows .rollback)
    (hspawned : past.Spawned index work) (hwork : work.Asks Allows) :
    (∃ task, system.tasks[index]? = some task ∧ task.stage.work.Asks Allows) ∧
      ∀ before event told, (before, event) ∈ past → before.told? event = some told →
        told.index = index → Allows told.statement := by
  induction h with
  | refl => obtain ⟨_, _, _, hmem, _⟩ := hspawned; cases hmem
  | @step past system after event hrun hs ih =>
    rcases hspawned.of_concat with hspawned | ⟨rfl, connections, deadline, rfl⟩
    · obtain ⟨⟨task, ht, hasks⟩, htold⟩ := ih hspawned
      refine ⟨System.asks_step ht hs hasks, fun before event told hmem hnow hindex => ?_⟩
      rcases List.mem_append.mp hmem with hmem | hmem
      · exact htold before event told hmem hnow hindex
      · obtain ⟨rfl, rfl⟩ := Prod.mk.inj (List.mem_singleton.mp hmem)
        exact System.allows_of_told hnow (hindex ▸ ht) hasks
    · constructor
      · have ht := List.getElem?_eq_getElem ((hrun.step hs).lt_of_spawned hspawned)
        refine ⟨_, ht, ?_⟩
        exact System.asks_of_new hrollback hs ht (List.getElem?_eq_none (Nat.le_refl _)) fun _ _ _ he => by
          cases he
          exact hwork
      · intro before event told hmem hnow hindex
        rcases List.mem_append.mp hmem with hmem | hmem
        · have hlt := hrun.lt_of_told hmem hnow
          omega
        · obtain ⟨rfl, rfl⟩ := Prod.mk.inj (List.mem_singleton.mp hmem)
          cases hnow

/-- If all work asks for such statements only, and rollbacks are such, then nobody is told of any
other. -/
theorem asks {db : Database} {capacity : Nat} (h : Run (.start db capacity) past system)
    (hrollback : Allows .rollback)
    (hspawns : ∀ before connections deadline work,
      (before, .spawn connections deadline work) ∈ past → work.Asks Allows) :
    (∀ (index : Nat) (task : Task), system.tasks[index]? = some task →
      task.stage.work.Asks Allows) ∧
      ∀ before event told, (before, event) ∈ past → before.told? event = some told →
        Allows told.statement := by
  induction h with
  | refl =>
    refine ⟨fun index task ht => ?_, fun before event told hmem => ?_⟩
    · cases ht
    · cases hmem
  | @step past system after event _ hs ih =>
    obtain ⟨htasks, htold⟩ := ih fun before connections deadline work hmem =>
      hspawns before connections deadline work (List.mem_append_left _ hmem)
    refine ⟨fun index task ht => ?_, fun before event told hmem hnow => ?_⟩
    · cases hold : system.tasks[index]? with
      | some old =>
        obtain ⟨_, ht', hasks⟩ := System.asks_step hold hs (htasks index old hold)
        cases ht.symm.trans ht'
        exact hasks
      | none =>
        refine System.asks_of_new hrollback hs ht hold ?_
        rintro connections deadline work rfl
        exact hspawns system connections deadline work
          (List.mem_append_right _ List.mem_cons_self)
    · rcases List.mem_append.mp hmem with hmem | hmem
      · exact htold before event told hmem hnow
      · obtain ⟨rfl, rfl⟩ := Prod.mk.inj (List.mem_singleton.mp hmem)
        obtain ⟨task, next, ht, -, -⟩ := System.work_of_told hnow
        exact System.allows_of_told hnow ht (htasks _ _ ht)

end Run

end Passbook
