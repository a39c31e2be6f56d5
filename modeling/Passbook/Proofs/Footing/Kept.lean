import Passbook.Proofs.Footing.Tasks

/-! # Connections that callers keep

A task that ends may leave its connection to its caller, who comes back with more work for it or gives
it back. Until then the connection is idle. An idle connection has been idle before, and nobody has
touched it, or the task has just ended that worked on it (`idle_of_step`). -/

namespace Passbook.System

open Database

variable {system after : System} {event : Event} {connection index : Nat} {task task' : Task}
  {work : Work Reply}

/-- The task goes on or comes up because of the event. -/
def Acts (system : System) : Event → Nat → Task → Prop
  | .move move, index, _ => move.index = index
  | .spawn connections deadline work, _, task =>
    task = (system.proceed (.fresh connections deadline) work).2
  | _, _, _ => False

/-- A connection on which a task works is not idle. -/
theorem not_isIdle (ht : system.tasks[index]? = some task) (hc : connection ∈ task.claims) :
    system.isIdle connection = false := by
  have hpos := List.count_pos_iff.mpr hc
  have hle := count_le_claimed ht connection
  cases hidle : system.isIdle connection with
  | false => rfl
  | true =>
    have hzero := (isIdle_iff.mp hidle).2
    omega

theorem exists_claims (hin : connection ∈ system.inUse)
    (hbusy : system.isIdle connection = false) :
    ∃ (index : Nat) (task : Task), system.tasks[index]? = some task ∧ connection ∈ task.claims := by
  by_contra hnone
  have hzero : system.claimed connection = 0 := by
    refine List.sum_eq_zero fun count hcount => ?_
    obtain ⟨task, htask, rfl⟩ := List.mem_map.mp hcount
    obtain ⟨index, ht⟩ := List.mem_iff_getElem?.mp htask
    exact List.count_eq_zero.mpr fun hc => hnone ⟨index, task, ht, hc⟩
  rw [isIdle_iff.mpr ⟨hin, hzero⟩] at hbusy
  cases hbusy

/-- A connection that is given back is rolled back by a task of its own, or it is closed. -/
theorem giveBack_cases (system : System) (connection : Nat) :
    ((system.giveBack connection).tasks = system.tasks ++ [.cleanup connection] ∧
        (system.giveBack connection).inUse = system.inUse) ∨
      (system.giveBack connection).tasks = system.tasks ∧
        (system.giveBack connection).inUse = system.inUse.erase connection := by
  unfold giveBack
  dsimp only
  split
  · exact .inl ⟨rfl, rfl⟩
  · exact .inr ⟨rfl, rfl⟩

/-- Work that is carried on keeps a connection, or gives it back to be rolled back or closed. -/
theorem kept_proceed (hn : system.inUse.Nodup) (hc : connection ∈ task.connections)
    (hin : connection ∈ (system.proceed task work).1.inUse) :
    connection ∈ (system.proceed task work).2.connections ∨
      ∃ index, system.tasks.length ≤ index ∧
        (system.proceed task work).1.tasks[index]? = some (.cleanup connection) := by
  induction work generalizing system task with
  | done | connect | exec => exact .inl hc
  | draw next ih => exact ih _ hn hc hin
  | report reply rest ih =>
    refine ih hn ?_ hin
    exact hc
  | giveBack rest ih =>
    cases hconnections : task.connections with
    | nil => rw [hconnections] at hc; cases hc
    | cons former connections =>
      have hstep : system.proceed task (.giveBack rest) =
          (system.giveBack former).proceed { task with connections } rest := by
        rw [proceed, hconnections]
      rw [hstep] at hin ⊢
      rw [hconnections] at hc
      by_cases hmore : connection ∈ connections
      · have hn' : (system.giveBack former).inUse.Nodup := by
          rcases giveBack_cases system former with ⟨-, hinUse⟩ | ⟨-, hinUse⟩
          · rw [hinUse]; exact hn
          · rw [hinUse]; exact hn.erase former
        have hlength : system.tasks.length ≤ (system.giveBack former).tasks.length := by
          rcases giveBack_cases system former with ⟨htasks, -⟩ | ⟨htasks, -⟩ <;> simp [htasks]
        refine (@ih (system.giveBack former) { task with connections } hn' hmore hin).imp_right ?_
        rintro ⟨index, hle, ht⟩
        exact ⟨index, Nat.le_trans hlength hle, ht⟩
      · obtain rfl : connection = former := (List.mem_cons.mp hc).resolve_right hmore
        rcases giveBack_cases system connection with ⟨htasks, -⟩ | ⟨-, hinUse⟩
        · refine .inr ⟨system.tasks.length, Nat.le_refl _, ?_⟩
          rw [getElem?_proceed (by simp [htasks]), htasks]
          exact List.getElem?_concat_length
        · rw [(Spares.proceed rest hmore).inUse, hinUse] at hin
          exact absurd hin hn.not_mem_erase

/-- What is idle when a task has taken its place again is none of its connections. -/
theorem idle_of_setTask (hlt : index < system.tasks.length) (hf : task.stage.isFinished = false)
    (hidle : (system.setTask index task).isIdle connection = true) :
    connection ∉ task.connections ∧ connection ∈ system.inUse := by
  refine ⟨fun hc => ?_, (isIdle_iff.mp hidle).1⟩
  have ht : (system.setTask index task).tasks[index]? = some task := List.getElem?_set_self hlt
  cases hidle.symm.trans (not_isIdle ht (by rw [Task.claims_eq hf]; exact hc))

/-- What is idle when a task has been carried on is none of its connections, or the task has ended and
kept it. -/
theorem idle_of_carryOn (hn : system.inUse.Nodup) (hlt : index < system.tasks.length)
    (hidle : (system.carryOn index task work).isIdle connection = true) :
    (connection ∉ task.connections ∧ connection ∈ system.inUse) ∨
      ∃ task', (system.carryOn index task work).tasks[index]? = some task' ∧
        task'.stage.isFinished = true ∧ connection ∈ task'.connections := by
  have hin : connection ∈ (system.proceed task work).1.inUse := (isIdle_iff.mp hidle).1
  by_cases hc : connection ∈ task.connections
  · right
    have ht' := getElem?_carryOn_self hlt task work
    rcases kept_proceed hn hc hin with hkept | ⟨other, hle, hother⟩
    · refine ⟨_, ht', ?_, hkept⟩
      cases hf : (system.proceed task work).2.stage.isFinished with
      | true => rfl
      | false => cases hidle.symm.trans (not_isIdle ht' (by rw [Task.claims_eq hf]; exact hkept))
    · have ht : (system.carryOn index task work).tasks[other]? = some (.cleanup connection) := by
        simp only [carryOn, setTask]
        rw [List.getElem?_set_ne (by omega), hother]
      cases hidle.symm.trans (not_isIdle ht List.mem_cons_self)
  · exact .inl ⟨hc, (Spares.proceed work hc).inUse.mp hin⟩

theorem idle_of_spawn {connections : List Nat} {deadline : Option Deadline}
    (hn : system.inUse.Nodup)
    (hidle : (system.spawn connections deadline work).1.isIdle connection = true) :
    (connection ∉ connections ∧ connection ∈ system.inUse) ∨
      ∃ index : Nat, (system.spawn connections deadline work).1.tasks[index]? =
          some (system.proceed (.fresh connections deadline) work).2 ∧
        (system.proceed (.fresh connections deadline) work).2.stage.isFinished = true ∧
        connection ∈ (system.proceed (.fresh connections deadline) work).2.connections := by
  have hin : connection ∈ (system.proceed (.fresh connections deadline) work).1.inUse :=
    (isIdle_iff.mp hidle).1
  by_cases hc : connection ∈ connections
  · right
    have ht' : (system.spawn connections deadline work).1.tasks[
        (system.proceed (.fresh connections deadline) work).1.tasks.length]? =
          some (system.proceed (.fresh connections deadline) work).2 := List.getElem?_concat_length
    rcases @kept_proceed system connection (.fresh connections deadline) work hn hc hin with
      hkept | ⟨other, -, hother⟩
    · refine ⟨_, ht', ?_, hkept⟩
      cases hf : (system.proceed (.fresh connections deadline) work).2.stage.isFinished with
      | true => rfl
      | false => cases hidle.symm.trans (not_isIdle ht' (by rw [Task.claims_eq hf]; exact hkept))
    · have ht : (system.spawn connections deadline work).1.tasks[other]? =
          some (.cleanup connection) := by
        have hlt := (List.getElem?_eq_some_iff.mp hother).1
        exact (List.getElem?_append_left hlt).trans hother
      cases hidle.symm.trans (not_isIdle ht List.mem_cons_self)
  · exact .inl ⟨hc, (Spares.proceed work hc).inUse.mp hin⟩

/-- What is idle after an event that does not touch it was idle before. -/
theorem isIdle_of_spares (hs : system.step event = some after) (hc : connection ∉ system.touched event)
    (hspares : Spares connection system after) (hidle : after.isIdle connection = true) :
    system.isIdle connection = true := by
  have hin := hspares.inUse.mp (isIdle_iff.mp hidle).1
  by_contra hbusy
  obtain ⟨index, task, ht, hclaims⟩ := exists_claims hin (by simpa using hbusy)
  have hf : task.stage.isFinished = false := by
    unfold Task.claims at hclaims
    split at hclaims
    · cases hclaims
    · rename_i hf
      simpa using hf
  have hm : event.mover? ≠ some index := by
    intro hm
    obtain ⟨move, rfl, rfl⟩ := mover?_eq_some hm
    exact hc (by simpa [touched, ht] using hclaims)
  obtain ⟨task', ht', hstays⟩ := stays_of_step hs ht hm
  have hclaims' : connection ∈ task'.claims := by
    rw [Task.claims_eq (hstays.isFinished.trans hf), hstays.connections, ← Task.claims_eq hf]
    exact hclaims
  cases hidle.symm.trans (not_isIdle ht' hclaims')

section

variable (ho : Orderly [] [] system) (hs : system.step event = some after)
include ho hs

theorem idle_of_move {move : Move} (hevent : event = .move move)
    (hidle : after.isIdle connection = true) :
    (connection ∉ system.touched event ∧ connection < system.nextConnection) ∨
      ∃ task, after.tasks[move.index]? = some task ∧ task.stage.isFinished = true ∧
        connection ∈ task.connections := by
  subst hevent
  have hspared : ∀ {task : Task}, system.tasks[move.index]? = some task →
      task.stage.isFinished = false → connection ∉ task.connections →
      connection ∈ system.inUse →
      connection ∉ system.touched (.move move) ∧ connection < system.nextConnection := by
    intro task ht hf hc hin
    refine ⟨?_, ho.lt_next _ hin⟩
    simpa [touched, ht, Task.claims_eq hf] using hc
  cases System.moves (Twists.any system) hs with
  | connected hmove ht hw hf =>
    have hlt := (List.getElem?_eq_some_iff.mp ht).1
    refine (idle_of_carryOn (ho.connect hf).nodup hlt hidle).imp_left ?_
    rintro ⟨hc, hin⟩
    refine hspared ht hf (fun hmem => hc (List.mem_cons_of_mem _ hmem)) ?_
    refine (List.mem_cons.mp hin).resolve_left fun hsame => hc ?_
    rw [hsame]
    exact List.mem_cons_self
  | turnedAway error hmove ht hw hf =>
    have hlt := (List.getElem?_eq_some_iff.mp ht).1
    refine (idle_of_carryOn ho.nodup hlt hidle).imp_left ?_
    rintro ⟨hc, hin⟩
    exact hspared ht hf hc hin
  | gaveUp hmove ht hdeadline hb =>
    have hlt := (List.getElem?_eq_some_iff.mp ht).1
    have hf := Stage.isFinished_of_isBounded hb
    refine (idle_of_carryOn ho.nodup hlt hidle).imp_left ?_
    rintro ⟨hc, hin⟩
    exact hspared ht hf hc hin
  | leftBehind hmove ht hdeadline hstage =>
    have hlt := (List.getElem?_eq_some_iff.mp ht).1
    obtain ⟨hc, hin⟩ := idle_of_setTask hlt rfl hidle
    exact .inl (hspared ht (by rw [hstage]; rfl) hc hin)
  | @arrived arrival harrival ha =>
    have hf := Stage.isFinished_of_work ha.stage
    have hlt := (List.getElem?_eq_some_iff.mp ha.task).1
    have htasks : arrival.system.tasks = system.tasks := by rw [ha.meets.eq]
    have hinUse : arrival.system.inUse = system.inUse := by rw [ha.meets.eq]
    rw [← ha.index, ← htasks] at hlt
    revert hidle
    unfold settle
    split
    · intro hidle
      have hn : arrival.system.inUse.Nodup := hinUse ▸ ho.nodup
      have hcarried := fun hn hlt => idle_of_carryOn hn hlt hidle
      rw [← ha.index]
      refine (hcarried hn hlt).imp_left ?_
      rintro ⟨hc, hin⟩
      exact hspared ha.task hf hc (hinUse ▸ hin)
    · intro hidle
      obtain ⟨hc, hin⟩ := idle_of_setTask hlt rfl hidle
      exact .inl (hspared ha.task hf hc (hinUse ▸ hin))

/-- A connection is idle because it has been so, or because the task has ended that worked on it. -/
theorem idle_of_step (hidle : after.isIdle connection = true) :
    (connection ∉ system.touched event ∧ system.isIdle connection = true) ∨
      ∃ index task, after.tasks[index]? = some task ∧ system.Acts event index task ∧
        task.stage.isFinished = true ∧ connection ∈ task.connections := by
  have hstays : connection ∉ system.touched event ∧ connection < system.nextConnection →
      connection ∉ system.touched event ∧ system.isIdle connection = true :=
    fun ⟨hc, hlt⟩ => ⟨hc, isIdle_of_spares hs hc (spares_step hs hc hlt) hidle⟩
  cases event with
  | move move =>
    refine (idle_of_move ho hs rfl hidle).imp hstays ?_
    rintro ⟨task, ht, hf, hc⟩
    exact ⟨move.index, task, ht, rfl, hf, hc⟩
  | spawn connections deadline work =>
    obtain ⟨-, -, rfl⟩ := spawned_of_step hs
    rcases idle_of_spawn ho.nodup hidle with ⟨hc, hin⟩ | ⟨index, ht, hf, hc⟩
    · exact .inl (hstays ⟨hc, ho.lt_next _ hin⟩)
    · exact .inr ⟨index, _, ht, rfl, hf, hc⟩
  | release other =>
    obtain ⟨-, rfl⟩ := released_of_step hs
    have hin := (isIdle_iff.mp hidle).1
    rcases giveBack_cases system other with ⟨htasks, hinUse⟩ | ⟨-, hinUse⟩
    · rw [hinUse] at hin
      refine .inl (hstays ⟨fun hmem => ?_, ho.lt_next _ hin⟩)
      obtain rfl := List.mem_singleton.mp hmem
      have ht : (system.giveBack connection).tasks[system.tasks.length]? =
          some (.cleanup connection) := by
        rw [htasks]
        exact List.getElem?_concat_length
      cases hidle.symm.trans (not_isIdle ht List.mem_cons_self)
    · rw [hinUse] at hin
      refine .inl (hstays ⟨fun hmem => ?_, ho.lt_next _ (List.mem_of_mem_erase hin)⟩)
      obtain rfl := List.mem_singleton.mp hmem
      exact ho.nodup.not_mem_erase hin
  | elapse | tick | arm | unstall | closePool =>
    have hin := (isIdle_iff.mp hidle).1
    cases hs
    exact .inl (hstays ⟨List.not_mem_nil, ho.lt_next _ hin⟩)

end

end Passbook.System
