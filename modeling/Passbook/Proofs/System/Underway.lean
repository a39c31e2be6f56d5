import Passbook.Proofs.System.Frames

/-! # Statements under way

A statement is sent on a living connection, and the connection lives until its answer comes
(`Run.underway`). What is still under way on a connection therefore never runs on a dead one. Its
answer is twisted in no other ways than those of the faults that were armed (`Run.twists`). -/

namespace Passbook

namespace System

variable {Allowed : Twist → Prop} {system after : System} {event : Event} {connection index : Nat}

theorem isSent_proceed (system : System) (task : Task) (work : Work Reply) :
    (system.proceed task work).2.stage.isSent = false := by
  induction work generalizing system task with
  | done | connect | exec => rfl
  | giveBack rest ih => unfold proceed; split <;> exact ih ..
  | draw next ih => exact ih ..
  | report reply rest ih => exact ih ..

/-- Statements are under way on living connections only. -/
def Underway (system : System) : Prop :=
  ∀ (index : Nat) (task : Task) (connection : Nat), system.tasks[index]? = some task →
    task.stage.isSent = true → task.connections.head? = some connection →
    (system.db.session connection).alive = true

theorem underway_start (db : Database) (capacity : Nat) : Underway (.start db capacity) :=
  fun _ _ _ ht => by cases ht

theorem not_isSent_carryOn {old task : Task} {work : Work Reply}
    (ht : (system.carryOn index old work).tasks[index]? = some task)
    (hlt : index < system.tasks.length) : task.stage.isSent = false := by
  rw [getElem?_carryOn_self hlt] at ht
  rw [← Option.some.inj ht]
  exact isSent_proceed system old work

namespace Underway

theorem moves (h : system.Underway) {move : Move} (hm : Moves Allowed system move after)
    {task : Task} (ht : after.tasks[move.index]? = some task) (hsent : task.stage.isSent = true)
    (hc : task.connections.head? = some connection) :
    (after.db.session connection).alive = true := by
  have hno : task.stage.isSent ≠ false := by simp [hsent]
  cases hm with
  | connected _ hold =>
    exact absurd (not_isSent_carryOn ht (List.getElem?_eq_some_iff.mp hold).1) hno
  | turnedAway _ _ hold =>
    exact absurd (not_isSent_carryOn ht (List.getElem?_eq_some_iff.mp hold).1) hno
  | gaveUp _ hold =>
    exact absurd (not_isSent_carryOn ht (List.getElem?_eq_some_iff.mp hold).1) hno
  | leftBehind _ hold _ hs _ =>
    simp only [setTask] at ht
    rw [List.getElem?_set_self (List.getElem?_eq_some_iff.mp hold).1] at ht
    rw [← Option.some.inj ht] at hc
    exact h _ _ connection hold (by rw [hs]; rfl) hc
  | @arrived arrival _ ha =>
    have hlt := (List.getElem?_eq_some_iff.mp ha.task).1
    have hindex := ha.index
    have htasks : arrival.system.tasks = system.tasks := by rw [ha.meets.eq]
    rw [← htasks, ← hindex] at hlt
    rw [← hindex] at ht
    have hdead := ha.dead
    have hdb := ha.meets.db
    have hfate := ha.fate
    have halive := h _ _ arrival.sending.connection ha.task
    obtain ⟨⟨index, old, own, statement, next⟩, met, fate⟩ := arrival
    cases fate with
    | answered =>
      dsimp only [settle] at ht
      exact absurd (not_isSent_carryOn ht hlt) hno
    | held db twist hold =>
      have howner := ha.connection
      dsimp only [settle, setTask] at ht hlt hindex hdead hdb hfate halive howner ⊢
      rw [List.getElem?_set_self hlt] at ht
      rw [← Option.some.inj ht] at hc
      obtain rfl : own = connection := Option.some.inj (howner.symm.trans hc)
      have hown : (system.db.session own).alive = true := by
        cases hs : old.stage.isSent with
        | true => exact halive hs howner
        | false =>
          by_contra hnot
          cases hdead hs (by simpa using hnot)
      cases hfate with | held _ hwaits
      rw [hwaits.alive]
      rcases hdb with hdb | ⟨-, -, hdb⟩ <;> rw [hdb]
      · exact hown
      · simpa using hown

theorem step (h : system.Underway) (ho : Orderly [] [] system)
    (hs : system.step event = some after) : after.Underway := by
  intro index task connection ht hsent hc
  cases hold : system.tasks[index]? with
  | none =>
    rcases new_of_step hs ht hold with ⟨_, rfl⟩ | ⟨_, _, _, -, rfl⟩
    · cases hsent
    · rw [isSent_proceed] at hsent
      cases hsent
  | some old =>
    by_cases hm : event.mover? = some index
    · cases event with
      | move move =>
        cases hm
        exact h.moves (System.moves (Twists.any system) hs) ht hsent hc
      | _ => cases hm
    · have hsame : task.stage.isSent = old.stage.isSent ∧ task.connections = old.connections := by
        rcases getElem?_step hs hold hm with ht' | ⟨-, ht'⟩ <;>
          obtain rfl := Option.some.inj (ht'.symm.trans ht)
        · exact ⟨rfl, rfl⟩
        · exact ⟨Stage.isSent_unstall _ _, rfl⟩
      rw [hsame.1] at hsent
      rw [hsame.2] at hc
      have hclaims : connection ∈ old.claims := by
        rw [Task.claims_eq (Stage.isFinished_of_isSent hsent)]
        exact List.mem_of_head? hc
      rw [(spares_of_claims ho hs hold hclaims hm).untouched.session]
      exact h index old connection hold hsent hc

end Underway

/-! ## Twists -/

/-- A move arms no faults. -/
theorem Moves.faults {move : Move} (h : Moves Allowed system move after) :
    (∃ name, after.faults.Sublist (system.faults.map (ArmedFault.count name))) ∨
      after.faults = system.faults := by
  cases h with
  | connected => exact .inr (faults_proceed ..)
  | turnedAway => exact .inr (faults_proceed ..)
  | gaveUp => exact .inr (faults_proceed ..)
  | leftBehind => exact .inr rfl
  | @arrived arrival _ ha =>
    have hafter : (arrival.system.settle arrival.sending arrival.fate).faults =
        arrival.system.faults := by
      unfold settle
      split
      · exact faults_proceed ..
      · rfl
    rw [hafter]
    exact ha.meets.faults.imp_left fun hsub => ⟨_, hsub⟩

theorem twists_start (Allowed : Twist → Prop) (h : Allowed .none) (db : Database)
    (capacity : Nat) : Twists Allowed (.start db capacity) where
  none := h
  armed _ hmem := by cases hmem
  stage _ hmem := by cases hmem

namespace Twists

variable {move : Move} {task : Task}

theorem of_not_isSent (h : system.Twists Allowed) {stage : Stage} (hs : stage.isSent = false) :
    Allowed stage.twist := by
  cases stage with
  | sent => cases hs
  | queued | ready | finished => exact h.none

theorem armed_moves (h : system.Twists Allowed) (hm : Moves Allowed system move after) :
    ∀ armed ∈ after.faults, Allowed armed.fault.twist := by
  rcases hm.faults with ⟨name, hsub⟩ | heq
  · intro armed hmem
    obtain ⟨original, ho, rfl⟩ := List.mem_map.mp (hsub.subset hmem)
    have hcount : (original.count name).fault = original.fault := by
      unfold ArmedFault.count
      split <;> rfl
    rw [hcount]
    exact h.armed original ho
  · rw [heq]
    exact h.armed

theorem twist_moves (h : system.Twists Allowed) (hm : Moves Allowed system move after)
    (ht : after.tasks[move.index]? = some task) : Allowed task.stage.twist := by
  cases hm with
  | connected _ hold =>
    exact h.of_not_isSent (not_isSent_carryOn ht (List.getElem?_eq_some_iff.mp hold).1)
  | turnedAway _ _ hold =>
    exact h.of_not_isSent (not_isSent_carryOn ht (List.getElem?_eq_some_iff.mp hold).1)
  | gaveUp _ hold =>
    exact h.of_not_isSent (not_isSent_carryOn ht (List.getElem?_eq_some_iff.mp hold).1)
  | @leftBehind old _ _ _ _ _ _ hold _ hs _ =>
    simp only [setTask] at ht
    rw [List.getElem?_set_self (List.getElem?_eq_some_iff.mp hold).1] at ht
    rw [← Option.some.inj ht]
    have hstage := h.stage old (List.mem_of_getElem? hold)
    rwa [hs] at hstage
  | @arrived arrival _ ha =>
    have hlt := (List.getElem?_eq_some_iff.mp ha.task).1
    have hindex := ha.index
    have htasks : arrival.system.tasks = system.tasks := by rw [ha.meets.eq]
    rw [← htasks, ← hindex] at hlt
    rw [← hindex] at ht
    have hfate := ha.fate
    obtain ⟨⟨index, old, own, statement, next⟩, met, fate⟩ := arrival
    cases fate with
    | answered =>
      dsimp only [settle] at ht
      exact h.of_not_isSent (not_isSent_carryOn ht hlt)
    | held db twist hold =>
      dsimp only [settle, setTask] at ht hlt
      rw [List.getElem?_set_self hlt] at ht
      rw [← Option.some.inj ht]
      cases hfate with | held hallowed => exact hallowed

theorem stage_step (h : system.Twists Allowed) (hs : system.step event = some after)
    (ht : after.tasks[index]? = some task) : Allowed task.stage.twist := by
  cases hold : system.tasks[index]? with
  | none =>
    refine h.of_not_isSent ?_
    rcases new_of_step hs ht hold with ⟨_, rfl⟩ | ⟨_, _, _, -, rfl⟩
    · rfl
    · exact isSent_proceed ..
  | some old =>
    by_cases hm : event.mover? = some index
    · cases event with
      | move move =>
        cases hm
        exact h.twist_moves (System.moves h hs) ht
      | _ => cases hm
    · have hallowed := h.stage old (List.mem_of_getElem? hold)
      rcases getElem?_step hs hold hm with ht' | ⟨-, ht'⟩ <;>
        obtain rfl := Option.some.inj (ht'.symm.trans ht)
      · exact hallowed
      · rwa [Stage.twist_unstall]

/-- Twists are brought in by faults, and in no other way. -/
theorem step (h : system.Twists Allowed) (hs : system.step event = some after)
    (harm : ∀ armed, event = .arm armed → Allowed armed.fault.twist) : after.Twists Allowed where
  none := h.none
  stage task ht := by
    obtain ⟨index, hindex⟩ := List.mem_iff_getElem?.mp ht
    exact h.stage_step hs hindex
  armed := by
    cases event with
    | move move => exact h.armed_moves (System.moves h hs)
    | spawn connections deadline work =>
      obtain ⟨-, -, rfl⟩ := spawned_of_step hs
      simp only [spawn, faults_proceed]
      exact h.armed
    | release connection =>
      obtain ⟨-, rfl⟩ := released_of_step hs
      obtain ⟨db, tasks, inUse, heq⟩ := giveBack_eq system connection
      rw [heq]
      exact h.armed
    | arm fault =>
      cases hs
      intro armed hmem
      rcases List.mem_append.mp hmem with hmem | hmem
      · exact h.armed armed hmem
      · rw [List.mem_singleton.mp hmem]
        exact harm fault rfl
    | elapse | tick | unstall | closePool => cases hs; exact h.armed

end Twists

end System

theorem Run.twists {start system : System} {past : Past} (h : Run start past system)
    {Allowed : Twist → Prop} (hT : start.Twists Allowed)
    (harm : ∀ before armed, (before, Event.arm armed) ∈ past → Allowed armed.fault.twist) :
    system.Twists Allowed := by
  induction h with
  | refl => exact hT
  | step _ hs ih =>
    refine (ih fun before armed hmem => harm before armed (List.mem_append_left _ hmem)).step hs ?_
    rintro armed rfl
    exact harm _ armed (List.mem_append_right _ List.mem_cons_self)

theorem Run.underway {start system : System} {past : Past} (h : Run start past system)
    (ho : System.Orderly [] [] start) (hu : start.Underway) : system.Underway := by
  induction h with
  | refl => exact hu
  | step hrun hs ih => exact ih.step (hrun.orderly ho) hs

end Passbook
