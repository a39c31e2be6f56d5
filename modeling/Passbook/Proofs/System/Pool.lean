import Passbook.Proofs.System.Frames

/-! # What does not depend on the pool

Systems that differ in nothing but the size of their pools, and in whether these are closed, go on to do
the same (`step_withPool`), except by the events by which a task gets a connection or is turned away
(`Event.isPools`). Without such events there is to each run the same one with another pool
(`Run.withPool`). -/

namespace Passbook

/-- Whether the pool has part in the event: a task gets a connection from it or is turned away. -/
def Event.isPools : Event → Bool
  | .move (.connect _) | .move (.turnAway _) => true
  | _ => false

namespace System

/-- The system with a pool of another size, which may be closed or open. -/
def withPool (system : System) (capacity : Nat) (closed : Bool) : System :=
  { system with capacity, closed }

section

variable (system : System) (capacity : Nat) (closed : Bool)

theorem giveBack_withPool (connection : Nat) :
    (system.withPool capacity closed).giveBack connection =
      (system.giveBack connection).withPool capacity closed := by
  unfold giveBack withPool
  dsimp only
  split <;> rfl

theorem proceed_withPool (task : Task) (work : Work Reply) :
    (system.withPool capacity closed).proceed task work =
      ((system.proceed task work).1.withPool capacity closed, (system.proceed task work).2) := by
  induction work generalizing system task with
  | done | connect | exec => rfl
  | giveBack rest ih =>
    unfold proceed
    split
    · exact ih system task
    · rw [giveBack_withPool]
      exact ih _ _
  | draw next ih => exact ih _ { system with db.serial := system.db.serial + 1 } task
  | report reply rest ih => exact ih system _

theorem carryOn_withPool (index : Nat) (task : Task) (work : Work Reply) :
    (system.withPool capacity closed).carryOn index task work =
      (system.carryOn index task work).withPool capacity closed := by
  unfold carryOn
  rw [proceed_withPool]
  rfl

theorem send_withPool (connection : Nat) (statement : Statement) :
    (system.withPool capacity closed).send connection statement =
      ((system.send connection statement).1.withPool capacity closed,
        (system.send connection statement).2) := by
  unfold send withPool
  dsimp only
  split
  · rfl
  split <;> rfl

theorem settle_withPool (sending : Sending) (fate : Fate sending.statement) :
    (system.withPool capacity closed).settle sending fate =
      (system.settle sending fate).withPool capacity closed := by
  cases fate with
  | held => rfl
  | answered db ran answer => exact carryOn_withPool { system with db := _ } capacity closed _ _ _

/-- The arrival with another pool. -/
def Arrival.withPool (arrival : Arrival) (capacity : Nat) (closed : Bool) : Arrival :=
  { arrival with system := arrival.system.withPool capacity closed }

theorem arrival?_withPool {move : Move} {arrival : Arrival} (h : system.arrival? move = some arrival) :
    (system.withPool capacity closed).arrival? move = some (arrival.withPool capacity closed) := by
  rw [arrival?_eq_some_iff]
  cases due_of_arrival h with
  | @sent index connection _ statement _ ht hs hc =>
    have hdue : (system.withPool capacity closed).Due (.send index) _ := .sent ht hs hc
    rw [send_withPool system capacity closed connection statement] at hdue
    exact hdue
  | @woken _ connection _ statement _ _ hold ht hs hc hwake =>
    refine .woken ht hs hc ?_
    cases hold <;> exact hwake
  | @expired _ connection _ _ _ _ _ hold ht hs hc hlimit hle =>
    refine .expired ht hs hc ?_ hle
    cases hold <;> exact hlimit

end

variable {system after : System} {event : Event} {capacity : Nat} {closed : Bool}

theorem told?_withPool (hs : system.step event = some after) :
    (system.withPool capacity closed).told? event = system.told? event := by
  cases event with
  | move move =>
    cases h : system.arrival? move with
    | some arrival =>
      rw [told?, told?, h, arrival?_withPool system capacity closed h]
      obtain ⟨sending, met, fate⟩ := arrival
      cases fate <;> rfl
    | none =>
      cases move with
      | connect | turnAway | abandon => rfl
      | send | wake | expire => simp [step, System.move, h] at hs
  | _ => rfl

theorem move_withPool {move : Move} (hpool : (Event.move move).isPools = false)
    (hs : system.move move = some after) :
    (system.withPool capacity closed).move move = some (after.withPool capacity closed) := by
  cases move with
  | connect | turnAway => cases hpool
  | abandon index =>
    simp only [move, Option.bind_eq_bind, Option.bind_eq_some_iff, Option.pure_def,
      Option.guard_eq_some'] at hs
    obtain ⟨task, ht, deadline, hd, _, hdue, hs⟩ := hs
    have ht' : (system.withPool capacity closed).tasks[index]? = some task := ht
    have hdue' : (task.stage.isBounded && deadline.due ≤ (system.withPool capacity closed).now) =
        true := hdue
    simp only [move, Option.bind_eq_bind, ht', Option.bind_some, hd, Option.pure_def, hdue']
    cases hstage : task.stage with
    | sent =>
      rw [hstage] at hs
      cases hs
      rfl
    | queued | ready | finished =>
      rw [hstage] at hs
      cases hs
      exact congrArg some (carryOn_withPool ..)
  | send | wake | expire =>
    obtain ⟨arrival, h, rfl⟩ := Option.map_eq_some_iff.mp hs
    exact Option.map_eq_some_iff.mpr
      ⟨_, arrival?_withPool system capacity closed h, settle_withPool ..⟩

/-- The same happens with another pool, which is closed afterwards if the event closes it. -/
theorem step_withPool (hpool : event.isPools = false) (hs : system.step event = some after)
    (capacity : Nat) (closed : Bool) : ∃ closed',
      (system.withPool capacity closed).step event = some (after.withPool capacity closed') := by
  cases event with
  | move move => exact ⟨closed, move_withPool hpool hs⟩
  | spawn connections deadline work =>
    obtain ⟨hnodup, hidle, rfl⟩ := spawned_of_step hs
    refine ⟨closed, (if_pos ⟨hnodup, List.all_eq_true.mpr hidle⟩).trans (congrArg some ?_)⟩
    unfold spawn
    rw [proceed_withPool]
    rfl
  | release connection =>
    obtain ⟨hidle, rfl⟩ := released_of_step hs
    exact ⟨closed, (if_pos hidle).trans (congrArg some (giveBack_withPool ..))⟩
  | elapse | tick | arm | unstall =>
    cases hs
    exact ⟨closed, rfl⟩
  | closePool =>
    cases hs
    exact ⟨true, rfl⟩

/-- A task that has something to ask has no part in the pool. -/
theorem isPools_of_exec {move : Move} {task : Task} {statement : Statement}
    {next : statement.Answer → Work Reply} (hs : system.step (.move move) = some after)
    (ht : system.tasks[move.index]? = some task) (hw : task.stage.work = .exec statement next) :
    (Event.move move).isPools = false := by
  have htask : ∀ {other}, system.tasks[move.index]? = some other → task = other :=
    fun ho => Option.some.inj (ht.symm.trans ho)
  cases System.moves (Twists.any system) hs with
  | connected _ ho hw' | turnedAway _ _ ho hw' =>
    rw [htask ho] at hw
    cases hw.symm.trans hw'
  | gaveUp hmove | leftBehind hmove =>
    rw [hmove]
    rfl
  | arrived harrival _ =>
    cases move with
    | connect | turnAway => cases harrival
    | _ => rfl

end System

/-- To a run in which the pool has no part there is the same run with any other pool: the same events
happen, with the same answers, and in the end there is no difference but in the pool. -/
theorem Run.withPool {system after : System} {past : Past} (h : Run system past after)
    (hpool : ∀ before event, (before, event) ∈ past → event.isPools = false) (capacity : Nat)
    (closed : Bool) : ∃ past' closed',
      Run (system.withPool capacity closed) past' (after.withPool capacity closed') ∧
        past'.map (·.2) = past.map (·.2) ∧ past'.answers = past.answers := by
  induction h with
  | refl => exact ⟨[], closed, .refl, rfl, rfl⟩
  | @step past before after event _ hs ih =>
    obtain ⟨past', closed', hrun, hevents, hanswers⟩ :=
      ih fun before event hmem => hpool before event (List.mem_append_left _ hmem)
    have hlast := hpool before event (List.mem_append_right _ List.mem_cons_self)
    obtain ⟨closed'', hs'⟩ := System.step_withPool hlast hs capacity closed'
    refine ⟨_, closed'', hrun.step hs', ?_, ?_⟩
    · rw [List.map_append, List.map_append, hevents]
      rfl
    · have htold : (before.withPool capacity closed').told? event = before.told? event :=
        System.told?_withPool hs
      simp only [Past.answers] at hanswers ⊢
      rw [List.filterMap_append, List.filterMap_append, hanswers, List.filterMap_cons,
        List.filterMap_cons, htold]

end Passbook
