import Passbook.Proofs.Locality.Lockstep

/-! # Transfers that nobody disturbs

Two tasks that are abreast and find the same, and nothing else happens in either system: then each has
one way to go on only, and it is the same for both (`Level.joint`). So if both come to their ends they
have fared alike (`Level.fared`), and if the one does the other one can (`Level.completes`). -/

namespace Passbook

/-- The one move by which a task goes on while nobody else does anything: a lock that it waits for is
never free again then. -/
def Stage.onward (index : Nat) : Stage → Move
  | queued .. => .connect index
  | ready .. => .send index
  | sent .. => .expire index
  | finished => .send index

namespace System

open Database

variable {Mine : Int → Prop} {system system' after after' : System} {index index' : Nat}
  {task task' : Task} {event : Event} {own own' : Past}

/-! ## One task -/

theorem own_cases (he : event.isOwn index = true) (hs : system.step event = some after) :
    (∃ now clock, after = { system with now, db.clock := clock }) ∨ event.mover? = some index := by
  cases event with
  | elapse | tick => cases hs; exact .inl ⟨_, _, rfl⟩
  | move move =>
    right
    cases move with
    | connect | send | wake | expire => exact congrArg some (beq_iff_eq.mp he)
    | turnAway | abandon => cases he
  | spawn | release | arm | unstall | closePool => cases he

/-- The task has come to its end. -/
def Finished (index : Nat) (system : System) : Prop :=
  ∃ task, system.tasks[index]? = some task ∧ task.stage.isFinished = true

/-- Nothing is left to be done but to let time pass. -/
theorem Finished.run (h : Finished index system) (hrun : Run system own after)
    (hown : ∀ before event, (before, event) ∈ own → event.isOwn index = true) :
    ∃ now clock, after = { system with now, db.clock := clock } := by
  induction hrun with
  | refl => exact ⟨system.now, system.db.clock, rfl⟩
  | @step past before after event _ hs ih =>
    obtain ⟨now, clock, rfl⟩ := ih fun before event hmem =>
      hown before event (List.mem_append_left _ hmem)
    have he := hown _ _ (List.mem_append_right _ List.mem_cons_self)
    obtain ⟨task, ht, hf⟩ := h
    rcases own_cases he hs with ⟨now, clock, rfl⟩ | hm
    · exact ⟨now, clock, rfl⟩
    · refine absurd hm (not_mover_of_finished hs ?_ hf)
      exact ht

/-- A task whose lock is not free can only go on in one way by its own moves. -/
theorem onward_of_own (ht : system.tasks[index]? = some task)
    (hlocked : ∀ statement next twist hold, task.stage = .sent statement next twist hold →
      ∃ since, hold = .locked since)
    (hstuck : task.stage.isSent = true → (system.wanted? index).isSome = true)
    (he : event.isOwn index = true) (hm : event.mover? = some index)
    (hs : system.step event = some after) :
    event = .move (task.stage.onward index) := by
  obtain ⟨move, rfl, rfl⟩ := mover?_eq_some hm
  have hsuits := suits_of_step ht hs
  generalize hstage : task.stage = stage at hsuits
  cases stage with
  | finished => cases move <;> cases hsuits
  | queued | ready =>
    cases move with
    | connect | send => first | rfl | cases hsuits
    | turnAway | abandon => cases he
    | wake | expire => cases hsuits
  | sent statement next twist hold =>
    cases move with
    | expire => rfl
    | abandon => cases he
    | connect | turnAway | send => cases hsuits
    | wake =>
      obtain ⟨since, rfl⟩ := hlocked _ _ _ _ hstage
      obtain ⟨connection, hc, hfree⟩ := free_of_step_wake ht hstage hs
      have hbusy := hstuck (by rw [hstage]; rfl)
      rw [wanted?_of_work ht hc (by rw [hstage]; rfl), hstage] at hbusy
      simp [Stage.isSent, hfree] at hbusy

/-! ## The pool -/

theorem closed_proceed (system : System) (task : Task) (work : Work Reply) :
    (system.proceed task work).1.closed = system.closed := by
  obtain ⟨db, tasks, inUse, heq⟩ := proceed_eq system task work
  rw [heq]

theorem closed_move {move : Move} (hs : system.step (.move move) = some after) :
    after.closed = system.closed := by
  cases moves (Twists.any system) hs with
  | connected | turnedAway | gaveUp => exact closed_proceed ..
  | leftBehind => rfl
  | @arrived arrival _ ha =>
    have hsame : arrival.system.closed = system.closed := by rw [ha.meets.eq]
    unfold settle
    split
    · exact (closed_proceed ..).trans hsame
    · exact hsame

theorem faultless_move {move : Move} (hs : system.step (.move move) = some after)
    (hf : system.faults = []) : after.faults = [] := by
  rcases (moves (Twists.any system) hs).faults with ⟨name, hsub⟩ | hsame
  · rw [hf] at hsub
    exact List.eq_nil_of_sublist_nil hsub
  · rw [hsame, hf]

/-- What nobody but the task does leaves the pool open or closed and arms no faults. -/
theorem Run.calm (hrun : Run system own after)
    (hown : ∀ before event, (before, event) ∈ own → event.isOwn index = true)
    (hf : system.faults = []) : after.faults = [] ∧ after.closed = system.closed := by
  induction hrun with
  | refl => exact ⟨hf, rfl⟩
  | @step past before after event _ hs ih =>
    obtain ⟨hfaults, hclosed⟩ := ih fun before event hmem =>
      hown before event (List.mem_append_left _ hmem)
    have he := hown _ _ (List.mem_append_right _ List.mem_cons_self)
    rcases own_cases he hs with ⟨now, clock, rfl⟩ | hm
    · exact ⟨hfaults, hclosed⟩
    · obtain ⟨move, rfl, -⟩ := mover?_eq_some hm
      exact ⟨faultless_move hs hfaults, (closed_move hs).trans hclosed⟩

/-! ## Locks -/

/-- Nobody has locked anything on the connection that is taken next. -/
theorem not_holds_next (ho : Orderly [] [] system) (id : Int) :
    ¬ system.db.Holds system.nextConnection id := by
  intro hheld
  have hopen := ho.locks.isSome id _ hheld
  rw [transaction?, ho.fresh _ fun hin => Nat.lt_irrefl _ (ho.lt_next _ hin)] at hopen
  cases hopen

theorem rival?_inHand (ho : Orderly [] [] system) {move : Move}
    (hnone : ∀ own, move = .connect own → system.hands index = []) (id : Int) :
    system.db.rival? (system.inHand index move) id = system.db.rival? (system.hands index) id := by
  cases move with
  | connect own =>
    rw [hnone own rfl]
    refine Option.ext fun holder => ?_
    rw [rival?_iff ho.locks, rival?_iff ho.locks]
    refine and_congr_right fun hheld => iff_of_true ?_ List.not_mem_nil
    rintro hin
    rw [List.mem_singleton.mp hin] at hheld
    exact not_holds_next ho id hheld
  | _ => rfl

/-- A task that minds the given accounts leaves the locks on all others as they are. -/
theorem Minds.elsewhere {hands : List Nat} (h : Minds Mine index hands system after)
    (hmine : ∀ connection ∈ hands, ∀ id, system.db.Holds connection id → Mine id) {id : Int}
    (hid : ¬ Mine id) (holder : Nat) : after.db.Holds holder id ↔ system.db.Holds holder id := by
  by_cases hin : holder ∈ hands
  · exact iff_of_false (fun hheld => hid (h.mine holder hin id hheld)) fun hheld =>
      hid (hmine holder hin id hheld)
  · exact (h.others holder hin).holds

/-! ## Two tasks -/

theorem Orderly.later (h : Orderly [] [] system) (now : Nat) (clock : Instant) :
    Orderly [] [] { system with now, db.clock := clock } :=
  ⟨h.claimed_le, h.nodup, h.lt_next, h.fresh, ⟨h.locks.nodup, h.locks.isSome⟩⟩

/-- Two tasks are abreast and find the same, and if they wait for a lock it is not free. -/
structure Level (Mine : Int → Prop) (index index' : Nat) (system system' : System) : Prop where
  orderly : Orderly [] [] system
  orderly' : Orderly [] [] system'
  underway : system.Underway
  abreast : Abreast Mine index index' system system'
  agreed : Agreed Mine index index' system system'
  stuck : ∀ task, system.tasks[index]? = some task → task.stage.isSent = true →
    (system.wanted? index).isSome = true

namespace Level

theorem later (h : Level Mine index index' system system') (now now' : Nat) (clock clock' : Instant) :
    Level Mine index index' { system with now, db.clock := clock }
      { system' with now := now', db.clock := clock' } where
  orderly := h.orderly.later now clock
  orderly' := h.orderly'.later now' clock'
  underway := h.underway
  abreast := h.abreast.of_untouched
    (fun _ ht _ => ⟨ht, fun _ _ => .of_eq rfl rfl rfl⟩) fun _ ht _ => ⟨ht, fun _ _ => .of_eq rfl rfl rfl⟩
  agreed := ⟨h.agreed.faults, h.agreed.faults', h.agreed.closed,
    ⟨h.agreed.concurs.rows, h.agreed.concurs.rivals⟩⟩
  stuck := h.stuck

end Level

theorem reindex_onward (stage : Stage) : (stage.onward index).reindex index' = stage.onward index' := by
  cases stage <;> rfl

theorem onward_ne_abandon (stage : Stage) (own : Nat) : stage.onward index ≠ .abandon own := by
  cases stage <;> simp [Stage.onward]

theorem Stages.isFinished {connected : Bool} {stage stage' : Stage}
    (h : Stages Mine connected stage stage') : stage'.isFinished = stage.isFinished := by
  cases h <;> rfl

theorem Stages.isSent {connected : Bool} {stage stage' : Stage}
    (h : Stages Mine connected stage stage') : stage'.isSent = stage.isSent := by
  cases h <;> rfl

/-- A statement that is under way waits for a lock. -/
theorem Stages.locked {connected : Bool} {stage stage' : Stage}
    (h : Stages Mine connected stage stage') :
    (∀ statement next twist hold, stage = .sent statement next twist hold →
        ∃ since, hold = .locked since) ∧
      ∀ statement next twist hold, stage' = .sent statement next twist hold →
        ∃ since, hold = .locked since := by
  cases h with
  | queued | ready | sent | finished =>
    refine ⟨fun _ _ _ _ hstage => ?_, fun _ _ _ _ hstage => ?_⟩
    all_goals cases hstage
    all_goals exact ⟨_, rfl⟩

theorem Stages.onward {connected : Bool} {stage stage' : Stage}
    (h : Stages Mine connected stage stage') : stage'.onward index = stage.onward index := by
  cases h <;> rfl

theorem isOwn_onward (stage : Stage) : Event.isOwn index (.move (stage.onward index)) = true := by
  cases stage <;> exact beq_self_eq_true index

/-- A task that is on its way has a connection in hand when it has gone on. -/
theorem inHand_ne_nil (h : Task.Abreast Mine system.db system'.db task task')
    (ht : system.tasks[index]? = some task) (ht' : system'.tasks[index']? = some task')
    (hf : task.stage.isFinished = false) : system'.inHand index' (task.stage.onward index) ≠ [] := by
  have hhands' := (hands_eq h ht ht').2
  obtain ⟨connected, hhands, hstages⟩ := h.stands
  generalize task.stage = stage at hstages hf
  generalize task'.stage = stage' at hstages
  cases hstages with
  | queued => exact List.cons_ne_nil _ _
  | ready | sent =>
    obtain ⟨_, _, -, hown', -⟩ := hhands.of_true
    simp [Stage.onward, inHand, hhands', hown']
  | finished => cases hf

theorem hands_ne_nil {hands' : List Nat} (h : Abreast Mine index index' after after')
    (hminds' : Minds Mine index' hands' system' after') (hf : ¬ Finished index' after')
    (hne : hands' ≠ []) : after'.hands index' ≠ [] := by
  obtain ⟨moved, moved', hmoved, hmoved', h⟩ := h
  rw [(hands_eq h hmoved hmoved').2, hminds'.keeps moved' hmoved' ?_]
  · exact hne
  · by_contra hfinished
    exact hf ⟨moved', hmoved', by simpa using hfinished⟩

/-- A lock that the task has just come to wait for is not free. -/
theorem stuck_onward (h : Task.Abreast Mine system.db system'.db task task') (hf : system.faults = [])
    (ht : system.tasks[index]? = some task)
    (hs : system.step (.move (task.stage.onward index)) = some after) {moved : Task}
    (hmoved : after.tasks[index]? = some moved) (hsent : moved.stage.isSent = true) :
    (after.wanted? index).isSome = true := by
  have hi := (List.getElem?_eq_some_iff.mp ht).1
  obtain ⟨connected, hhands, hstages⟩ := h.stands
  generalize hstage : task.stage = stage at hstages hs
  generalize task'.stage = stage' at hstages
  cases hstages with
  | queued =>
    obtain rfl := of_step_connect ht hstage hs
    cases (not_isSent_carryOn hmoved (by exact hi)).symm.trans hsent
  | @ready statement _ next =>
    obtain ⟨connection, _, hown, -⟩ := hhands.of_true
    have hhead : task.connections.head? = some connection := by rw [hown]; rfl
    cases (step_send_eq hf ht hstage hhead).symm.trans hs
    unfold hear at hmoved ⊢
    cases hheed : system.db.heed connection statement with
    | some answered =>
      rw [hheed] at hmoved
      cases (not_isSent_carryOn hmoved (by exact hi)).symm.trans hsent
    | none =>
      obtain ⟨-, -, -, hr⟩ := blocked_of_heed hheed
      have hplace := @List.getElem?_set_self _ system.tasks index
        { task with stage := .sent statement next .none (.locked system.now) } hi
      dsimp only
      rw [wanted?_of_work (by exact hplace) (by exact hhead) rfl]
      exact (congrArg Option.isSome (obstacle?_wait ..)).trans (run_blocked hr).2
  | @sent statement _ _ _ _ _ hq =>
    obtain ⟨connection, _, hown, -⟩ := hhands.of_true
    have hend := Statement.isEnd_of_isQuery hq
    obtain rfl := of_step_expire ht hstage (by rw [hown]; rfl) hend hs
    cases (not_isSent_carryOn hmoved (by exact hi)).symm.trans hsent
  | finished =>
    have hsuits := suits_of_step (by exact ht) hs
    rw [hstage] at hsuits
    cases hsuits

/-- Both go on in the one way that there is, and they are at the same point again or at their ends. -/
theorem Level.joint (h : Level Mine index index' system system') (ht : system.tasks[index]? = some task)
    (ht' : system'.tasks[index']? = some task')
    (hs : system.step (.move (task.stage.onward index)) = some after)
    (hs' : system'.step (.move (task'.stage.onward index')) = some after') :
    Joined Mine index index' (system.inHand index (task.stage.onward index))
        (system'.inHand index' (task.stage.onward index)) system system' after after' ∧
      (Finished index after ∧ Finished index' after' ∨ Level Mine index index' after after') := by
  have h₀ := h.abreast
  obtain ⟨own, own', hown, hown', habreast⟩ := h.abreast
  cases ht.symm.trans hown
  cases ht'.symm.trans hown'
  obtain ⟨connected, hhands, hstages⟩ := habreast.stands
  have hjoined := h₀.joined h.orderly h.orderly' h.underway h.agreed (task.stage.onward index)
    (fun other habandon => absurd habandon (onward_ne_abandon _ other))
    (by rwa [reindex_onward]) (by rwa [reindex_onward, ← hstages.onward])
  refine ⟨hjoined, ?_⟩
  obtain ⟨moved, moved', hmoved, hmoved', hagain⟩ := hjoined.abreast
  obtain ⟨_, _, hfinished⟩ := hagain.stands
  by_cases hf : moved.stage.isFinished = true
  · exact .inl ⟨⟨moved, hmoved, hf⟩, moved', hmoved', hfinished.isFinished.trans hf⟩
  have hunfinished : moved.stage.isFinished = false := by simpa using hf
  have hnone : ∀ own, task.stage.onward index = .connect own →
      system.hands index = [] ∧ system'.hands index' = [] := by
    intro own hconnect
    rw [(hands_eq habreast ht ht').1, (hands_eq habreast ht ht').2]
    generalize task.stage = stage at hstages hconnect
    generalize task'.stage = stage' at hstages
    cases hstages with
    | queued => exact hhands.of_false
    | ready | sent | finished => cases hconnect
  have horderly := h.orderly.step hs
  have horderly' := h.orderly'.step hs'
  refine .inr ⟨horderly, horderly', h.underway.step h.orderly hs, hjoined.abreast,
    ⟨faultless_move hs h.agreed.faults, faultless_move hs' h.agreed.faults', ?_, ?_, ?_⟩, ?_⟩
  · rw [closed_move hs, closed_move hs', h.agreed.closed]
  · exact fun id hid => hjoined.changes.rows (h.agreed.concurs.rows id hid)
  · intro id hid
    rw [(hands_eq hagain hmoved hmoved').1, (hands_eq hagain hmoved hmoved').2,
      hjoined.minds.keeps moved hmoved hunfinished,
      hjoined.minds'.keeps moved' hmoved' (hfinished.isFinished.trans hunfinished),
      rival?_of_untouched h.orderly.locks horderly.locks hjoined.minds.others,
      rival?_of_untouched h.orderly'.locks horderly'.locks hjoined.minds'.others,
      rival?_inHand h.orderly fun own hconnect => (hnone own hconnect).1,
      rival?_inHand h.orderly' fun own hconnect => (hnone own hconnect).2]
    exact h.agreed.concurs.rivals id hid
  · exact fun other hother hsent => stuck_onward habreast h.agreed.faults ht hs hother hsent

/-- What a task has in hand has locked none but rows of the given accounts. -/
theorem Abreast.mine (h : Abreast Mine index index' system system') (ho : Orderly [] [] system)
    {move : Move} : ∀ connection ∈ system.inHand index move, ∀ id,
      system.db.Holds connection id → Mine id := by
  obtain ⟨task, task', ht, ht', h⟩ := h
  obtain ⟨connected, hhands, -⟩ := h.stands
  have hmine := hhands.mine.1
  rw [← (hands_eq h ht ht').1] at hmine
  cases move with
  | connect own =>
    intro connection hin id hheld
    rw [List.mem_singleton.mp hin] at hheld
    exact absurd hheld (not_holds_next ho id)
  | _ => exact hmine

/-! ## Their ends -/

/-- The two callers have been told the same, the same has been made public, and the locks on the rows of
all other accounts are as they were. -/
structure Fared (Mine : Int → Prop) (index index' : Nat) (system system' after after' : System) :
    Prop where
  answered : (after.reply? index).isSome = true
  reply : (after.reply? index).map (·.core) = (after'.reply? index').map (·.core)
  changes : ChangeAlike Mine system.db system'.db after.db after'.db
  elsewhere : ∀ id, ¬ Mine id → ∀ holder, after.db.Holds holder id ↔ system.db.Holds holder id

theorem Fared.of_joined {hands hands' : List Nat} {last last' : System}
    (h : Joined Mine index index' hands hands' system system' after after')
    (hmine : ∀ connection ∈ hands, ∀ id, system.db.Holds connection id → Mine id)
    (hlast : Fared Mine index index' after after' last last') :
    Fared Mine index index' system system' last last' where
  answered := hlast.answered
  reply := hlast.reply
  changes := h.changes.trans hlast.changes
  elsewhere id hid holder := (hlast.elsewhere id hid holder).trans (h.minds.elsewhere hmine hid holder)

/-- Those who are at their ends have fared alike so far. -/
theorem Abreast.fared (h : Abreast Mine index index' system system') (hf : Finished index system)
    (now now' : Nat) (clock clock' : Instant) : Fared Mine index index' system system'
      { system with now, db.clock := clock } { system' with now := now', db.clock := clock' } where
  answered := by
    obtain ⟨task, task', ht, ht', h⟩ := h
    obtain ⟨own, hown, hfinished⟩ := hf
    cases ht.symm.trans hown
    simpa only [reply?, ht, Option.bind_some] using h.answered hfinished
  reply := by
    obtain ⟨task, task', ht, ht', h⟩ := h
    simp only [reply?, ht, ht', Option.bind_some]
    exact h.reply
  changes := .refl Mine rfl rfl
  elsewhere _ _ _ := Iff.rfl

theorem Abreast.finished_iff (h : Abreast Mine index index' system system') :
    Finished index system ↔ Finished index' system' := by
  obtain ⟨task, task', ht, ht', h⟩ := h
  obtain ⟨_, _, hstages⟩ := h.stands
  simp [Finished, ht, ht', hstages.isFinished]

namespace Level

/-- What the first task does next, if it moves. -/
theorem onward (h : Level Mine index index' system system') (ht : system.tasks[index]? = some task)
    (he : event.isOwn index = true) (hm : event.mover? = some index)
    (hs : system.step event = some after) : event = .move (task.stage.onward index) := by
  obtain ⟨own, own', hown, -, habreast⟩ := h.abreast
  cases ht.symm.trans hown
  obtain ⟨_, _, hstages⟩ := habreast.stands
  exact onward_of_own ht hstages.locked.1 (h.stuck task ht) he hm hs

/-- What the second task does next, if it moves. -/
theorem onward' (h : Level Mine index index' system system') (ht' : system'.tasks[index']? = some task')
    (he : event.isOwn index' = true) (hm : event.mover? = some index')
    (hs : system'.step event = some after') : event = .move (task'.stage.onward index') := by
  have hwaits := (h.abreast.concerted h.orderly h.orderly' h.underway h.agreed).waits
  obtain ⟨own, own', hown, hown', habreast⟩ := h.abreast
  cases ht'.symm.trans hown'
  obtain ⟨_, _, hstages⟩ := habreast.stands
  refine onward_of_own ht' hstages.locked.2 (fun hsent => ?_) he hm hs
  rw [← hwaits]
  exact h.stuck own hown (hstages.isSent.symm.trans hsent)

/-- Two tasks that come to their ends undisturbed have fared alike. -/
theorem fared (h : Level Mine index index' system system') (hrun : Run system own after)
    (hown : ∀ before event, (before, event) ∈ own → event.isOwn index = true)
    (hfinished : Finished index after) (hrun' : Run system' own' after')
    (hown' : ∀ before event, (before, event) ∈ own' → event.isOwn index' = true)
    (hfinished' : Finished index' after') : Fared Mine index index' system system' after after' := by
  induction hn : own.length + own'.length using Nat.strong_induction_on
    generalizing system system' own own' with
  | _ n ih =>
    obtain ⟨task, task', ht, ht', -⟩ := h.abreast
    rcases hrun.first with ⟨rfl, rfl⟩ | ⟨event, middle, rest, rfl, hs, hrest⟩
    · obtain ⟨now', clock', rfl⟩ := (h.abreast.finished_iff.mp hfinished).run hrun' hown'
      exact h.abreast.fared hfinished after.now now' after.db.clock clock'
    have he := hown _ _ List.mem_cons_self
    have hownrest := fun before event hmem => hown before event (List.mem_cons_of_mem _ hmem)
    rcases own_cases he hs with ⟨now, clock, rfl⟩ | hm
    · have hlater := h.later now system'.now clock system'.db.clock
      have hfared := ih _ (by simp [← hn]) hlater hrest hownrest hrun' hown' rfl
      exact ⟨hfared.answered, hfared.reply, hfared.changes, hfared.elsewhere⟩
    rcases hrun'.first with ⟨rfl, rfl⟩ | ⟨event', middle', rest', rfl, hs', hrest'⟩
    · obtain ⟨_, hplace, hf⟩ := h.abreast.finished_iff.mpr hfinished'
      exact absurd hm (not_mover_of_finished hs hplace hf)
    have he' := hown' _ _ List.mem_cons_self
    have hownrest' := fun before event hmem => hown' before event (List.mem_cons_of_mem _ hmem)
    rcases own_cases he' hs' with ⟨now', clock', rfl⟩ | hm'
    · have hlater := h.later system.now now' system.db.clock clock'
      have hfared := ih _ (by simp [← hn]) hlater hrun hown hrest' hownrest' rfl
      exact ⟨hfared.answered, hfared.reply, hfared.changes, hfared.elsewhere⟩
    -- The two make their only moves, and these are of the same kind.
    obtain rfl := h.onward ht he hm hs
    obtain rfl := h.onward' ht' he' hm' hs'
    obtain ⟨hjoined, hnext⟩ := h.joint ht ht' hs hs'
    refine .of_joined hjoined (h.abreast.mine h.orderly) ?_
    rcases hnext with ⟨hdone, hdone'⟩ | hlevel
    · obtain ⟨now, clock, rfl⟩ := hdone.run hrest hownrest
      obtain ⟨now', clock', rfl⟩ := hdone'.run hrest' hownrest'
      exact hjoined.abreast.fared hdone now now' clock clock'
    · exact ih _ (by simp [← hn]; omega) hlevel hrest hownrest hrest' hownrest' rfl

/-- If the first task can go on, the second one can in time. -/
theorem able (h : Level Mine index index' system system') (ht : system.tasks[index]? = some task)
    (ht' : system'.tasks[index']? = some task')
    (hs : system.step (.move (task.stage.onward index)) = some after)
    (hroom : system'.hands index' = [] → system'.inUse.length < system'.capacity) :
    ∃ till after', (system'.elapse till).step (.move (task'.stage.onward index')) = some after' := by
  obtain ⟨own, own', hown, hown', habreast⟩ := h.abreast
  cases ht.symm.trans hown
  cases ht'.symm.trans hown'
  obtain ⟨connected, hhands, hstages⟩ := habreast.stands
  rw [(hands_eq habreast ht ht').2] at hroom
  generalize hstage : task.stage = stage at hstages hs
  generalize hstage' : task'.stage = stage' at hstages
  cases hstages with
  | queued =>
    have hopen : system.closed = false := by
      by_contra hclosed
      simp [step, Stage.onward, System.move, ht, hstage, hclosed] at hs
    exact ⟨0, Option.isSome_iff_exists.mp (@isSome_connect (system'.elapse 0) _ _ ht' _ _ hstage'
      (h.agreed.closed.trans hopen) (hroom hhands.of_false.2))⟩
  | ready =>
    obtain ⟨_, connection', -, hown', -⟩ := hhands.of_true
    exact ⟨0, Option.isSome_iff_exists.mp (@isSome_send (system'.elapse 0) _ _ connection' _ _ ht'
      hstage' (by rw [hown']; rfl))⟩
  | @sent _ _ _ _ _ since' =>
    obtain ⟨connection, connection', hown, hown', hmirrors⟩ := hhands.of_true
    have hsame := hmirrors.transaction.lockTimeoutMillis
    have hbounded : system.db.lockTimeoutMillis connection ≠ 0 := by
      intro hzero
      have hlimit := limit_of_step_expire ht hstage (by rw [hown]; rfl) hs
      rw [lockWaitEnd?, if_pos hzero] at hlimit
      cases hlimit
    obtain ⟨limit, hlimit⟩ : ∃ limit, system'.lockWaitEnd? connection' (.locked since') = some limit :=
      ⟨_, if_neg (hsame.trans_ne hbounded)⟩
    exact ⟨limit, Option.isSome_iff_exists.mp (@isSome_expire (system'.elapse limit) _ connection' _ _ _ _
      _ _ ht' hstage' (by rw [hown']; rfl) hlimit (Nat.le_max_right ..))⟩
  | finished =>
    have hsuits := suits_of_step (by exact ht) hs
    rw [hstage] at hsuits
    cases hsuits

/-- If the first task comes to its end undisturbed, the second one can do so too. -/
theorem completes (h : Level Mine index index' system system') (hrun : Run system own after)
    (hown : ∀ before event, (before, event) ∈ own → event.isOwn index = true)
    (hfinished : Finished index after)
    (hroom : system'.hands index' = [] → system'.inUse.length < system'.capacity) :
    system'.Completes index' := by
  induction own generalizing system system' with
  | nil =>
    obtain ⟨-, rfl⟩ | ⟨_, _, _, ⟨⟩, -⟩ := hrun.first
    obtain ⟨task', ht', hf'⟩ := h.abreast.finished_iff.mp hfinished
    exact ⟨[], _, task', .refl, fun _ _ hmem => absurd hmem List.not_mem_nil, ht', hf'⟩
  | cons first rest ih =>
    obtain ⟨⟨⟩, -⟩ | ⟨event, middle, _, ⟨⟩, hs, hrest⟩ := hrun.first
    have he := hown _ _ List.mem_cons_self
    have hownrest := fun before event hmem => hown before event (List.mem_cons_of_mem _ hmem)
    rcases own_cases he hs with ⟨now, clock, rfl⟩ | hm
    · exact ih (h.later now system'.now clock system'.db.clock) hrest hownrest hroom
    obtain ⟨task, task', ht, ht', habreast⟩ := h.abreast
    obtain rfl := h.onward ht he hm hs
    obtain ⟨till, after', hs'⟩ := h.able ht ht' hs hroom
    have hlater := h.later system.now (max system'.now till) system.db.clock system'.db.clock
    obtain ⟨hjoined, hnext⟩ := hlater.joint ht ht' hs hs'
    refine .of_step rfl (rfl : system'.step (.elapse till) = _) (.of_step (isOwn_onward _) hs' ?_)
    by_cases hdone' : Finished index' after'
    · obtain ⟨moved', hmoved', hf'⟩ := hdone'
      exact ⟨[], after', moved', .refl, fun _ _ hmem => absurd hmem List.not_mem_nil, hmoved', hf'⟩
    · have hlevel := hnext.resolve_left fun hdone => hdone' hdone.2
      refine ih hlevel hrest hownrest fun hempty => ?_
      have hf : task.stage.isFinished = false := by
        by_contra hf
        exact not_mover_of_finished hs ht (by simpa using hf) hm
      exact absurd hempty (hands_ne_nil hjoined.abreast hjoined.minds' hdone'
        (inHand_ne_nil habreast ht ht' hf))

end Level

end System

end Passbook
