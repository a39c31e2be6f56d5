import Passbook.Proofs.System.Runs
import Passbook.System.Schedule

/-! # What an event leaves alone

An event does something to the connections that it touches, to the task that it moves and to no
others (`spares_step`, `getElem?_step`). The committed books change by what it makes public, and by
nothing else (`books_step`). -/

namespace Passbook

namespace System

variable {Allowed : Twist → Prop} {system after : System} {event : Event}
  {connection index : Nat} {told : Told}

/-! ## Books -/

@[simp] theorem books_giveBack (system : System) (connection : Nat) :
    (system.giveBack connection).db.books = system.db.books := by
  unfold giveBack
  dsimp only
  split <;> rfl

theorem books_proceed (system : System) (task : Task) (work : Work Reply) :
    (system.proceed task work).1.db.books = system.db.books := by
  induction work generalizing system task with
  | done | connect | exec => rfl
  | giveBack rest ih =>
    unfold proceed
    split
    · exact ih system task
    · rw [ih, books_giveBack]
  | draw next ih => exact ih _ { system with db.serial := system.db.serial + 1 } task
  | report reply rest ih => exact ih system _

theorem books_carryOn (system : System) (index : Nat) (task : Task) (work : Work Reply) :
    (system.carryOn index task work).db.books = system.db.books :=
  books_proceed system task work

theorem told?_of_arrival {move : Move} {arrival : Arrival}
    (h : system.arrival? move = some arrival) :
    system.told? (.move move) = arrival.told? := by
  rw [told?, h, Option.bind_some]

theorem waiting?_of_arrival {move : Move} {arrival : Arrival}
    (h : system.arrival? move = some arrival) :
    system.waiting? (.move move) = arrival.waiting? system.db := by
  rw [waiting?, h, Option.bind_some]

theorem sent?_of_arrival {move : Move} {arrival : Arrival}
    (h : system.arrival? move = some arrival) (ha : Arrives Allowed system move arrival) :
    system.sent? (.move move) = if arrival.sending.task.stage.isSent then none
      else some (move.index, arrival.sending.statement) := by
  cases hs : arrival.sending.task.stage.isSent with
  | false =>
    have hmove := ha.send.mpr hs
    rw [hmove] at h ⊢
    rw [sent?, h]
    rfl
  | true =>
    have hmove : move ≠ .send move.index := fun he => by simp [ha.send.mp he] at hs
    cases move with
    | send index => exact absurd rfl hmove
    | _ => rfl

theorem publication?_of_told (h : system.told? event = some told) :
    system.publication? event =
      if told.ran then
        (system.db.published? told.connection told.statement).map (told.connection, ·)
      else none := by
  rw [publication?, h, Option.bind_some]

theorem publication?_of_told_none (h : system.told? event = none) :
    system.publication? event = none := by
  rw [publication?, h, Option.bind_none]

theorem written?_of_told (h : system.told? event = some told) :
    system.written? event =
      if told.ran then some (told.index, system.db.written told.connection told.statement)
      else none := by
  rw [written?, h, Option.bind_some]

theorem written?_of_told_none (h : system.told? event = none) : system.written? event = none := by
  rw [written?, h, Option.bind_none]

theorem books_moves {move : Move} (h : Moves Allowed system move after) :
    after.db.books = (system.publication? (.move move)).elim system.db.books
      fun publication => system.db.books.overlay publication.2 := by
  cases h with
  | connected hmove _ _ _ _ =>
    rw [books_carryOn, hmove]
    rfl
  | turnedAway _ hmove _ _ _ =>
    rw [books_carryOn, hmove]
    rfl
  | gaveUp hmove _ _ _ _ =>
    rw [books_carryOn, hmove]
    rfl
  | leftBehind hmove _ _ _ _ =>
    rw [hmove]
    rfl
  | arrived harrival ha =>
    have htold := told?_of_arrival harrival
    rename_i arrival
    obtain ⟨⟨index, task, connection, statement, next⟩, met, fate⟩ := arrival
    obtain ⟨-, -, -, -, ⟨hmet, -, hdb⟩, hfate, -⟩ := ha
    dsimp only [Arrival.told?] at hmet hdb hfate htold ⊢
    have hbooks : met.db.books = system.db.books := by
      rcases hdb with hdb | ⟨-, -, hdb⟩ <;> rw [hdb]
      rfl
    cases hfate with
    | held _ hwaits =>
      rw [publication?_of_told_none htold]
      exact hwaits.books.trans hbooks
    | @answered db ran answer hanswers =>
      have hpublished : met.db.published? connection statement =
          system.db.published? connection statement := by
        rcases hdb with hdb | ⟨-, -, hdb⟩ <;> rw [hdb]
        exact Database.published?_note ..
      have hafter := hanswers.books
      rw [hpublished, hbooks] at hafter
      rw [publication?_of_told htold]
      dsimp only [settle]
      have hsettled : (if (statement.isEnd && answer.toBool) = true then db.note connection false
          else db).books = db.books := by
        split <;> rfl
      rw [books_carryOn, hsettled, hafter]
      cases ran with
      | false => rfl
      | true =>
        rw [if_pos rfl, if_pos rfl]
        cases system.db.published? connection statement <;> rfl

theorem books_step (h : system.step event = some after) :
    after.db.books = (system.publication? event).elim system.db.books
      fun publication => system.db.books.overlay publication.2 := by
  cases event with
  | move move => exact books_moves (moves (Twists.any system) h)
  | spawn connections deadline work =>
    obtain ⟨-, -, rfl⟩ := spawned_of_step h
    exact books_proceed system _ work
  | release connection =>
    obtain ⟨-, rfl⟩ := released_of_step h
    exact books_giveBack system connection
  | elapse | tick | arm | unstall | closePool => cases h; rfl

/-! ## Connections -/

/-- The connections that an event can do something to, among those that have been taken. -/
def touched (system : System) : Event → List Nat
  | .move move => ((system.tasks[move.index]?).map Task.claims).getD []
  | .spawn connections .. => connections
  | .release connection => [connection]
  | _ => []

/-- Nothing is done to the connection, in the database or in the pool. -/
structure Spares (connection : Nat) (system after : System) : Prop where
  untouched : Database.Untouched connection system.db after.db
  inUse : connection ∈ after.inUse ↔ connection ∈ system.inUse

namespace Spares

theorem refl (connection : Nat) (system : System) : Spares connection system system :=
  ⟨.refl connection system.db, Iff.rfl⟩

theorem trans {system' : System} (h : Spares connection system after)
    (h' : Spares connection after system') : Spares connection system system' :=
  ⟨h.untouched.trans h'.untouched, h'.inUse.trans h.inUse⟩

theorem giveBack {other : Nat} (hne : connection ≠ other) (system : System) :
    Spares connection system (system.giveBack other) := by
  unfold System.giveBack
  dsimp only
  split
  · exact ⟨.note hne system.db false, Iff.rfl⟩
  · exact ⟨.close hne system.db, List.mem_erase_of_ne hne⟩

theorem proceed (work : Work Reply) {task : Task} (hc : connection ∉ task.connections) :
    Spares connection system (system.proceed task work).1 := by
  induction work generalizing system task with
  | done | connect | exec => exact .refl connection system
  | giveBack rest ih =>
    unfold System.proceed
    split
    · exact ih hc
    · rename_i other connections ho
      rw [ho, List.mem_cons, not_or] at hc
      exact (giveBack hc.1 system).trans (ih hc.2)
  | draw next ih =>
    have hserial : Spares connection system
        { system with db.serial := system.db.serial + 1 } := ⟨.of_eq rfl rfl rfl, Iff.rfl⟩
    exact hserial.trans (ih _ hc)
  | report reply rest ih =>
    refine ih ?_
    exact hc

theorem carryOn {task : Task} (hc : connection ∉ task.connections) (index : Nat)
    (work : Work Reply) : Spares connection system (system.carryOn index task work) :=
  ⟨(proceed work hc).untouched, (proceed work hc).inUse⟩

/-- What happens in the database on another connection. -/
theorem of_db {db : Database} (h : Database.Untouched connection system.db db) :
    Spares connection system { system with db } :=
  ⟨h, Iff.rfl⟩

theorem arrive {move : Move} {arrival : Arrival} (ha : Arrives Allowed system move arrival)
    (hc : connection ∉ arrival.sending.task.connections) :
    Spares connection system (arrival.system.settle arrival.sending arrival.fate) := by
  obtain ⟨⟨index, task, other, statement, next⟩, met, fate⟩ := arrival
  obtain ⟨-, -, -, ho, ⟨hmet, -, hdb⟩, hfate, -⟩ := ha
  dsimp only at ho hmet hdb hfate hc ⊢
  have hne : connection ≠ other := by
    rintro rfl
    exact hc (List.mem_of_head? ho)
  have hmeets : Spares connection system met := by
    have hinUse : met.inUse = system.inUse := by rw [hmet]
    refine ⟨?_, by rw [hinUse]⟩
    rcases hdb with hdb | ⟨-, -, hdb⟩ <;> rw [hdb]
    · exact .refl connection system.db
    · exact .note hne system.db true
  refine hmeets.trans ?_
  cases hfate with
  | held _ hwaits => exact ⟨hwaits.untouched hne, Iff.rfl⟩
  | answered hanswers =>
    refine (of_db ?_).trans (carryOn hc _ _)
    split
    · exact (hanswers.untouched hne).trans (.note hne _ false)
    · exact hanswers.untouched hne

theorem moves {move : Move} (hm : Moves Allowed system move after)
    (hc : ∀ task, system.tasks[move.index]? = some task → connection ∉ task.claims)
    (hlt : connection < system.nextConnection) : Spares connection system after := by
  have hfree : ∀ task, system.tasks[move.index]? = some task → task.stage.isFinished = false →
      connection ∉ task.connections := by
    intro task ht hf
    have hclaims := hc task ht
    simpa [Task.claims, hf] using hclaims
  cases hm with
  | connected _ ht _ hf _ =>
    have hne : connection ≠ system.nextConnection := Nat.ne_of_lt hlt
    have htaken : Spares connection system { system with
        inUse := system.nextConnection :: system.inUse
        nextConnection := system.nextConnection + 1 } :=
      ⟨.refl connection system.db, by simp [hne]⟩
    refine htaken.trans (carryOn ?_ _ _)
    simp [hne, hfree _ ht hf]
  | turnedAway _ _ ht _ hf => exact carryOn (hfree _ ht hf) _ _
  | arrived _ ha =>
    exact arrive ha (hfree _ ha.task (Stage.isFinished_of_work ha.stage))
  | gaveUp _ ht _ hb _ =>
    have hleft := hfree _ ht (Stage.isFinished_of_isBounded hb)
    refine carryOn ?_ _ _
    exact hleft
  | leftBehind => exact ⟨.refl connection system.db, Iff.rfl⟩

end Spares

theorem spares_step (h : system.step event = some after) (hc : connection ∉ system.touched event)
    (hlt : connection < system.nextConnection) : Spares connection system after := by
  cases event with
  | move move =>
    refine Spares.moves (System.moves (Twists.any system) h) (fun task ht => ?_) hlt
    simpa [touched, ht] using hc
  | spawn connections deadline work =>
    obtain ⟨-, -, rfl⟩ := spawned_of_step h
    exact ⟨(Spares.proceed work hc).untouched, (Spares.proceed work hc).inUse⟩
  | release other =>
    obtain ⟨-, rfl⟩ := released_of_step h
    exact .giveBack (by simpa [touched] using hc) system
  | elapse | tick | arm | unstall | closePool =>
    cases h
    exact ⟨.of_eq rfl rfl rfl, Iff.rfl⟩

/-- What another task works on is not touched. -/
theorem not_touched_of_claims (ho : Orderly [] [] system) (h : system.step event = some after)
    {task : Task} (ht : system.tasks[index]? = some task) (hc : connection ∈ task.claims)
    (hm : event.mover? ≠ some index) : connection ∉ system.touched event := by
  have hbusy : system.isIdle connection ≠ true := by
    intro hidle
    have hpos := List.count_pos_iff.mpr hc
    have hle := count_le_claimed ht connection
    have hzero := (isIdle_iff.mp hidle).2
    omega
  intro htouched
  cases event with
  | move move =>
    obtain ⟨other, hother, hclaims⟩ : ∃ other, system.tasks[move.index]? = some other ∧
        connection ∈ other.claims := by
      cases hother : system.tasks[move.index]? with
      | none => simp [touched, hother] at htouched
      | some other => exact ⟨other, rfl, by simpa [touched, hother] using htouched⟩
    exact hm (congrArg some (ho.eq_of_claims hother ht hclaims hc))
  | spawn connections deadline work =>
    exact hbusy ((spawned_of_step h).2.1 connection htouched)
  | release other =>
    rw [List.mem_singleton.mp htouched] at hbusy
    exact hbusy (released_of_step h).1
  | elapse | tick | arm | unstall | closePool => cases htouched

/-- Nothing is done to what another task works on. -/
theorem spares_of_claims (ho : Orderly [] [] system) (h : system.step event = some after)
    {task : Task} (ht : system.tasks[index]? = some task) (hc : connection ∈ task.claims)
    (hm : event.mover? ≠ some index) : Spares connection system after :=
  spares_step h (not_touched_of_claims ho h ht hc hm) (ho.lt_next _ (ho.inUse_of_claims ht hc))

/-- What nobody has taken is not touched. -/
theorem not_touched_of_free (ho : Orderly [] [] system) (h : system.step event = some after)
    (hc : connection ∉ system.inUse) : connection ∉ system.touched event := by
  intro htouched
  cases event with
  | move move =>
    cases hother : system.tasks[move.index]? with
    | none => simp [touched, hother] at htouched
    | some other =>
      exact hc (ho.inUse_of_claims hother (by simpa [touched, hother] using htouched))
  | spawn connections deadline work =>
    exact hc (isIdle_iff.mp ((spawned_of_step h).2.1 connection htouched)).1
  | release other =>
    rw [List.mem_singleton.mp htouched] at hc
    exact hc (isIdle_iff.mp (released_of_step h).1).1
  | elapse | tick | arm | unstall | closePool => cases htouched

/-- An answer reaches the task that moves, about a connection that it works on. -/
theorem touched_of_told (h : system.told? event = some told) :
    event.mover? = some told.index ∧ told.connection ∈ system.touched event := by
  cases event with
  | move move =>
    obtain ⟨arrival, harrival, htold⟩ := Option.bind_eq_some_iff.mp h
    have ha := arrives (Twists.any system) harrival
    have htask := ha.task
    have hindex := ha.index
    have hmem : arrival.sending.connection ∈ arrival.sending.task.claims := by
      have hf := Stage.isFinished_of_work ha.stage
      simpa [Task.claims, hf] using List.mem_of_head? ha.connection
    unfold Arrival.told? at htold
    split at htold
    · cases htold
      exact ⟨by rw [hindex]; rfl, by simpa [touched, htask] using hmem⟩
    · cases htold
  | spawn | release | elapse | tick | arm | unstall | closePool => cases h

/-- What a task is told of is what it has asked for on its connection. -/
theorem work_of_told (h : system.told? event = some told) : ∃ task next,
    system.tasks[told.index]? = some task ∧ task.connections.head? = some told.connection ∧
      task.stage.work = .exec told.statement next := by
  cases event with
  | move move =>
    obtain ⟨arrival, harrival, htold⟩ := Option.bind_eq_some_iff.mp h
    have ha := arrives (Twists.any system) harrival
    have htask := ha.task
    have hindex := ha.index
    have hconnection := ha.connection
    have hstage := ha.stage
    unfold Arrival.told? at htold
    split at htold
    · cases htold
      exact ⟨_, _, by rw [hindex]; exact htask, hconnection, hstage⟩
    · cases htold
  | _ => cases h

theorem publication?_of_not_touched (hc : connection ∉ system.touched event)
    {publication : Nat × Books} (h : system.publication? event = some publication) :
    publication.1 ≠ connection := by
  rintro rfl
  cases htold : system.told? event with
  | none => simp [publication?_of_told_none htold] at h
  | some told =>
    rw [publication?_of_told htold] at h
    split at h
    · obtain ⟨_, _, rfl⟩ := Option.map_eq_some_iff.mp h
      exact hc (touched_of_told htold).2
    · cases h

/-- What is sent, taken, answered and written by an event belongs to the task that it moves. -/
theorem sent?_index {sent : Nat × Statement} (h : system.sent? event = some sent) :
    event.mover? = some sent.1 := by
  unfold sent? at h
  split at h
  · obtain ⟨_, -, rfl⟩ := Option.map_eq_some_iff.mp h
    rfl
  · cases h

theorem taken?_index {taken : Nat × Nat} (h : system.taken? event = some taken) :
    event.mover? = some taken.1 := by
  unfold taken? at h
  split at h <;> cases h
  rfl

theorem written?_index {written : Nat × Books} (h : system.written? event = some written) :
    event.mover? = some written.1 := by
  cases htold : system.told? event with
  | none => rw [written?_of_told_none htold] at h; cases h
  | some told =>
    rw [written?_of_told htold] at h
    split at h <;> cases h
    exact (touched_of_told htold).1

theorem giveBack_eq (system : System) (connection : Nat) :
    ∃ db tasks inUse, system.giveBack connection = { system with db, tasks, inUse } := by
  unfold giveBack
  dsimp only
  split
  · exact ⟨_, _, system.inUse, rfl⟩
  · exact ⟨_, system.tasks, _, rfl⟩

/-- Carrying work on changes the database, the tasks and the connections in use, and nothing else. -/
theorem proceed_eq (system : System) (task : Task) (work : Work Reply) :
    ∃ db tasks inUse, (system.proceed task work).1 = { system with db, tasks, inUse } := by
  induction work generalizing system task with
  | done | connect | exec => exact ⟨system.db, system.tasks, system.inUse, rfl⟩
  | giveBack rest ih =>
    unfold proceed
    split
    · exact ih system task
    · rename_i connection connections _
      obtain ⟨db, tasks, inUse, heq⟩ :=
        ih (system.giveBack connection) { task with connections }
      obtain ⟨db', tasks', inUse', hback⟩ := giveBack_eq system connection
      rw [hback] at heq
      exact ⟨db, tasks, inUse, by rw [hback, heq]⟩
  | draw next ih => exact ih _ { system with db.serial := system.db.serial + 1 } task
  | report reply rest ih => exact ih system _

theorem nextConnection_proceed (system : System) (task : Task) (work : Work Reply) :
    (system.proceed task work).1.nextConnection = system.nextConnection := by
  obtain ⟨db, tasks, inUse, heq⟩ := proceed_eq system task work
  rw [heq]

theorem faults_proceed (system : System) (task : Task) (work : Work Reply) :
    (system.proceed task work).1.faults = system.faults := by
  obtain ⟨db, tasks, inUse, heq⟩ := proceed_eq system task work
  rw [heq]

/-- Connections are numbered as they are taken. -/
theorem nextConnection_le (h : system.step event = some after) :
    system.nextConnection ≤ after.nextConnection := by
  cases event with
  | move move =>
    have hm := moves (Twists.any system) h
    cases hm with
    | connected =>
      simp only [carryOn, setTask, nextConnection_proceed]
      exact Nat.le_succ _
    | turnedAway | gaveUp =>
      simp only [carryOn, setTask, nextConnection_proceed]
      exact Nat.le_refl _
    | leftBehind => exact Nat.le_refl _
    | @arrived arrival _ ha =>
      have hnext : arrival.system.nextConnection = system.nextConnection := by rw [ha.meets.eq]
      rw [← hnext]
      unfold settle
      split
      · simp only [carryOn, setTask, nextConnection_proceed]
        exact Nat.le_refl _
      · exact Nat.le_refl _
  | spawn connections deadline work =>
    obtain ⟨-, -, rfl⟩ := spawned_of_step h
    exact Nat.le_of_eq (nextConnection_proceed system _ work).symm
  | release connection =>
    obtain ⟨-, rfl⟩ := released_of_step h
    unfold giveBack
    dsimp only
    split <;> exact Nat.le_refl _
  | elapse | tick | arm | unstall | closePool => cases h; exact Nat.le_refl _

/-! ## Tasks -/

theorem Moves.getElem?_ne {move : Move} (h : Moves Allowed system move after) {task : Task}
    (ht : system.tasks[index]? = some task) (hne : index ≠ move.index) :
    after.tasks[index]? = some task := by
  have hlt := (List.getElem?_eq_some_iff.mp ht).1
  cases h with
  | connected =>
    refine (getElem?_carryOn_ne ?_ hne _ _).trans ht
    exact hlt
  | turnedAway => rw [getElem?_carryOn_ne hlt hne]; exact ht
  | gaveUp => rw [getElem?_carryOn_ne hlt hne]; exact ht
  | leftBehind =>
    simp only [setTask]
    rw [List.getElem?_set_ne (Ne.symm hne)]
    exact ht
  | @arrived arrival _ ha =>
    have htasks : arrival.system.tasks = system.tasks := by rw [ha.meets.eq]
    rw [← ha.index] at hne
    unfold settle
    split
    · rw [getElem?_carryOn_ne (by rw [htasks]; exact hlt) hne]
      exact htasks ▸ ht
    · simp only [setTask, htasks]
      rw [List.getElem?_set_ne (Ne.symm hne)]
      exact ht

/-- The tasks that an event does not move stay as they are, but for a stall that ends. -/
theorem getElem?_step (h : system.step event = some after) {task : Task}
    (ht : system.tasks[index]? = some task) (hm : event.mover? ≠ some index) :
    after.tasks[index]? = some task ∨ event = .unstall ∧
      after.tasks[index]? = some { task with stage := task.stage.unstall system.now } := by
  have hlt := (List.getElem?_eq_some_iff.mp ht).1
  cases event with
  | move move =>
    have hne : index ≠ move.index := fun he => hm (congrArg some he.symm)
    exact .inl ((moves (Twists.any system) h).getElem?_ne ht hne)
  | spawn connections deadline work =>
    obtain ⟨-, -, rfl⟩ := spawned_of_step h
    obtain ⟨left, hl⟩ := tasks_proceed system
      { connections, deadline, stage := .finished, progress := [], reply := none } work
    left
    simp only [spawn, hl]
    rw [List.append_assoc, List.getElem?_append_left hlt, ht]
  | release connection =>
    obtain ⟨-, rfl⟩ := released_of_step h
    left
    unfold giveBack
    dsimp only
    split
    · rw [List.getElem?_append_left hlt, ht]
    · exact ht
  | unstall =>
    cases h
    exact .inr ⟨rfl, by simp [unstall, ht]⟩
  | elapse | tick | arm | closePool => cases h; exact .inl ht

theorem cleanup_of_new {tasks : List Task} {left : List Nat} {task : Task}
    (ht : (tasks ++ left.map .cleanup)[index]? = some task) (hnew : tasks[index]? = none) :
    ∃ connection, task = .cleanup connection := by
  rw [List.getElem?_append_right (List.getElem?_eq_none_iff.mp hnew), List.getElem?_map] at ht
  obtain ⟨connection, -, rfl⟩ := Option.map_eq_some_iff.mp ht
  exact ⟨connection, rfl⟩

theorem cleanup_of_carryOn {mover : Nat} {old task : Task} {work : Work Reply}
    (ht : (system.carryOn mover old work).tasks[index]? = some task)
    (hlt : mover < system.tasks.length) (hnew : system.tasks[index]? = none) :
    ∃ connection, task = .cleanup connection := by
  obtain ⟨left, hl⟩ := tasks_proceed system old work
  have hne : mover ≠ index := by
    rintro rfl
    exact absurd hlt (Nat.not_lt.mpr (List.getElem?_eq_none_iff.mp hnew))
  simp only [carryOn, setTask, hl] at ht
  rw [List.getElem?_set_ne hne] at ht
  exact cleanup_of_new ht hnew

theorem getElem?_setTask_eq_none {mover : Nat} (hnew : system.tasks[index]? = none) (task : Task) :
    (system.setTask mover task).tasks[index]? = none := by
  rw [List.getElem?_eq_none_iff] at hnew ⊢
  simpa [setTask] using hnew

/-- The tasks that come into being by a move are rollbacks. -/
theorem Moves.cleanup_of_new {move : Move} (h : Moves Allowed system move after) {task : Task}
    (ht : after.tasks[index]? = some task) (hnew : system.tasks[index]? = none) :
    ∃ connection, task = .cleanup connection := by
  have hlt : ∀ {other}, system.tasks[move.index]? = some other →
      move.index < system.tasks.length := fun ho => (List.getElem?_eq_some_iff.mp ho).1
  cases h with
  | connected _ ho => exact cleanup_of_carryOn ht (hlt ho) hnew
  | turnedAway _ _ ho => exact cleanup_of_carryOn ht (hlt ho) hnew
  | gaveUp _ ho => exact cleanup_of_carryOn ht (hlt ho) hnew
  | leftBehind => cases (getElem?_setTask_eq_none hnew _).symm.trans ht
  | @arrived arrival _ ha =>
    have htasks : arrival.system.tasks = system.tasks := by rw [ha.meets.eq]
    have hmover := hlt ha.task
    rw [← ha.index, ← htasks] at hmover
    rw [← htasks] at hnew
    unfold settle at ht
    split at ht
    · exact cleanup_of_carryOn ht hmover hnew
    · cases (getElem?_setTask_eq_none hnew _).symm.trans ht

/-- The tasks that come into being by an event are rollbacks, and the one that is spawned. -/
theorem new_of_step (h : system.step event = some after) {task : Task}
    (ht : after.tasks[index]? = some task) (hnew : system.tasks[index]? = none) :
    (∃ connection, task = .cleanup connection) ∨
      ∃ connections deadline work, event = .spawn connections deadline work ∧
        task = (system.proceed
          { connections, deadline, stage := .finished, progress := [], reply := none } work).2 := by
  cases event with
  | move move =>
    exact .inl ((moves (Twists.any system) h).cleanup_of_new ht hnew)
  | spawn connections deadline work =>
    obtain ⟨-, -, rfl⟩ := spawned_of_step h
    obtain ⟨left, hl⟩ := tasks_proceed system
      { connections, deadline, stage := .finished, progress := [], reply := none } work
    simp only [spawn, hl, List.append_assoc] at ht
    rw [List.getElem?_append_right (List.getElem?_eq_none_iff.mp hnew)] at ht
    rcases List.mem_append.mp (List.mem_of_getElem? ht) with hleft | hown
    · obtain ⟨connection, -, rfl⟩ := List.mem_map.mp hleft
      exact .inl ⟨connection, rfl⟩
    · exact .inr ⟨connections, deadline, work, rfl, List.mem_singleton.mp hown⟩
  | release connection =>
    obtain ⟨-, rfl⟩ := released_of_step h
    left
    unfold giveBack at ht
    dsimp only at ht
    split at ht
    · exact @cleanup_of_new index system.tasks [connection] task ht hnew
    · cases hnew.symm.trans ht
  | unstall =>
    cases h
    simp [unstall, hnew] at ht
  | elapse | tick | arm | closePool =>
    cases h
    cases hnew.symm.trans ht

theorem Moves.lt_length {move : Move} (h : Moves Allowed system move after) :
    move.index < system.tasks.length := by
  cases h with
  | connected _ ht | turnedAway _ _ ht | gaveUp _ ht | leftBehind _ ht =>
    exact (List.getElem?_eq_some_iff.mp ht).1
  | arrived _ ha => exact (List.getElem?_eq_some_iff.mp ha.task).1

theorem lt_length_of_mover (h : system.step event = some after)
    (hm : event.mover? = some index) : index < system.tasks.length := by
  cases event with
  | move move =>
    obtain rfl := Option.some.inj hm
    exact (moves (Twists.any system) h).lt_length
  | _ => cases hm

theorem lt_length_carryOn (h : index < system.tasks.length) (task : Task) (work : Work Reply) :
    index < (system.carryOn index task work).tasks.length :=
  (List.getElem?_eq_some_iff.mp (getElem?_carryOn_self h task work)).1

theorem Moves.lt_length_after {move : Move} (h : Moves Allowed system move after) :
    move.index < after.tasks.length := by
  have hlt := h.lt_length
  cases h with
  | connected =>
    refine lt_length_carryOn ?_ _ _
    exact hlt
  | turnedAway | gaveUp => exact lt_length_carryOn hlt _ _
  | leftBehind => simpa [setTask] using hlt
  | @arrived arrival _ ha =>
    have htasks : arrival.system.tasks = system.tasks := by rw [ha.meets.eq]
    rw [← htasks] at hlt
    rw [← ha.index] at hlt ⊢
    unfold settle
    split
    · refine lt_length_carryOn ?_ _ _
      exact hlt
    · simpa [setTask] using hlt

/-- Tasks come, and none goes. -/
theorem length_le_step (h : system.step event = some after) :
    system.tasks.length ≤ after.tasks.length := by
  by_contra hlt
  have ht := List.getElem?_eq_getElem (Nat.lt_of_not_le hlt)
  have hgone : after.tasks[after.tasks.length]? = none := List.getElem?_eq_none (Nat.le_refl _)
  by_cases hm : event.mover? = some after.tasks.length
  · cases event with
    | move move =>
      have hlast := (moves (Twists.any system) h).lt_length_after
      rw [Option.some.inj hm] at hlast
      exact Nat.lt_irrefl _ hlast
    | _ => cases hm
  · rcases getElem?_step h ht hm with ht' | ⟨-, ht'⟩ <;> cases hgone.symm.trans ht'

/-! ## Replies -/

theorem reply_proceed {task : Task} {reply : Reply} (h : task.reply = some reply)
    (system : System) (work : Work Reply) : (system.proceed task work).2.reply = some reply := by
  induction work generalizing system task with
  | done => simp [proceed, h]
  | connect | exec => exact h
  | giveBack rest ih =>
    unfold proceed
    split
    · exact ih h system
    · exact ih (by exact h) _
  | draw next ih => exact ih _ h _
  | report reply rest ih => exact ih (by exact h) system

theorem reply_carryOn {task : Task} {reply : Reply} (h : task.reply = some reply)
    (hlt : index < system.tasks.length) (work : Work Reply) :
    (system.carryOn index task work).reply? index = some reply := by
  rw [reply?, getElem?_carryOn_self hlt]
  exact reply_proceed h system work

theorem Moves.reply {move : Move} (h : Moves Allowed system move after) {reply : Reply}
    (hr : system.reply? move.index = some reply) : after.reply? move.index = some reply := by
  have hlt := h.lt_length
  obtain ⟨task, ht, hreply⟩ := Option.bind_eq_some_iff.mp hr
  have htask : ∀ {other}, system.tasks[move.index]? = some other → task = other :=
    fun ho => Option.some.inj (ht.symm.trans ho)
  cases h with
  | connected _ ho =>
    obtain rfl := htask ho
    refine reply_carryOn ?_ ?_ _
    · exact hreply
    · exact hlt
  | turnedAway _ _ ho =>
    obtain rfl := htask ho
    exact reply_carryOn hreply hlt _
  | gaveUp _ ho =>
    obtain rfl := htask ho
    refine reply_carryOn ?_ hlt _
    simp [hreply]
  | leftBehind _ ho =>
    obtain rfl := htask ho
    simp [reply?, setTask, hlt, hreply]
  | @arrived arrival _ ha =>
    have htasks : arrival.system.tasks = system.tasks := by rw [ha.meets.eq]
    obtain rfl := htask ha.task
    rw [← htasks] at hlt
    rw [← ha.index] at hlt ⊢
    unfold settle
    split
    · refine reply_carryOn ?_ ?_ _
      · exact hreply
      · exact hlt
    · simp [reply?, setTask, hlt, hreply]

/-- A caller is told once. -/
theorem reply?_step (h : system.step event = some after) {reply : Reply}
    (hr : system.reply? index = some reply) : after.reply? index = some reply := by
  obtain ⟨task, ht, hreply⟩ := Option.bind_eq_some_iff.mp hr
  by_cases hm : event.mover? = some index
  · cases event with
    | move move =>
      obtain rfl := Option.some.inj hm
      exact (moves (Twists.any system) h).reply hr
    | _ => cases hm
  · rcases getElem?_step h ht hm with ht' | ⟨-, ht'⟩ <;> simp [reply?, ht', hreply]

end System

end Passbook
