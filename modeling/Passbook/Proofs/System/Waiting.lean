import Passbook.Proofs.Database.Origins
import Passbook.Proofs.System.Custody

/-! # Statements that wait

A statement that stands alone and must wait for a lock finds the time of its arrival when it runs at
last (`Database.surroundings`), since that time is noted on its connection. It is noted exactly as long
as such a statement waits there (`Run.waiting_iff`): nothing is left of a wait that is over, which
another statement could take for its own time. -/

namespace Passbook

/-- The task waits on a connection for the lock that a statement about rows needs. -/
def Task.WaitsOn (task : Task) (connection : Nat) : Prop :=
  task.connections.head? = some connection ∧ ∃ statement next twist since,
    task.stage = .sent statement next twist (.locked since) ∧ statement.isQuery = true

namespace Task.WaitsOn

variable {task : Task} {connection : Nat}

theorem isSent (h : task.WaitsOn connection) : task.stage.isSent = true := by
  obtain ⟨-, _, _, _, _, hstage, -⟩ := h
  rw [hstage]
  rfl

theorem mem_claims (h : task.WaitsOn connection) : connection ∈ task.claims := by
  rw [Task.claims_eq (Stage.isFinished_of_isSent h.isSent)]
  exact List.mem_of_head? h.1

/-- Only stalled statements are set free. -/
theorem unstall_iff {now : Nat} :
    Task.WaitsOn { task with stage := task.stage.unstall now } connection ↔
      task.WaitsOn connection := by
  obtain ⟨connections, stage, deadline, progress, reply⟩ := task
  rcases stage with _ | _ | ⟨_, _, _, _ | _ | _⟩ | _ <;> simp [WaitsOn, Stage.unstall]

end Task.WaitsOn

namespace Database

variable {db db' : Database} {connection : Nat} {statement : Statement} {answer : statement.Answer}

/-- A statement about rows that stands alone waits no longer when it has run. -/
theorem waiting_of_run (hq : statement.isQuery = true) (ht : db.transaction? connection = none)
    (hr : db.run connection statement = .answered db' answer) :
    (db'.session connection).waiting = none := by
  have hlocked : ((db.lockFor connection statement).session connection).waiting = none := by
    unfold lockFor
    rw [ht]
    simp
  cases runs_of_run hr with
  | begun | committed | rolledBack | bounded | nothingToBound | outOfRange => cases hq
  | aborted haborted => simp [refusesAborted, ht] at haborted
  | performed => rw [session_changed, hlocked]
  | rejected => rw [session_aborted, hlocked]

end Database

namespace System

variable {system after : System} {event : Event} {move : Move} {arrival : Arrival}
  {connection : Nat} {task old : Task} {time : Instant} {db : Database} {twist : Twist} {hold : Hold}

/-- A statement waits on the connection for a lock, and it stands alone. -/
def WaitsOn (system : System) (connection : Nat) : Prop :=
  system.db.transaction? connection = none ∧
    ∃ task ∈ system.tasks, task.WaitsOn connection

/-- Carrying work on makes nothing wait. -/
theorem waiting_proceed {work : Work Reply}
    (h : ((system.proceed task work).1.db.session connection).waiting = some time) :
    (system.db.session connection).waiting = some time := by
  induction work generalizing system task with
  | done | connect | exec => exact h
  | giveBack rest ih =>
    unfold proceed at h
    split at h
    · exact ih h
    · have hback := ih h
      unfold giveBack at hback
      dsimp only at hback
      split at hback
      · rwa [Database.waiting_note] at hback
      · exact Database.waiting_of_close hback
  | draw next ih => exact @ih _ { system with db.serial := system.db.serial + 1 } task h
  | report reply rest ih => exact ih h

/-- What is held for a lock is about rows, and its arrival is noted if it stands alone. -/
theorem attempt_held {statement : Statement} {twist' : Twist}
    (h : system.attempt connection statement twist' = .held db twist hold) :
    statement.isQuery = true ∧ hold = .locked system.now ∧ db = system.db.wait connection := by
  unfold attempt at h
  split at h
  · rename_i hblocked
    cases h
    exact ⟨(Database.run_blocked hblocked).1, rfl, rfl⟩
  · cases h

/-- A statement that stands alone waits no longer when it has run. -/
theorem waiting_of_attempt {statement : Statement} {twist : Twist} {ran : Bool}
    {answer : statement.Answer} (hq : statement.isQuery = true)
    (ht : system.db.transaction? connection = none)
    (h : system.attempt connection statement twist = .answered db ran answer) :
    (db.session connection).waiting = none := by
  unfold attempt at h
  split at h
  · cases h
  · rename_i ended own hr
    have hended := Database.waiting_of_run hq ht hr
    have hdb : db = (ended.twisted connection statement twist own).1 := by cases h; rfl
    rw [hdb]
    rcases Database.twisted_cases ended connection twist own with ⟨hsame, -⟩ | ⟨-, htwisted⟩
    · rw [hsame, hended]
    · rw [htwisted, Database.session_disconnect, if_pos rfl, hended]

/-- What is held has not arrived yet, or it is held for a lock. -/
theorem Due.held (h : system.Due move arrival) (hfate : arrival.fate = .held db twist hold) :
    (∀ since, hold ≠ .locked since) ∧ db = arrival.system.db ∨
      arrival.sending.statement.isQuery = true ∧ (∃ since, hold = .locked since) ∧
        db = system.db.wait arrival.sending.connection := by
  cases h with
  | sent =>
    dsimp only at hfate ⊢
    unfold send at hfate ⊢
    split at hfate
    · cases hfate
    split at hfate
    · cases hfate
    rw [if_neg ‹_›, if_neg ‹_›]
    dsimp only at hfate ⊢
    unfold meet at hfate
    split at hfate
    · cases hfate
    · cases hfate
    · cases hfate
      exact .inl ⟨nofun, rfl⟩
    · cases hfate
      exact .inl ⟨nofun, rfl⟩
    all_goals
      obtain ⟨hq, rfl, hdb⟩ := attempt_held hfate
      rw [if_neg (Statement.ne_begin_of_isQuery hq)] at hdb
      exact .inr ⟨hq, ⟨_, rfl⟩, hdb⟩
  | woken =>
    obtain ⟨hq, rfl, hdb⟩ := attempt_held hfate
    exact .inr ⟨hq, ⟨_, rfl⟩, hdb⟩
  | expired => cases hfate

/-- A statement that stands alone and is held for a lock waits for it, and its arrival is noted. -/
theorem waitsOn_of_held (harrival : system.arrival? move = some arrival)
    (hfate : arrival.fate = .held db twist hold) (hlocked : ∃ since, hold = .locked since)
    (hnone : system.db.transaction? arrival.sending.connection = none) :
    (arrival.system.settle arrival.sending arrival.fate).WaitsOn arrival.sending.connection ∧
      (db.session arrival.sending.connection).waiting.isSome = true := by
  have ha := arrives (Twists.any system) harrival
  obtain ⟨since, rfl⟩ := hlocked
  rcases (due_of_arrival harrival).held hfate with ⟨hother, -⟩ | ⟨hq, -, rfl⟩
  · exact absurd rfl (hother since)
  obtain ⟨⟨index, task, own, statement, next⟩, met, fate⟩ := arrival
  obtain ⟨rfl, htask, -, hown, ⟨hmet, -⟩, -⟩ := ha
  dsimp only at htask hown hmet hfate hnone hq ⊢
  subst hfate
  have hlt : move.index < met.tasks.length := by
    rw [hmet]
    exact (List.getElem?_eq_some_iff.mp htask).1
  refine ⟨⟨?_, _, List.mem_of_getElem? (List.getElem?_set_self hlt), hown, statement, next, twist,
    since, rfl, hq⟩, ?_⟩
  · exact (system.db.transaction?_wait own own).trans hnone
  · unfold Database.wait
    rw [hnone]
    simp

/-- What is noted of a statement that waits is still so after a move of its task only if it waits on. -/
theorem waitsOn_of_own_move (ht : system.tasks[move.index]? = some task)
    (hnone : system.db.transaction? connection = none) (htask : task.WaitsOn connection)
    (hs : system.step (.move move) = some after)
    (hw : (after.db.session connection).waiting = some time) : after.WaitsOn connection := by
  have hown : ∀ {other}, system.tasks[move.index]? = some other → task = other :=
    fun ho => Option.some.inj (ht.symm.trans ho)
  obtain ⟨hc, statement, next, twist, since, hstage, hq⟩ := htask
  have hwork : task.stage.work = .exec statement next := by rw [hstage]; rfl
  cases System.moves (Twists.any system) hs with
  | connected _ ho hconnect | turnedAway _ _ ho hconnect =>
    obtain rfl := hown ho
    cases hwork.symm.trans hconnect
  | gaveUp _ ho _ _ hunsent =>
    obtain rfl := hown ho
    exact absurd hstage (hunsent _ _ _ _)
  | leftBehind _ ho _ hleft =>
    obtain rfl := hown ho
    cases hstage.symm.trans hleft
    have hlt := (List.getElem?_eq_some_iff.mp ht).1
    exact ⟨hnone, _, List.mem_of_getElem? (List.getElem?_set_self hlt), hc, _, _, _, _, rfl, hq⟩
  | arrived harrival _ =>
    cases due_of_arrival harrival with
    | sent ho hready =>
      obtain rfl := hown ho
      cases hstage.symm.trans hready
    | @woken index own _ _ _ twist hold ho hsent hhead =>
      obtain rfl := hown ho
      cases hstage.symm.trans hsent
      obtain rfl := Option.some.inj (hhead.symm.trans hc)
      cases hfate : system.attempt own statement twist with
      | held db twist' hold =>
        rw [← hfate]
        exact (waitsOn_of_held harrival hfate ⟨_, (attempt_held hfate).2.1⟩ hnone).1
      | answered db ran answer =>
        -- it has run and waits no longer
        rw [hfate] at hw
        have hwaited := waiting_proceed hw
        rw [Statement.isEnd_of_isQuery hq] at hwaited
        cases (waiting_of_attempt hq hnone hfate).symm.trans hwaited
    | @expired index own limit _ _ _ _ hold ho hsent hhead hlimit =>
      obtain rfl := hown ho
      cases hstage.symm.trans hsent
      obtain rfl := Option.some.inj (hhead.symm.trans hc)
      simp [lockWaitEnd?, Database.lockTimeoutMillis, hnone] at hlimit

/-- A statement that begins to wait by an event waits after it. -/
theorem waitsOn_of_waiting? (h : system.waiting? event = some (connection, time))
    (hs : system.step event = some after) : after.WaitsOn connection := by
  cases event with
  | move move =>
    obtain ⟨arrival, harrival, hwaiting⟩ := Option.bind_eq_some_iff.mp h
    have hafter : some after = (some arrival).map fun arrival =>
        arrival.system.settle arrival.sending arrival.fate := by
      rw [← hs, ← harrival]
      cases move with
      | connect | turnAway | abandon => cases harrival
      | send | wake | expire => rfl
    obtain rfl := Option.some.inj hafter
    unfold Arrival.waiting? at hwaiting
    split at hwaiting
    · rename_i db twist hold hfate
      dsimp only at hwaiting
      split at hwaiting <;> cases hwaiting
      rename_i hbegins
      obtain ⟨hbefore, hafter⟩ := Bool.and_eq_true_iff.mp hbegins
      rcases (due_of_arrival harrival).held hfate with ⟨-, rfl⟩ | ⟨hq, hlocked, rfl⟩
      · have hmet : (arrival.system.db.session arrival.sending.connection).waiting =
            (system.db.session arrival.sending.connection).waiting := by
          rcases (arrives (Twists.any system) harrival).meets.db with hdb | ⟨-, -, hdb⟩ <;> rw [hdb]
          exact Database.waiting_note ..
        rw [hmet, ← Option.not_isNone, hbefore] at hafter
        cases hafter
      · refine (waitsOn_of_held harrival hfate hlocked ?_).1
        cases ht : system.db.transaction? arrival.sending.connection with
        | none => rfl
        | some =>
          rw [Database.wait_of_open ht, ← Option.not_isNone, hbefore] at hafter
          cases hafter
    · cases hwaiting
  | _ => cases h

/-- An arrival is noted only on connections on which a statement waits. -/
theorem waitsOn_step (hu : system.Underway) (ho : Orderly [] [] system)
    (hs : system.step event = some after)
    (h : ∀ connection time, (system.db.session connection).waiting = some time →
      system.WaitsOn connection)
    (hw : (after.db.session connection).waiting = some time) : after.WaitsOn connection := by
  cases hbefore : (system.db.session connection).waiting with
  | some before =>
    obtain ⟨hnone, task, hmem, htask⟩ := h connection before hbefore
    obtain ⟨index, ht⟩ := List.mem_iff_getElem?.mp hmem
    by_cases hm : event.mover? = some index
    · obtain ⟨move, rfl, rfl⟩ := mover?_eq_some hm
      exact waitsOn_of_own_move ht hnone htask hs hw
    · have huntouched := (spares_of_claims ho hs ht htask.mem_claims hm).untouched
      refine ⟨huntouched.transaction?.trans hnone, ?_⟩
      rcases getElem?_step hs ht hm with ht' | ⟨-, ht'⟩
      · exact ⟨task, List.mem_of_getElem? ht', htask⟩
      · exact ⟨_, List.mem_of_getElem? ht', Task.WaitsOn.unstall_iff.mpr htask⟩
  | none =>
    suffices hbegins : system.waiting? event = some (connection, system.db.clock) from
      waitsOn_of_waiting? hbegins hs
    revert hw
    refine database_step (P := fun db => (db.session connection).waiting = some time → _) hu hs
      ?_ ?_ ?_ ?_ ?_ ?_ ?_
    · exact fun hw => nomatch hbefore.symm.trans hw
    · exact fun db other unended h hw => h (by rwa [Database.waiting_note] at hw)
    · intro other _ hbegins hw
      rcases Database.of_waiting_wait hw with hw | ⟨rfl, hnone, -⟩
      · cases hbefore.symm.trans hw
      · exact hbegins hnone
    · exact fun _ _ h hw => h (Database.waiting_of_close hw)
    · exact fun _ _ _ h => h
    · exact fun _ _ _ h => h
    · exact fun told db _ htells hw => nomatch hbefore.symm.trans (htells.waiting hw)

/-- A statement that waits after a move of its task has waited before, or begins to wait by it. -/
theorem waiting_of_own_move (hold : system.tasks[move.index]? = some old)
    (h : system.WaitsOn connection → (system.db.session connection).waiting.isSome = true)
    (hs : system.step (.move move) = some after) (ht : after.tasks[move.index]? = some task)
    (hnone : after.db.transaction? connection = none) (htask : task.WaitsOn connection) :
    (after.db.session connection).waiting.isSome = true := by
  have hunsent : task.stage.isSent ≠ false := by simp [htask.isSent]
  have hlt := (List.getElem?_eq_some_iff.mp hold).1
  cases System.moves (Twists.any system) hs with
  | connected => exact absurd (not_isSent_carryOn ht hlt) hunsent
  | turnedAway => exact absurd (not_isSent_carryOn ht hlt) hunsent
  | gaveUp => exact absurd (not_isSent_carryOn ht hlt) hunsent
  | leftBehind _ hown _ hstage =>
    obtain rfl := Option.some.inj (hold.symm.trans hown)
    obtain rfl := Option.some.inj ((List.getElem?_set_self hlt).symm.trans ht)
    obtain ⟨hc, _, _, _, _, hsent, hq⟩ := htask
    cases hsent
    exact h ⟨hnone, old, List.mem_of_getElem? hold, hc, _, _, _, _, hstage, hq⟩
  | @arrived arrival harrival ha =>
    have hindex := ha.index
    have htasks : arrival.system.tasks = system.tasks := by rw [ha.meets.eq]
    have hown := ha.connection
    rw [← htasks, ← hindex] at hlt
    rw [← hindex] at ht
    obtain ⟨⟨index, sender, own, statement, next⟩, met, fate⟩ := arrival
    dsimp only at hlt hown
    cases fate with
    | answered =>
      dsimp only [settle] at ht
      exact absurd (not_isSent_carryOn ht hlt) hunsent
    | held db twist hold =>
      obtain rfl := Option.some.inj ((List.getElem?_set_self hlt).symm.trans ht)
      obtain ⟨hc, _, _, _, since, hstage, -⟩ := htask
      obtain rfl := Option.some.inj (hown.symm.trans hc)
      cases hstage
      rcases (due_of_arrival harrival).held rfl with ⟨hother, -⟩ | ⟨-, hlocked, hdb⟩
      · exact absurd rfl (hother since)
      · have hopen : (system.db.wait own).transaction? own = none := hdb ▸ hnone
        rw [Database.transaction?_wait] at hopen
        exact (waitsOn_of_held harrival rfl hlocked hopen).2

/-- The arrival of every statement that waits is noted. -/
theorem waiting_step (ho : Orderly [] [] system) (hs : system.step event = some after)
    (h : ∀ connection, system.WaitsOn connection →
      (system.db.session connection).waiting.isSome = true)
    (hwaits : after.WaitsOn connection) :
    (after.db.session connection).waiting.isSome = true := by
  obtain ⟨hnone, task, hmem, htask⟩ := hwaits
  obtain ⟨index, ht⟩ := List.mem_iff_getElem?.mp hmem
  cases hold : system.tasks[index]? with
  | none =>
    have hsent := htask.isSent
    rcases new_of_step hs ht hold with ⟨_, rfl⟩ | ⟨_, _, _, -, rfl⟩
    · cases hsent
    · rw [isSent_proceed] at hsent
      cases hsent
  | some old =>
    by_cases hm : event.mover? = some index
    · obtain ⟨move, rfl, rfl⟩ := mover?_eq_some hm
      exact waiting_of_own_move hold (h connection) hs ht hnone htask
    · have hwaits : old.WaitsOn connection := by
        rcases getElem?_step hs hold hm with ht' | ⟨-, ht'⟩ <;>
          obtain rfl := Option.some.inj (ht'.symm.trans ht)
        · exact htask
        · exact Task.WaitsOn.unstall_iff.mp htask
      have huntouched := (spares_of_claims ho hs hold hwaits.mem_claims hm).untouched
      rw [huntouched.session]
      exact h connection ⟨huntouched.transaction?.symm.trans hnone, old, List.mem_of_getElem? hold,
        hwaits⟩

end System

variable {db : Database} {capacity : Nat} {past : Past} {system : System} {connection : Nat}

/-- The arrival of a statement is noted on a connection exactly as long as one waits there for a lock
that stands alone. -/
theorem Run.waiting_iff (h : Run (.start db capacity) past system) (hrest : db.AtRest) :
    (system.db.session connection).waiting.isSome = true ↔ system.WaitsOn connection := by
  have ho := System.orderly_start hrest capacity
  induction h generalizing connection with
  | refl =>
    refine ⟨fun hw => ?_, fun ⟨_, _, hmem, _⟩ => nomatch hmem⟩
    simp [System.start, Database.session, hrest.sessions, Session.fresh] at hw
  | step hrun hs ih =>
    refine ⟨fun hw => ?_, System.waiting_step (hrun.orderly ho) hs fun _ => ih.mpr⟩
    obtain ⟨time, hw⟩ := Option.isSome_iff_exists.mp hw
    exact System.waitsOn_step (hrun.underway ho (System.underway_start db capacity)) (hrun.orderly ho) hs
      (fun _ _ hw => ih.mp (Option.isSome_of_eq_some hw)) hw

end Passbook
