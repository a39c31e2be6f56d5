import Passbook.Proofs.Deadlock.Faultless
import Passbook.Proofs.Undisturbed.Serving

/-! # What a task does in a system without faults

Each move of a task written out: it gets its connection or is turned away, its statement is heard at once
or once the lock is free (`System.hear`), it has waited too long, or its caller gives up. -/

namespace Passbook

/-- Whether a task can make such a move at that stage. -/
def Move.suits : Move → Stage → Bool
  | connect _, .queued .. | turnAway _, .queued .. => true
  | send _, .ready .. => true
  | wake _, .sent .. | expire _, .sent .. => true
  | abandon _, stage => stage.isBounded
  | _, _ => false

namespace System

open Database

variable {system after : System} {index connection : Nat} {task : Task} {statement : Statement}
  {next : statement.Answer → Work Reply}

theorem suits_of_connect {stage : Stage} {next : Except StorageError Unit → Work Reply}
    (hwork : stage.work = .connect next) (index : Nat) :
    Move.suits (.connect index) stage = true ∧ Move.suits (.turnAway index) stage = true := by
  cases stage with
  | queued => exact ⟨rfl, rfl⟩
  | ready | sent | finished => cases hwork

theorem suits_of_step {move : Move} (ht : system.tasks[move.index]? = some task)
    (hs : system.step (.move move) = some after) : move.suits task.stage = true := by
  change system.move move = some after at hs
  cases moves (Twists.any system) hs with
  | connected hmove hown hwork =>
    cases ht.symm.trans hown
    rw [hmove]
    exact (suits_of_connect hwork _).1
  | turnedAway _ hmove hown hwork =>
    cases ht.symm.trans hown
    rw [hmove]
    exact (suits_of_connect hwork _).2
  | arrived ha harrives =>
    cases ht.symm.trans harrives.task
    have hwork := harrives.stage
    have hsend := harrives.send
    generalize Sending.task _ = task at hwork hsend
    cases hstage : task.stage with
    | queued | finished => rw [hstage] at hwork; cases hwork
    | ready =>
      rw [hsend.mpr (by rw [hstage]; rfl)]
      rfl
    | sent =>
      cases move with
      | wake | expire => rfl
      | send => cases (congrArg Stage.isSent hstage).symm.trans (hsend.mp rfl)
      | connect | turnAway | abandon => cases ha
  | gaveUp hmove hown _ hb =>
    cases ht.symm.trans hown
    rw [hmove]
    exact hb
  | leftBehind hmove hown _ hstage hend =>
    cases ht.symm.trans hown
    rw [hmove, hstage]
    simp [Move.suits, Stage.isBounded, hend]

/-- A move that does not suit the stage of the task cannot happen. -/
theorem step_eq_none {move : Move} (ht : system.tasks[move.index]? = some task)
    (h : move.suits task.stage = false) : system.step (.move move) = none :=
  Option.eq_none_iff_forall_ne_some.mpr fun _ hs =>
    Bool.false_ne_true (h.symm.trans (suits_of_step ht hs))

/-- A statement without faults is answered and the task goes on, or it waits for a lock. -/
def hear (system : System) (index : Nat) (task : Task) (connection : Nat) (statement : Statement)
    (next : statement.Answer → Work Reply) : System :=
  match system.db.heed connection statement with
  | some (db, answer) => carryOn { system with db } index task (next answer)
  | none =>
    { system with db := system.db.wait connection }.setTask index
      { task with stage := .sent statement next .none (.locked system.now) }

theorem blocked_of_heed (h : system.db.heed connection statement = none) :
    (system.db.session connection).alive = true ∧
      system.db.refusesAborted connection statement = false ∧ statement ≠ .begin ∧
      system.db.run connection statement = .blocked := by
  unfold heed at h
  split at h
  · cases h
  split at h
  · cases h
  rename_i halive haborted
  split at h
  · rename_i hr
    by_cases hb : statement = .begin
    · subst hb
      cases hr
    · rw [if_neg hb] at hr
      exact ⟨by simpa using halive, by simpa using haborted, hb, hr⟩
  · cases h

theorem step_send_eq (hf : system.faults = []) (ht : system.tasks[index]? = some task)
    (hs : task.stage = .ready statement next) (hc : task.connections.head? = some connection) :
    system.step (.move (.send index)) = some (system.hear index task connection statement next) := by
  unfold hear
  cases hheed : system.db.heed connection statement with
  | some answered => exact step_send hf ht hs hc hheed
  | none =>
    obtain ⟨halive, haborted, hb, hr⟩ := blocked_of_heed hheed
    obtain ⟨db, now, faults, capacity, closed, inUse, nextConnection, tasks⟩ := system
    obtain rfl : faults = [] := hf
    dsimp only at ht halive haborted hr
    simp [step, move, arrival?, ht, hs, hc, send, halive, haborted, hb, ArmedFault.strike, meet, attempt,
      hr, settle]

theorem step_wake_eq {since : Nat} (ht : system.tasks[index]? = some task)
    (hs : task.stage = .sent statement next .none (.locked since))
    (hc : task.connections.head? = some connection)
    (halive : (system.db.session connection).alive = true) (hq : statement.isQuery = true)
    (ho : system.db.obstacle? connection statement = none) :
    system.step (.move (.wake index)) = some (system.hear index task connection statement next) := by
  have hb := Statement.ne_begin_of_isQuery hq
  have hend := Statement.isEnd_of_isQuery hq
  have hrun := run_eq_of_isQuery system.db connection hq
  simp only [ho, Option.isSome_none, Bool.false_eq_true, if_false] at hrun
  unfold hear heed
  by_cases haborted : system.db.refusesAborted connection statement = true
  · rw [if_pos haborted] at hrun
    simp [step, move, arrival?, ht, hs, hc, mayWake, ho, attempt, hrun, halive, haborted, settle,
      twisted, hend]
  · rw [if_neg haborted] at hrun
    simp [step, move, arrival?, ht, hs, hc, mayWake, ho, attempt, hrun, halive, haborted, hb, settle,
      twisted_none, hend]

theorem of_step_connect {since : Nat} {next : Except StorageError Unit → Work Reply}
    (ht : system.tasks[index]? = some task) (hstage : task.stage = .queued since next)
    (hs : system.step (.move (.connect index)) = some after) :
    after = { system with
        inUse := system.nextConnection :: system.inUse
        nextConnection := system.nextConnection + 1 }.carryOn index
      { task with connections := system.nextConnection :: task.connections } (next (.ok ())) := by
  simp only [step, System.move, Option.bind_eq_bind, ht, Option.bind_some, hstage, Option.pure_def,
    Option.bind_eq_some_iff] at hs
  obtain ⟨_, -, hs⟩ := hs
  cases hs
  rw [hstage]

theorem of_step_turnAway {since : Nat} {next : Except StorageError Unit → Work Reply}
    (ht : system.tasks[index]? = some task) (hstage : task.stage = .queued since next)
    (hs : system.step (.move (.turnAway index)) = some after) :
    after = system.carryOn index task
      (next (.error (if system.closed then .poolClosed else .poolTimedOut))) := by
  simp only [step, System.move, Option.bind_eq_bind, ht, Option.bind_some, hstage, Option.pure_def] at hs
  split at hs
  · rename_i hclosed
    cases hs
    rw [if_pos hclosed]
  · rename_i hopen
    obtain ⟨_, -, hs⟩ := Option.bind_eq_some_iff.mp hs
    cases hs
    rw [if_neg hopen]

theorem free_of_step_wake {since : Nat} {twist : Twist} (ht : system.tasks[index]? = some task)
    (hstage : task.stage = .sent statement next twist (.locked since))
    (hs : system.step (.move (.wake index)) = some after) :
    ∃ connection, task.connections.head? = some connection ∧
      system.db.obstacle? connection statement = none := by
  simp only [step, System.move, arrival?, Option.bind_eq_bind, ht, Option.bind_some, hstage,
    Option.pure_def, Option.map_eq_some_iff, Option.bind_eq_some_iff, mayWake] at hs
  obtain ⟨_, ⟨connection, hc, _, hwake, -⟩, -⟩ := hs
  exact ⟨connection, hc, by simpa using hwake⟩

theorem of_step_wake {since : Nat} {twist : Twist} (ht : system.tasks[index]? = some task)
    (hstage : task.stage = .sent statement next twist (.locked since))
    (hc : task.connections.head? = some connection)
    (hs : system.step (.move (.wake index)) = some after) :
    system.db.obstacle? connection statement = none := by
  obtain ⟨own, hown, hfree⟩ := free_of_step_wake ht hstage hs
  cases hc.symm.trans hown
  exact hfree

theorem limit_of_step_expire {hold : Hold} {twist : Twist} (ht : system.tasks[index]? = some task)
    (hstage : task.stage = .sent statement next twist hold)
    (hc : task.connections.head? = some connection)
    (hs : system.step (.move (.expire index)) = some after) :
    (system.lockWaitEnd? connection hold).isSome = true := by
  simp only [step, System.move, arrival?, Option.bind_eq_bind, ht, Option.bind_some, hstage, hc,
    Option.pure_def, Option.map_eq_some_iff, Option.bind_eq_some_iff] at hs
  obtain ⟨_, ⟨_, hlimit, -⟩, -⟩ := hs
  exact Option.isSome_iff_exists.mpr ⟨_, hlimit⟩

theorem of_step_expire {since : Nat} {twist : Twist} (ht : system.tasks[index]? = some task)
    (hstage : task.stage = .sent statement next twist (.locked since))
    (hc : task.connections.head? = some connection) (hend : statement.isEnd = false)
    (hs : system.step (.move (.expire index)) = some after) :
    after = carryOn { system with db := system.db.abort connection } index task
      (next (.error (.rejected .lockTimeout))) := by
  simp only [step, System.move, arrival?, Option.bind_eq_bind, ht, Option.bind_some, hstage, hc,
    Option.pure_def, Option.map_eq_some_iff, Option.bind_eq_some_iff, Option.guard_eq_some'] at hs
  obtain ⟨_, ⟨_, -, _, -, harrival⟩, rfl⟩ := hs
  cases harrival
  simp [settle, refuse, hend]

theorem isSome_expire {hold : Hold} {twist : Twist} {limit : Nat}
    (ht : system.tasks[index]? = some task)
    (hstage : task.stage = .sent statement next twist hold)
    (hc : task.connections.head? = some connection)
    (hlimit : system.lockWaitEnd? connection hold = some limit) (hlate : limit ≤ system.now) :
    (system.step (.move (.expire index))).isSome = true := by
  simp [step, System.move, arrival?, ht, hstage, hc, hlimit, hlate]

/-- The caller gives up: the task leaves at once, or when the statement that is under way has been
answered. -/
theorem of_step_abandon (ht : system.tasks[index]? = some task)
    (hs : system.step (.move (.abandon index)) = some after) :
    ∃ deadline, task.deadline = some deadline ∧ task.stage.isBounded = true ∧
      ((task.stage.isSent = false ∧ after = system.carryOn index
          { task with
            deadline := none
            reply := task.reply <|> some (.failed (.timeout deadline.unit)) } task.leave) ∨
        ∃ statement next twist hold, task.stage = .sent statement next twist hold ∧
          after = system.setTask index
            { task with
              deadline := none
              reply := task.reply <|> some (.failed (.timeout deadline.unit))
              stage := .sent statement (fun _ => task.leave) twist hold }) := by
  simp only [step, System.move, Option.bind_eq_bind, ht, Option.bind_some, Option.bind_eq_some_iff,
    Option.pure_def, Option.guard_eq_some', Bool.and_eq_true] at hs
  obtain ⟨deadline, hd, _, ⟨hb, -⟩, hs⟩ := hs
  refine ⟨deadline, hd, hb, ?_⟩
  split at hs
  · rename_i statement next twist hold hstage
    cases hs
    exact .inr ⟨_, _, _, _, hstage, rfl⟩
  · rename_i hstage
    cases hs
    refine .inl ⟨?_, rfl⟩
    cases hown : task.stage with
    | sent => exact absurd hown (hstage _ _ _ _)
    | _ => rfl

end System

end Passbook
