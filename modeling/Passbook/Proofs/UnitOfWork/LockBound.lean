import Passbook.Proofs.Database.LockBound
import Passbook.Proofs.Settings
import Passbook.Proofs.Transfer.Moved

/-! # The bound on the lock waits of a unit of work

A unit of work sets the bound of its runner, if there is one, before its body begins. In every run it is
in force whenever the unit waits for a lock, if it is of 1 to `maxLockTimeout` milliseconds
(`lockBound_extent`). A greater one is refused, and the unit fails before it has begun with its body; one
of less than a millisecond is told as zero, which is none. The invariant is `Limited`: what bound the
connection of the unit has when the unit has come so far. -/

namespace Passbook

namespace UnitOfWork

open Passbook.System

variable {Allowed : Twist → Prop} {unit : UnitOfWork} {past : Past} {system after : System}
  {event : Event} {db db' : Database} {index connection : Nat} {task : Task} {phase phase' : Phase}
  {statement : Statement} {ran : Bool} {answer : statement.Answer} {reply : Reply}

/-- The bound as the unit tells it; zero stands for none. -/
def boundMillis (unit : UnitOfWork) : Nat := (unit.runner.lockTimeout.map Duration.millis).getD 0

/-- The database takes the bound of the unit, or the unit has none. -/
def Admitted (unit : UnitOfWork) : Prop := unit.boundMillis ≤ Database.maxLockTimeout

/-- What the unit may ask for. If its bound is refused it does not come to its body. -/
inductive MayAsk (unit : UnitOfWork) : Statement → Prop
  | begin : unit.MayAsk .begin
  | limit {bound : Duration} : unit.runner.lockTimeout = some bound →
      unit.MayAsk (.setLockTimeout bound.millis)
  | working {statement : Statement} : unit.Admitted →
      statement.isQuery = true ∨ statement.isEnd = true → unit.MayAsk statement

/-- The bound of the unit is in force, or the connection is lost. -/
def InForce (unit : UnitOfWork) (db : Database) (connection : Nat) : Prop :=
  db.lockTimeoutMillis connection = unit.boundMillis ∨ (db.session connection).alive = false

/-- The bound on the connection when the unit has come so far. -/
def Limited (unit : UnitOfWork) (db : Database) (connection : Nat) : Phase → Prop
  | .beginning => db.transaction? connection = none
  | .limiting millis => (∃ bound, unit.runner.lockTimeout = some bound ∧ millis = bound.millis) ∧
      ∃ transaction, db.transaction? connection = some transaction
  | .working _ => unit.Admitted ∧ unit.InForce db connection

theorem boundMillis_of_some {bound : Duration} (h : unit.runner.lockTimeout = some bound) :
    unit.boundMillis = bound.millis := by
  rw [boundMillis, h]
  rfl

theorem boundMillis_of_none (h : unit.runner.lockTimeout = none) : unit.boundMillis = 0 := by
  rw [boundMillis, h]
  rfl

theorem InForce.congr (h : unit.InForce db connection)
    (ht : db'.transaction? connection = db.transaction? connection)
    (halive : (db'.session connection).alive = (db.session connection).alive) :
    unit.InForce db' connection := by
  unfold InForce at h ⊢
  rwa [Database.lockTimeoutMillis_congr ht, halive]

namespace Limited

theorem congr (h : unit.Limited db connection phase)
    (ht : db'.transaction? connection = db.transaction? connection)
    (halive : (db'.session connection).alive = (db.session connection).alive) :
    unit.Limited db' connection phase := by
  cases phase with
  | beginning => exact ht.trans h
  | limiting => exact ⟨h.1, h.2.imp fun _ => ht.trans⟩
  | working => exact ⟨h.1, h.2.congr ht halive⟩

/-- What belongs to the phase is what the unit may ask for. -/
theorem mayAsk (h : unit.Limited db connection phase)
    (hphase : phase.Obeys (fun statement => statement.isQuery = true) Honest)
    {next : statement.Answer → Work Reply} (ha : unit.Asks phase statement next) :
    unit.MayAsk statement := by
  cases ha with
  | begin => exact .begin
  | limit millis =>
    obtain ⟨⟨bound, hbound, rfl⟩, -⟩ := h
    exact .limit hbound
  | query =>
    cases hphase with
    | exec hq => exact .working h.1 (.inl hq)
  | commit | rollback => exact .working h.1 (.inr rfl)

/-- A statement about rows is asked for under the bound of the unit. -/
theorem inForce (h : unit.Limited db connection phase) {next : statement.Answer → Work Reply}
    (ha : unit.Asks phase statement next) (hq : statement.isQuery = true) :
    unit.InForce db connection := by
  cases ha with
  | begin | limit | commit | rollback => cases hq
  | query => exact h.2

/-- An answer that takes the unit further has set its bound, or has left it as it was. -/
theorem turned (h : unit.Limited db connection phase)
    (hphase : phase.Obeys (fun statement => statement.isQuery = true) Honest)
    (htells : db.Tells Allowed connection statement db' ran answer)
    (hturn : unit.Turn db'.draws phase statement answer phase') : unit.Limited db' connection phase' := by
  cases hturn with
  | @limited rows bound hbound =>
    rcases htells.begin h with ⟨-, -, ht⟩ | ⟨⟨⟩, -⟩
    exact ⟨⟨bound, hbound, rfl⟩, _, ht⟩
  | begun hnone =>
    rcases htells.begin h with ⟨-, -, ht⟩ | ⟨⟨⟩, -⟩
    have hzero := boundMillis_of_none hnone
    refine ⟨?_, .inl ?_⟩
    · rw [Admitted, hzero]
      exact Nat.zero_le _
    · rw [Database.lockTimeoutMillis_of_transaction ht, hzero]
  | bounded =>
    obtain ⟨⟨bound, hbound, rfl⟩, transaction, ht⟩ := h
    obtain ⟨hset, hle⟩ := htells.lockTimeoutMillis_set ht rfl
    rw [← boundMillis_of_some hbound] at hset hle
    exact ⟨hle, .inl hset⟩
  | heard =>
    obtain ⟨hadmitted, hinForce⟩ := h
    refine ⟨hadmitted, ?_⟩
    cases hphase with
    | exec hq _ =>
      rcases hinForce with hinForce | hdead
      · rcases htells.lockTimeoutMillis_query hq with hsame | hlost
        · exact .inl (hsame.trans hinForce)
        · exact .inr hlost
      · obtain ⟨rfl, -, -⟩ := htells.of_dead hdead
        exact .inr hdead

/-- A unit that ends with anything but a failure has come to its body. -/
theorem ended (h : unit.Limited db connection phase) (hends : unit.Ends phase statement answer reply) :
    (∃ failure, reply = .failed failure) ∨ unit.Admitted := by
  cases hends with
  | notBegun | notBounded | unknown | rolledBack => exact .inl ⟨_, rfl⟩
  | committed => exact .inr h.1

end Limited

/-! ## In a system -/

/-- Where a unit stands, and the bound that it stands under. -/
inductive Placed (unit : UnitOfWork) (system : System) (index : Nat) : Prop
  | waiting {task : Task} : system.tasks[index]? = some task → Waiting unit task →
      Placed unit system index
  | asking {task : Task} {connection : Nat} {phase : Phase} : system.tasks[index]? = some task →
      Asking unit task connection phase →
      phase.Obeys (fun statement => statement.isQuery = true) Honest →
      unit.Limited system.db connection phase → Placed unit system index
  | left {task : Task} {connection : Nat} {statement : Statement} {failure : Failure} :
      system.tasks[index]? = some task → Leaving task connection statement →
      unit.MayAsk statement → (statement.isQuery = true → unit.InForce system.db connection) →
      task.reply = some (.failed failure) → Placed unit system index
  | finished {task : Task} {reply : Reply} : system.tasks[index]? = some task →
      task.stage.isFinished = true → task.reply = some reply →
      (∃ failure, reply = .failed failure) ∨ unit.Admitted → Placed unit system index

namespace Placed

/-- Events that move other tasks change nothing about it. -/
theorem step_other (h : unit.Placed system index) (ho : Orderly [] [] system)
    (hs : system.step event = some after) (hm : event.mover? ≠ some index) :
    unit.Placed after index := by
  cases h with
  | waiting ht hwait =>
    obtain ⟨task', ht', hwait'⟩ := hwait.of_step hs ht hm
    exact .waiting ht' hwait'
  | asking ht hask hphase hlimited =>
    have hspares := spares_of_claims ho hs ht hask.mem_claims hm
    obtain ⟨task', ht', hask', -⟩ := hask.of_step hs ht hm
    exact .asking ht' hask' hphase (hlimited.congr hspares.untouched.transaction? hspares.untouched.alive)
  | left ht hl hmay hinForce hreply =>
    have hspares := spares_of_claims ho hs ht hl.mem_claims hm
    obtain ⟨task', ht', hl', hreply'⟩ := hl.of_step hs ht hm
    exact .left ht' hl' hmay
      (fun hq => (hinForce hq).congr hspares.untouched.transaction? hspares.untouched.alive)
      (hreply'.trans hreply)
  | finished ht hf hreply hend => exact .finished (finished_of_step hs ht hf) hf hreply hend

/-- What a move of the unit comes to: it stands somewhere else, and has sent what it may. -/
def Moved (unit : UnitOfWork) (system after : System) (move : Move) : Prop :=
  unit.Placed after move.index ∧ ∀ sent ∈ system.sent? (.move move), unit.MayAsk sent.2

theorem mayAsk_sent {move : Move} (hmay : unit.MayAsk statement)
    (hsent : system.sent? (.move move) =
      if task.stage.isSent then none else some (move.index, statement)) :
    ∀ sent ∈ system.sent? (.move move), unit.MayAsk sent.2 := by
  intro sent hmem
  rw [hsent] at hmem
  split at hmem
  · cases hmem
  · cases hmem
    exact hmay

theorem mayAsk_unsent {move : Move} (h : system.sent? (.move move) = none) :
    ∀ sent ∈ system.sent? (.move move), unit.MayAsk sent.2 := by
  intro sent hmem
  rw [h] at hmem
  cases hmem

theorem step_waiting {move : Move} (ht : system.tasks[move.index]? = some task)
    (hwait : Waiting unit task) (ho : Orderly [] [] system)
    (hs : system.step (.move move) = some after) : Moved unit system after move := by
  have hlt := (List.getElem?_eq_some_iff.mp ht).1
  cases hwait.goes ht hs with
  | connected hmove _ hasks =>
    refine ⟨.asking (getElem?_setTask_self hlt _) ⟨rfl, hwait.reply, _, _, rfl, hasks⟩ trivial ?_, ?_⟩
    · have hfresh := ho.fresh _ fun hin => Nat.lt_irrefl _ (ho.lt_next _ hin)
      change (system.db.session system.nextConnection).transaction = none
      rw [hfresh]
      rfl
    · exact mayAsk_unsent (by rw [hmove]; rfl)
  | dismissed deadline failure _ _ hmove =>
    refine ⟨.finished (getElem?_setTask_self hlt _) rfl rfl (.inl ⟨_, rfl⟩), mayAsk_unsent ?_⟩
    rcases hmove with ⟨_, hmove, -⟩ | hmove <;> rw [hmove] <;> rfl

theorem step_asking {move : Move} (ht : system.tasks[move.index]? = some task)
    (hask : Asking unit task connection phase) (hbody : IsBody unit.body.run)
    (hphase : phase.Obeys (fun statement => statement.isQuery = true) Honest)
    (hlimited : unit.Limited system.db connection phase) (hu : system.Underway)
    (hs : system.step (.move move) = some after) : Moved unit system after move := by
  have hlt := (List.getElem?_eq_some_iff.mp ht).1
  have hplace : ∀ db faults task', (({ system with db, faults }.giveBack connection).setTask
      move.index task').tasks[move.index]? = some task' :=
    fun db faults => @getElem?_setTask_giveBack { system with db, faults } _ hlt connection
  cases hask.goes hbody hphase (Twists.any system) hu ht hs with
  | held twist hold hw hasks _ hsent _ _ hdb =>
    exact ⟨.asking (getElem?_setTask_self hlt _) ⟨hask.connections, hask.reply, _, _, rfl, hasks⟩
      hphase (hlimited.congr (hdb.transaction? _) (hdb.alive _)), mayAsk_sent (hlimited.mayAsk hphase hasks) hsent⟩
  | turned ran answer hw hasks _ hsent htells hturn hasks' =>
    exact ⟨.asking (getElem?_setTask_self hlt _) ⟨hask.connections, hask.reply, _, _, rfl, hasks'⟩
      (hturn.obeys hbody hphase) ((hlimited.turned hphase htells hturn).congr rfl rfl),
      mayAsk_sent (hlimited.mayAsk hphase hasks) hsent⟩
  | ended ran answer hw hasks _ hsent _ hends =>
    exact ⟨.finished (hplace ..) rfl rfl (hlimited.ended hends),
      mayAsk_sent (hlimited.mayAsk hphase hasks) hsent⟩
  | quit deadline hw hasks _ hmove =>
    exact ⟨.finished (hplace system.db system.faults _) rfl rfl (.inl ⟨_, rfl⟩),
      mayAsk_unsent (by rw [hmove]; rfl)⟩
  | left deadline twist hold hw hasks _ hmove _ hstage =>
    exact ⟨.left (getElem?_setTask_self hlt _) ⟨hask.connections, rfl, rfl⟩
      (hlimited.mayAsk hphase hasks) (hlimited.inForce hasks) rfl,
      mayAsk_unsent (by rw [hmove]; rfl)⟩

theorem step_left {move : Move} {failure : Failure} (ht : system.tasks[move.index]? = some task)
    (hl : Leaving task connection statement) (hmay : unit.MayAsk statement)
    (hinForce : statement.isQuery = true → unit.InForce system.db connection)
    (hreply : task.reply = some (.failed failure)) (hu : system.Underway)
    (hs : system.step (.move move) = some after) : Moved unit system after move := by
  have hlt := (List.getElem?_eq_some_iff.mp ht).1
  cases hl.goes (Twists.any system) hu ht hs with
  | held twist hold _ hsent _ _ hdb =>
    refine ⟨.left (getElem?_setTask_self hlt _) ⟨hl.connections, hl.deadline, rfl⟩ hmay ?_ hreply,
      mayAsk_sent hmay hsent⟩
    exact fun hq => (hinForce hq).congr (hdb.transaction? connection) (hdb.alive connection)
  | told ran answer _ hsent _ =>
    exact ⟨.finished (getElem?_setTask_giveBack (by exact hlt) connection _) rfl (by rw [hreply]; rfl)
      (.inl ⟨_, rfl⟩), mayAsk_sent hmay hsent⟩

/-- Every event leaves the unit under its bound, and sends no more for it than it may ask for. -/
theorem step (h : unit.Placed system index) (hbody : IsBody unit.body.run)
    (ho : Orderly [] [] system) (hu : system.Underway) (hs : system.step event = some after) :
    unit.Placed after index ∧
      ∀ statement, system.sent? event = some (index, statement) → unit.MayAsk statement := by
  by_cases hm : event.mover? = some index
  · obtain ⟨move, rfl, rfl⟩ := mover?_eq_some hm
    suffices hmoved : Moved unit system after move from
      ⟨hmoved.1, fun statement hsent => hmoved.2 (move.index, statement) hsent⟩
    cases h with
    | waiting ht hwait => exact step_waiting ht hwait ho hs
    | asking ht hask hphase hlimited => exact step_asking ht hask hbody hphase hlimited hu hs
    | left ht hl hmay hinForce hreply => exact step_left ht hl hmay hinForce hreply hu hs
    | finished ht hf => exact absurd rfl (not_mover_of_finished hs ht hf)
  · exact ⟨h.step_other ho hs hm, fun statement hsent => absurd (sent?_index hsent) hm⟩

end Placed

/-! ## In a run -/

/-- In every run the unit stands under its bound, and all that it has sent it may ask for. -/
theorem placed_of_spawn {db : Database} {capacity : Nat} {before : System}
    {deadline : Option Deadline} (hrest : db.AtRest) (hrun : Run (.start db capacity) past system)
    (hspawn : (before, .spawn [] deadline unit.work) ∈ past) (hbody : IsBody unit.body.run) :
    unit.Placed system before.tasks.length ∧
      ∀ statement, past.Sent before.tasks.length statement → unit.MayAsk statement := by
  refine hrun.holds_of_spawn (motive := fun past system => unit.Placed system before.tasks.length ∧
      ∀ statement, past.Sent before.tasks.length statement → unit.MayAsk statement) hrest hspawn
    (fun past system task ht hwait hunmoved => ?_) ?_
  · exact ⟨.waiting ht hwait, fun statement hsent => absurd hsent (hunmoved.sent statement)⟩
  · rintro past system after event - ho hu hs ⟨hplaced, hmay⟩
    obtain ⟨hplaced', hmay'⟩ := hplaced.step hbody ho hu hs
    refine ⟨hplaced', fun statement hsent => ?_⟩
    rw [Past.sent_concat] at hsent
    exact hsent.elim (hmay statement) (hmay' statement)

/-! ## What becomes of the bound -/

/-- The connection on which a statement about rows waits for the lock of a row, and since when. -/
def lockWait? (system : System) (index : Nat) : Option (Nat × Nat) := do
  let task ← system.tasks[index]?
  let .sent statement _ _ (.locked since) := task.stage | none
  let connection ← task.connections.head?
  if statement.isQuery then some (connection, since) else none

theorem exists_of_lockWait {since : Nat} (h : lockWait? system index = some (connection, since)) :
    ∃ (task : Task) (statement : Statement) (next : statement.Answer → Work Reply) (twist : Twist),
      system.tasks[index]? = some task ∧ task.connections.head? = some connection ∧
        task.stage = .sent statement next twist (.locked since) ∧ statement.isQuery = true := by
  obtain ⟨task, ht, h⟩ := Option.bind_eq_some_iff.mp h
  split at h
  · rename_i statement next twist since' hstage
    obtain ⟨connection', hc, h⟩ := Option.bind_eq_some_iff.mp h
    split at h
    · rename_i hq
      cases h
      exact ⟨task, statement, next, twist, ht, hc, hstage, hq⟩
    · cases h
  · cases h

/-- What becomes of the bound of a unit. Without one, none is set (`unset`), and no other is set than
that of the runner (`set`). One that is kept ends every wait for a lock (`kept`), none and one of less
than a millisecond end no wait (`endless`), and with one that is out of range nothing of the body is
asked for, and the unit fails (`refused`). -/
structure LockBound (unit : UnitOfWork) (past : Past) (system : System) (index : Nat) : Prop where
  unset : unit.runner.lockTimeout = none → ∀ millis, ¬ past.Sent index (.setLockTimeout millis)
  set : ∀ bound, unit.runner.lockTimeout = some bound →
    ∀ millis, past.Sent index (.setLockTimeout millis) → millis = bound.millis
  kept : ∀ bound, unit.runner.lockTimeout = some bound → bound.IsKept →
    ∀ connection since, lockWait? system index = some (connection, since) →
      system.lockWaitEnd? connection (.locked since) =
        some (since + (Duration.ofMillis bound.millis).nanos)
  endless : unit.boundMillis = 0 →
    ∀ connection since, lockWait? system index = some (connection, since) →
      system.lockWaitEnd? connection (.locked since) = none
  refused : ∀ bound, unit.runner.lockTimeout = some bound → Database.maxLockTimeout < bound.millis →
    (∀ statement, past.Sent index statement →
      statement = .begin ∨ statement = .setLockTimeout bound.millis) ∧
    ∀ reply, system.reply? index = some reply → ∃ failure, reply = .failed failure

theorem Placed.lockTimeoutMillis_eq (h : unit.Placed system index) (hu : system.Underway)
    {since : Nat} (hwaits : lockWait? system index = some (connection, since)) :
    system.db.lockTimeoutMillis connection = unit.boundMillis := by
  obtain ⟨task, statement, next, twist, ht, hc, hstage, hq⟩ := exists_of_lockWait hwaits
  have halive := hu index task connection ht (by rw [hstage]; rfl) hc
  have hwork : task.stage.work = .exec statement next := by rw [hstage]; rfl
  suffices hinForce : unit.InForce system.db connection by
    rcases hinForce with hsame | hdead
    · exact hsame
    · cases halive.symm.trans hdead
  cases h with
  | waiting ht' hwait =>
    obtain rfl := Option.some.inj (ht.symm.trans ht')
    rw [hwait.connections] at hc
    cases hc
  | asking ht' hask _ hlimited =>
    obtain rfl := Option.some.inj (ht.symm.trans ht')
    obtain ⟨_, _, hw, hasks⟩ := hask.asks
    cases hwork.symm.trans hw
    rw [hask.connections] at hc
    cases hc
    exact hlimited.inForce hasks hq
  | left ht' hl _ hinForce =>
    obtain rfl := Option.some.inj (ht.symm.trans ht')
    cases hwork.symm.trans hl.work
    have hc' := hl.connections
    rw [hc'] at hc
    cases hc
    exact hinForce hq
  | finished ht' hf =>
    obtain rfl := Option.some.inj (ht.symm.trans ht')
    rw [hstage] at hf
    cases hf

/-- A unit whose bound is refused has no reply but a failure. -/
theorem Placed.failed (h : unit.Placed system index) (hrefused : ¬ unit.Admitted)
    (hreply : system.reply? index = some reply) : ∃ failure, reply = .failed failure := by
  cases h with
  | waiting ht hwait =>
    rw [reply?, ht, Option.bind_some, hwait.reply] at hreply
    cases hreply
  | asking ht hask =>
    rw [reply?, ht, Option.bind_some, hask.reply] at hreply
    cases hreply
  | left ht _ _ _ hfailed =>
    rw [reply?, ht, Option.bind_some, hfailed] at hreply
    cases hreply
    exact ⟨_, rfl⟩
  | finished ht _ hover hend =>
    rw [reply?, ht, Option.bind_some, hover] at hreply
    cases hreply
    exact hend.resolve_right hrefused

theorem MayAsk.bound {millis : Nat} (h : unit.MayAsk (.setLockTimeout millis)) :
    ∃ bound, unit.runner.lockTimeout = some bound ∧ millis = bound.millis := by
  cases h with
  | limit hbound => exact ⟨_, hbound, rfl⟩
  | working _ h => cases h <;> contradiction

theorem lockBound_of_placed (hplaced : unit.Placed system index)
    (hmay : ∀ statement, past.Sent index statement → unit.MayAsk statement)
    (hu : system.Underway) : unit.LockBound past system index where
  unset hnone millis hsent := by
    obtain ⟨bound, hbound, -⟩ := (hmay _ hsent).bound
    cases hnone.symm.trans hbound
  set bound hbound millis hsent := by
    obtain ⟨bound', hbound', rfl⟩ := (hmay _ hsent).bound
    rw [Option.some.inj (hbound.symm.trans hbound')]
  kept bound hbound hkept connection since hwaits := by
    have hmillis := hplaced.lockTimeoutMillis_eq hu hwaits
    rw [boundMillis_of_some hbound] at hmillis
    have hpos : bound.millis ≠ 0 := Nat.ne_of_gt hkept.1
    simp only [lockWaitEnd?, hmillis, hpos, if_false]
  endless hzero connection since hwaits := by
    have hmillis := hplaced.lockTimeoutMillis_eq hu hwaits
    simp only [lockWaitEnd?, hmillis, hzero, if_true]
  refused bound hbound hlt := by
    have hrefused : ¬ unit.Admitted := by
      rw [Admitted, boundMillis_of_some hbound]
      exact Nat.not_le_of_lt hlt
    refine ⟨fun statement hsent => ?_, fun reply => hplaced.failed hrefused⟩
    cases hmay statement hsent with
    | begin => exact .inl rfl
    | @limit bound' hbound' =>
      rw [Option.some.inj (hbound.symm.trans hbound')]
      exact .inr rfl
    | working hadmitted => exact absurd hadmitted hrefused

end UnitOfWork

/-! ## What is configured -/

/-- The bound that is configured is a number of milliseconds, and zero is none. -/
theorem Settings.exists_lockMillis {env : Environment} {settings : Settings}
    (h : ofEnvironment env = .ok settings) :
    ∃ millis, numberAt env "LOCK_TIMEOUT_MS" 3000 maxMillis = .ok millis ∧
      settings.lockTimeout = if millis = 0 then none else some (.ofMillis millis) := by
  obtain ⟨millis, hgives, hbound⟩ := (ofEnvironment_eq_ok_iff.mp h).lockTimeout
  exact ⟨millis, numberAt_eq_ok_iff.mpr hgives, hbound⟩

/-- Of a bound that is configured, the one that the runner has is kept unless it is out of range. -/
theorem Runner.lockTimeout_ofSettings {env : Environment} {settings : Settings}
    (h : Settings.ofEnvironment env = .ok settings) :
    ∃ millis, Settings.numberAt env "LOCK_TIMEOUT_MS" 3000 Settings.maxMillis = .ok millis ∧
      ((ofSettings settings).lockTimeout = none ↔ millis = 0) ∧
      ∀ bound, (ofSettings settings).lockTimeout = some bound →
        bound.millis = millis ∧ (bound.IsKept ↔ millis ≤ Database.maxLockTimeout) := by
  obtain ⟨millis, hnumber, hbound⟩ := Settings.exists_lockMillis h
  refine ⟨millis, hnumber, ?_, fun bound hsome => ?_⟩
  · change settings.lockTimeout = none ↔ millis = 0
    rw [hbound]
    split <;> simp_all
  · change settings.lockTimeout = some bound at hsome
    rw [hbound] at hsome
    split at hsome
    · cases hsome
    · cases hsome
      rename_i hne
      rw [Duration.IsKept, Duration.millis_ofMillis]
      exact ⟨rfl, fun h => h.2, fun h => ⟨Nat.pos_of_ne_zero hne, h⟩⟩

namespace UnitOfWork

open Passbook.System

variable {unit : UnitOfWork} {past : Past} {system : System}

/-- The bound on lock waits, from what is configured to the waits of a unit of work in any run. As a
text it stands for its whole milliseconds, which the database takes up to `maxLockTimeout`, so one that
is configured is kept unless it is greater. -/
theorem lockBound_extent {db : Database} {capacity : Nat} {before : System}
    {deadline : Option Deadline} (hrest : db.AtRest) (hbody : IsBody unit.body.run)
    (hrun : Run (.start db capacity) past system)
    (hspawn : (before, .spawn [] deadline unit.work) ∈ past) :
    unit.LockBound past system before.tasks.length ∧
    (∀ bound : Duration, Duration.millisOfText? bound.lockTimeoutText = some bound.millis ∧
      (bound.IsKept ↔ 1000000 ≤ bound.nanos ∧ bound.nanos < 2147483648000000)) ∧
    (∀ (db : Database) (connection : Nat) (transaction : Transaction) (millis : Nat),
      db.transaction? connection = some transaction → transaction.aborted = false →
      ((∃ db', db.run connection (.setLockTimeout millis) = .answered db' (.ok [])) ↔
        millis ≤ Database.maxLockTimeout)) ∧
    ∀ env settings, Settings.ofEnvironment env = .ok settings →
      ∃ millis, Settings.numberAt env "LOCK_TIMEOUT_MS" 3000 Settings.maxMillis = .ok millis ∧
        ((Runner.ofSettings settings).lockTimeout = none ↔ millis = 0) ∧
        ∀ bound, (Runner.ofSettings settings).lockTimeout = some bound →
          bound.millis = millis ∧ (bound.IsKept ↔ millis ≤ Database.maxLockTimeout) := by
  obtain ⟨hplaced, hmay⟩ := placed_of_spawn hrest hrun hspawn hbody
  have hu := hrun.underway (orderly_start hrest capacity) (underway_start db capacity)
  exact ⟨lockBound_of_placed hplaced hmay hu,
    fun bound => ⟨bound.millisOfText?_lockTimeoutText, bound.isKept_iff⟩,
    fun _ _ _ millis ht ha => Database.run_setLockTimeout_iff ht ha millis,
    fun _ _ => Runner.lockTimeout_ofSettings⟩

/-- A transfer of 30, as a runner has it done. -/
def pairOrder (runner : Runner) : UnitOfWork :=
  ofCall runner Transfer.unitName .entry (Transfer.perform ⟨.nil, 1000000001, 1000000002, 30⟩)

/-- A transfer with a bound, up to the moment at which it waits for the sender, whom another transfer
has locked. -/
def waitingEvents (bound : Duration) : List Event :=
  [.spawn [] none (pairOrder (Runner.default.withLockTimeout bound)).work,
    .spawn [] none (pairOrder .default).work, .move (.connect 1), .move (.connect 0),
    .move (.send 1), .move (.send 1), .move (.send 0), .move (.send 0), .move (.send 0)]

/-- A bound of three seconds ends the wait after three seconds. -/
theorem lockBound_extent_waiting : ∃ past system, Run (.start pairLedger 2) past system ∧
    (pairOrder (Runner.default.withLockTimeout (some (.ofMillis 3000)))).LockBound past system 0 ∧
      lockWait? system 0 = some (1, 0) ∧ system.lockWaitEnd? 1 (.locked 0) = some 3000000000 := by
  have htrace : (System.start pairLedger 2).traces (waitingEvents (.ofMillis 3000))
      (fun _ system => lockWait? system 0 = some (1, 0)) = true := rfl
  obtain ⟨past, system, htrace, hend⟩ := exists_of_traces htrace
  have hwaits := of_decide_eq_true hend
  have hrun := run_of_trace? htrace
  have hbody : IsBody
      (pairOrder (Runner.default.withLockTimeout (some (.ofMillis 3000)))).body.run :=
    isBody_ofCall (Transfer.isInner_perform _) fun _ _ h => by cases h
  obtain ⟨hbound, -⟩ := lockBound_extent ⟨rfl, rfl⟩ hbody hrun (mem_of_trace? htrace)
  exact ⟨past, system, hrun, hbound, hwaits, hbound.kept _ rfl (by decide) _ _ hwaits⟩

/-- An environment whose bound is one millisecond more than the database takes. -/
def excessiveEnvironment : Environment
  | "DATABASE_URL" => some "postgres://localhost/bank"
  | "LOCK_TIMEOUT_MS" => some "2147483648"
  | _ => none

/-- The settings that are read from it. -/
def excessiveSettings : Settings where
  databaseUrl := "postgres://localhost/bank"
  maxConnections := 10
  minConnections := 0
  environment := "development"
  transferTimeout := .ofMillis 5000
  lockTimeout := some (.ofMillis 2147483648)

/-- The environment is taken, and then a transfer fails since its bound is refused. A bound of less than
a millisecond is set as zero, and the wait has no end. -/
theorem lockBound_fails :
    (Settings.ofEnvironment excessiveEnvironment = .ok excessiveSettings ∧
      ∃ past system, Run (.start pairLedger 1) past system ∧
        system.reply? 0 =
          some (.failed (.storage (.rejected (.invalidLockTimeout 2147483648)))) ∧
        system.db.books = pairLedger.books) ∧
    ∃ past system, Run (.start pairLedger 2) past system ∧
      past.Sent 0 (.setLockTimeout 0) ∧ lockWait? system 0 = some (1, 0) ∧
      system.lockWaitEnd? 1 (.locked 0) = none := by
  have hrefused : (System.start pairLedger 1).traces
      [.spawn [] none (pairOrder (Runner.ofSettings excessiveSettings)).work, .move (.connect 0),
        .move (.send 0), .move (.send 0)]
      (fun _ system => system.reply? 0 =
          some (.failed (.storage (.rejected (.invalidLockTimeout 2147483648)))) ∧
        system.db.books = pairLedger.books) = true := rfl
  have hendless : (System.start pairLedger 2).traces (waitingEvents ⟨999999⟩) (fun past system =>
      past.Sent 0 (.setLockTimeout 0) ∧ lockWait? system 0 = some (1, 0) ∧
        system.lockWaitEnd? 1 (.locked 0) = none) = true := rfl
  refine ⟨⟨rfl, ?_⟩, ?_⟩
  · obtain ⟨past, system, htrace, hend⟩ := exists_of_traces hrefused
    exact ⟨past, system, run_of_trace? htrace, of_decide_eq_true hend⟩
  · obtain ⟨past, system, htrace, hend⟩ := exists_of_traces hendless
    exact ⟨past, system, run_of_trace? htrace, of_decide_eq_true hend⟩

end UnitOfWork

end Passbook
