import Passbook.Proofs.Deadlock.Freedom
import Passbook.Proofs.Locality.Walks
import Passbook.Proofs.Transfer.LostUpdate
import Passbook.Proofs.UnitOfWork.Atomicity

/-! # What a transfer locks

A unit of work whose body walks along given rows has locked the first so many of them at every moment,
and nothing else: while it is at work (`Phase.Walks`), and while its connection is being rolled back
after it (`Resting`). So whatever happens in a run, a transfer waits for the next of its rows only, and it
writes when it has locked both (`System.confined_of_spawn`). -/

namespace Passbook

namespace Database

variable {Allowed : Twist → Prop} {db db' : Database} {connection : Nat} {rows held : List Int}
  {statement : Statement} {ran : Bool} {answer : statement.Answer}

/-- The connection has locked these rows and no others. -/
def HoldsJust (db : Database) (connection : Nat) (held : List Int) : Prop :=
  ∀ id, db.Holds connection id ↔ id ∈ held

/-- The connection has locked the first so many of the rows and no others. -/
def HoldsFirst (db : Database) (connection : Nat) (rows : List Int) : Prop :=
  ∃ held, held <+: rows ∧ db.HoldsJust connection held

theorem HoldsJust.congr (h : db.HoldsJust connection held)
    (hsame : ∀ id, db'.Holds connection id ↔ db.Holds connection id) :
    db'.HoldsJust connection held :=
  fun id => (hsame id).trans (h id)

theorem HoldsFirst.congr (h : db.HoldsFirst connection rows)
    (hsame : ∀ id, db'.Holds connection id ↔ db.Holds connection id) :
    db'.HoldsFirst connection rows := by
  obtain ⟨held, hle, hjust⟩ := h
  exact ⟨held, hle, hjust.congr hsame⟩

theorem holds_of_locks (hlocks : db'.locks = db.locks) (id : Int) :
    db'.Holds connection id ↔ db.Holds connection id := by
  rw [Holds, Holds, hlocks]

/-- Nothing is locked on a connection without a transaction. -/
theorem LocksSound.holdsJust_nil (hl : db.LocksSound) (ht : db.transaction? connection = none) :
    db.HoldsJust connection [] := by
  intro id
  refine iff_of_false (fun hheld => ?_) List.not_mem_nil
  have hopen := hl.isSome id connection hheld
  rw [ht] at hopen
  cases hopen

/-- After a statement whose turn it was, the first so many rows are locked. -/
theorem HoldsJust.told (h : db.HoldsJust connection held) (hl : db.LocksSound) (hle : held <+: rows)
    (hturn : statement.InTurn rows held)
    (htells : db.Tells Allowed connection statement db' ran answer) :
    db'.HoldsFirst connection rows := by
  rcases htells.holds_cases hl with hsame | hnone | ⟨locked, hlocked, hmore⟩
  · exact ⟨held, hle, fun id => (hsame id).trans (h id)⟩
  · exact ⟨[], List.nil_prefix, fun id => iff_of_false (hnone id) List.not_mem_nil⟩
  · rcases hturn.subject locked (Statement.subject?_of_locked hlocked) with hmem | hnext
    · refine ⟨held, hle, fun id => ?_⟩
      rw [hmore, h id, or_iff_left_of_imp]
      rintro rfl
      exact hmem
    · refine ⟨held ++ [locked], hnext, fun id => ?_⟩
      rw [hmore, h id, List.mem_append, List.mem_singleton]

/-- A lock that a statement waits for in its turn is the next one. -/
theorem HoldsJust.next_of_obstacle (h : db.HoldsJust connection held) (hl : db.LocksSound)
    (hturn : statement.InTurn rows held) {id : Int}
    (ho : db.obstacle? connection statement = some id) : held ++ [id] <+: rows := by
  obtain ⟨hlocked, hbusy⟩ := Option.filter_eq_some_iff.mp ho
  refine (hturn.subject id (Statement.subject?_of_locked hlocked)).resolve_left fun hmem => ?_
  have hheld := (h id).mpr hmem
  rw [lockable, hl.holder?_iff.mpr hheld] at hbusy
  simp at hbusy

end Database

namespace UnitOfWork

open Database

variable {Allowed : Twist → Prop} {unit : UnitOfWork} {db db' : Database} {connection : Nat}
  {rows : List Int} {phase phase' : Phase} {statement : Statement} {ran : Bool}
  {answer : statement.Answer}

namespace Phase

/-- In this phase the first so many of the rows are locked, and the rest of the body walks along the
others. All rows that the transaction has changed are those of published accounts. -/
inductive Walks (rows : List Int) (db : Database) (connection : Nat) : Phase → Prop
  | beginning : db.transaction? connection = none → db.HoldsJust connection [] →
      Walks rows db connection .beginning
  | limiting {transaction : Transaction} {millis : Nat} :
      db.transaction? connection = some transaction → transaction.changes = .empty →
      db.HoldsJust connection [] → Walks rows db connection (.limiting millis)
  | working {transaction : Transaction} {held : List Int} {rest : Work (Except Failure Reply)} :
      db.transaction? connection = some transaction →
      db.books.Covers (fun _ => True) transaction.changes → held <+: rows →
      db.HoldsJust connection held → rest.Walks rows held → Walks rows db connection (.working rest)
  | failing (failure : Failure) : db.HoldsFirst connection rows →
      Walks rows db connection (.working (.done (.error failure)))

namespace Walks

theorem congr (h : phase.Walks rows db connection)
    (ht : db'.transaction? connection = db.transaction? connection)
    (hsame : ∀ id, db'.Holds connection id ↔ db.Holds connection id)
    (he : ∀ id, (db.books.account? id).isSome = true → (db'.books.account? id).isSome = true) :
    phase.Walks rows db' connection := by
  cases h with
  | beginning hnone hjust => exact .beginning (ht.trans hnone) (hjust.congr hsame)
  | limiting hopen hchanges hjust => exact .limiting (ht.trans hopen) hchanges (hjust.congr hsame)
  | working hopen hcovers hle hjust hwalks =>
    exact .working (ht.trans hopen) (hcovers.of_exist he) hle (hjust.congr hsame) hwalks
  | failing failure hfirst => exact .failing failure (hfirst.congr hsame)

/-- What a unit asks for in its phase is in its turn. -/
theorem inTurn (h : phase.Walks rows db connection) {next : statement.Answer → Work Reply}
    (ha : unit.Asks phase statement next) :
    ∃ held, held <+: rows ∧ db.HoldsJust connection held ∧ statement.InTurn rows held := by
  cases ha with
  | begin =>
    cases h with
    | beginning _ hnone =>
      exact ⟨[], List.nil_prefix, hnone, Statement.inTurn_of_not_isQuery rfl⟩
  | limit =>
    cases h with
    | limiting _ _ hnone =>
      exact ⟨[], List.nil_prefix, hnone, Statement.inTurn_of_not_isQuery rfl⟩
  | query =>
    cases h with
    | working _ _ hle hjust hwalks =>
      cases hwalks with | exec hsteps
      exact ⟨_, hle, hjust, hsteps.inTurn⟩
  | commit =>
    cases h with
    | working _ _ hle hjust =>
      exact ⟨_, hle, hjust, Statement.inTurn_of_not_isQuery rfl⟩
  | rollback =>
    cases h with
    | working _ _ hle hjust =>
      exact ⟨_, hle, hjust, Statement.inTurn_of_not_isQuery rfl⟩
    | failing _ hfirst =>
      obtain ⟨held, hle, hjust⟩ := hfirst
      exact ⟨held, hle, hjust, Statement.inTurn_of_not_isQuery rfl⟩

/-- A statement that finds a row leaves it locked. -/
theorem found {held held' : List Int} {row : statement.Row} {rest : List statement.Row}
    {transaction : Transaction} (hsteps : statement.Steps rows held held')
    (ht : db.transaction? connection = some transaction)
    (hcovers : db.books.Covers (fun _ => True) transaction.changes)
    (hjust : db.HoldsJust connection held)
    (htells : db.Tells Allowed connection statement db' ran (.ok (row :: rest))) :
    ∃ transaction', db'.transaction? connection = some transaction' ∧
      db'.books.Covers (fun _ => True) transaction'.changes ∧ db'.HoldsJust connection held' := by
  obtain ⟨-, effect, transaction', twist, he, -, htwisted, ht', -, -, hchanges, hbooks, hlocks⟩ :=
    htells.carried (Statement.isQuery_of_isGuarded hsteps.isGuarded) ht
  rw [view, ht] at he
  refine ⟨transaction', ht', ?_, fun id => ?_⟩
  · rw [hbooks, hchanges]
    exact hcovers.overlay
      (Statement.covers_effect hsteps.isGuarded (fun _ _ => trivial) hcovers he)
  · rw [hlocks, hjust id]
    cases hsteps with
    | @read held own hnext =>
      have hlength := length_le_of_twisted htwisted
      cases he
      have hexist := hcovers.exist own
      cases hview : (db.books.overlay transaction.changes).account? own with
      | none =>
        rw [hview] at hlength
        cases hlength
      | some found =>
        rw [hview] at hexist
        rw [Statement.lockedAccount?, if_pos rfl, Books.map_id_account?, ← hexist]
        simp [eq_comm]
    | @update own balance hmem =>
      refine or_iff_left_of_imp fun hlocked => ?_
      rwa [← Option.some.inj (Statement.subject?_of_locked hlocked)]
    | insert => exact or_iff_left fun hlocked => by cases hlocked

theorem turned (h : phase.Walks rows db connection) (hbody : unit.body.run.Walks rows [])
    (hl : db.LocksSound) (htells : db.Tells Allowed connection statement db' ran answer)
    (hturn : unit.Turn db'.draws phase statement answer phase') : phase'.Walks rows db' connection := by
  cases hturn with
  | limited =>
    cases h with
    | beginning hnone hjust =>
      rcases htells.begin hnone with ⟨-, -, ht⟩ | ⟨⟨⟩, -⟩
      exact .limiting ht rfl (hjust.congr (holds_of_locks (htells.locks_begin rfl)))
  | begun _ hp =>
    cases h with
    | beginning hnone hjust =>
      rcases htells.begin hnone with ⟨-, -, ht⟩ | ⟨⟨⟩, -⟩
      exact .working ht (.empty _ _) List.nil_prefix
        (hjust.congr (holds_of_locks (htells.locks_begin rfl))) (hbody.of_passes hp)
  | bounded hp =>
    cases h with
    | limiting ht hchanges hjust =>
      have hsession := htells.setLockTimeout ht rfl
      refine .working (by rw [transaction?, hsession]) ?_ List.nil_prefix
        (hjust.congr (holds_of_locks (htells.locks_setLockTimeout rfl))) (hbody.of_passes hp)
      rw [hchanges]
      exact .empty _ _
  | heard hp =>
    cases h with
    | working ht hcovers hle hjust hwalks =>
      have hfirst := hjust.told hl hle (by cases hwalks with | exec hsteps => exact hsteps.inTurn) htells
      cases hwalks with
      | @exec held held' _ _ hsteps hfails hfinds =>
        rcases hfails answer with ⟨row, rest, rfl⟩ | ⟨failure, hfailure⟩
        · obtain ⟨transaction', ht', hcovers', hjust'⟩ := found hsteps ht hcovers hjust htells
          have hnames := htells.names row List.mem_cons_self
          exact .working ht' hcovers' hsteps.after_le hjust' ((hfinds row rest hnames).of_passes hp)
        · rw [hfailure] at hp
          cases hp
          exact .failing failure hfirst

end Walks

end Phase

end UnitOfWork

namespace System

open Database

variable {system after : System} {event : Event} {past : Past} {unit : UnitOfWork}
  {index connection : Nat}
  {task : Task} {rows held : List Int} {statement : Statement}

/-- A connection that a unit is done with has the first so many of the rows locked until it has been
rolled back, and then it is gone. -/
inductive Resting (rows : List Int) (system : System) (connection : Nat) : Prop
  | leaving {index : Nat} {task : Task} : system.tasks[index]? = some task →
      Leaving task connection .rollback → system.db.HoldsFirst connection rows →
      Resting rows system connection
  | gone : connection ∉ system.inUse → connection < system.nextConnection →
      Resting rows system connection

theorem resting_giveBack (h : system.db.HoldsFirst connection rows) (hn : system.inUse.Nodup)
    (hlt : connection < system.nextConnection) (hi : index < system.tasks.length) (task : Task) :
    Resting rows ((system.giveBack connection).setTask index task) connection := by
  unfold giveBack
  dsimp only
  split
  · have hlast : ((system.tasks ++ [Task.cleanup connection]).set index task)[system.tasks.length]? =
        some (.cleanup connection) := by
      rw [List.getElem?_set_ne (Nat.ne_of_lt hi)]
      simp
    exact .leaving hlast (.cleanup connection) (h.congr fun _ => Iff.rfl)
  · exact .gone (fun hm => (List.Nodup.not_mem_erase hn) hm) hlt

theorem Resting.holdsFirst (h : Resting rows system connection) (ho : Orderly [] [] system) :
    system.db.HoldsFirst connection rows := by
  cases h with
  | leaving _ _ hfirst => exact hfirst
  | gone hfree =>
    refine ⟨[], List.nil_prefix, fun id => iff_of_false (fun hheld => ?_) List.not_mem_nil⟩
    exact hfree (ho.inUse_of_locks hheld)

/-- The next move of somebody who leaves a connection. -/
theorem Leaving.holds_step {move : Move} (hl : Leaving task connection statement) (hle : held <+: rows)
    (hjust : system.db.HoldsJust connection held) (hturn : statement.InTurn rows held)
    (ho : Orderly [] [] system) (hu : system.Underway) (ht : system.tasks[move.index]? = some task)
    (hs : system.step (.move move) = some after) :
    (∃ task', after.tasks[move.index]? = some task' ∧ Leaving task' connection statement ∧
        after.db.HoldsJust connection held) ∨
      ∃ task', after.tasks[move.index]? = some task' ∧ task'.stage.isFinished = true ∧
        Resting rows after connection := by
  have hlen := (List.getElem?_eq_some_iff.mp ht).1
  cases hl.goes (Twists.any system) hu ht hs with
  | @held db faults twist hold _ _ _ _ hdb =>
    refine .inl ⟨_, getElem?_setTask_self hlen _, ⟨hl.connections, hl.deadline, rfl⟩, ?_⟩
    exact hjust.congr fun _ => hdb.holds
  | @told db faults ran answer _ _ htells =>
    have hplace := @getElem?_setTask_giveBack { system with db, faults } _ hlen connection
    have hin := ho.lt_next _ (ho.inUse_of_claims ht hl.mem_claims)
    refine .inr ⟨_, hplace _, rfl, ?_⟩
    exact @resting_giveBack { system with db, faults } _ _ _ (hjust.told ho.locks hle hturn htells)
      ho.nodup hin hlen _

theorem Resting.step (h : Resting rows system connection) (ho : Orderly [] [] system) (hu : system.Underway)
    (hs : system.step event = some after) : Resting rows after connection := by
  cases h with
  | gone hfree hlt =>
    have hspares := spares_step hs (not_touched_of_free ho hs hfree) hlt
    exact .gone (fun hm => hfree (hspares.inUse.mp hm)) (Nat.lt_of_lt_of_le hlt (nextConnection_le hs))
  | @leaving index task ht hl hfirst =>
    by_cases hm : event.mover? = some index
    · obtain ⟨move, rfl, rfl⟩ := mover?_eq_some hm
      obtain ⟨held, hle, hjust⟩ := hfirst
      rcases hl.holds_step hle hjust (Statement.inTurn_of_not_isQuery rfl) ho hu ht hs with
        ⟨task', ht', hl', hjust'⟩ | ⟨_, -, -, hrests⟩
      · exact .leaving ht' hl' ⟨held, hle, hjust'⟩
      · exact hrests
    · have hspares := spares_of_claims ho hs ht hl.mem_claims hm
      obtain ⟨task', ht', hl', -⟩ := hl.of_step hs ht hm
      exact .leaving ht' hl' (hfirst.congr fun _ => hspares.untouched.holds)

/-- Where a unit stands in a run whose body walks along the rows. -/
inductive Treads (unit : UnitOfWork) (rows : List Int) (past : Past) (system : System) (index : Nat) :
    Prop
  | waiting {task : Task} : system.tasks[index]? = some task → Waiting unit task →
      (∀ connection, ¬ past.Took index connection) → Treads unit rows past system index
  | dismissed {task : Task} : system.tasks[index]? = some task → task.stage.isFinished = true →
      (∀ connection, ¬ past.Took index connection) → Treads unit rows past system index
  | asking {task : Task} {connection : Nat} {phase : UnitOfWork.Phase} :
      system.tasks[index]? = some task → Asking unit task connection phase →
      phase.Obeys (fun statement => statement.isQuery = true) UnitOfWork.Honest →
      phase.Walks rows system.db connection →
      (∀ other, past.Took index other ↔ other = connection) → Treads unit rows past system index
  | left {task : Task} {connection : Nat} {statement : Statement} {held : List Int} :
      system.tasks[index]? = some task → Leaving task connection statement → held <+: rows →
      system.db.HoldsJust connection held → statement.InTurn rows held →
      (∀ other, past.Took index other ↔ other = connection) → Treads unit rows past system index
  | ended {task : Task} {connection : Nat} : system.tasks[index]? = some task →
      task.stage.isFinished = true → Resting rows system connection →
      (∀ other, past.Took index other ↔ other = connection) → Treads unit rows past system index

namespace Treads

theorem step_other (h : Treads unit rows past system index) (ho : Orderly [] [] system)
    (hu : system.Underway) (hs : system.step event = some after) (hm : event.mover? ≠ some index) :
    Treads unit rows (past ++ [(system, event)]) after index := by
  have htook : ∀ connection, Past.Took (past ++ [(system, event)]) index connection ↔
      past.Took index connection := fun _ => Past.took_of_not_moved past system hm
  have hone : ∀ {connection}, (∀ other, past.Took index other ↔ other = connection) →
      ∀ other, Past.Took (past ++ [(system, event)]) index other ↔ other = connection :=
    fun hone other => (htook other).trans (hone other)
  cases h with
  | waiting ht hwait hnone =>
    obtain ⟨task', ht', hwait'⟩ := hwait.of_step hs ht hm
    exact .waiting ht' hwait' fun connection => mt (htook connection).mp (hnone connection)
  | dismissed ht hf hnone =>
    exact .dismissed (finished_of_step hs ht hf) hf fun connection =>
      mt (htook connection).mp (hnone connection)
  | asking ht hask hphase hwalks htaken =>
    have hspares := spares_of_claims ho hs ht hask.mem_claims hm
    obtain ⟨task', ht', hask', -⟩ := hask.of_step hs ht hm
    have hwalks' := hwalks.congr hspares.untouched.transaction? (fun _ => hspares.untouched.holds)
      fun _ => exist_step hs
    exact .asking ht' hask' hphase hwalks' (hone htaken)
  | left ht hl hle hjust hturn htaken =>
    have hspares := spares_of_claims ho hs ht hl.mem_claims hm
    obtain ⟨task', ht', hl', -⟩ := hl.of_step hs ht hm
    exact .left ht' hl' hle (hjust.congr fun _ => hspares.untouched.holds) hturn (hone htaken)
  | ended ht hf hrests htaken =>
    exact .ended (finished_of_step hs ht hf) hf (hrests.step ho hu hs) (hone htaken)

theorem step_waiting (ht : system.tasks[index]? = some task) (hwait : Waiting unit task)
    (hnone : ∀ connection, ¬ past.Took index connection) (ho : Orderly [] [] system)
    (hs : system.step event = some after) (hm : event.mover? = some index) :
    Treads unit rows (past ++ [(system, event)]) after index := by
  obtain ⟨move, rfl, rfl⟩ := mover?_eq_some hm
  have hlen := (List.getElem?_eq_some_iff.mp ht).1
  cases hwait.goes ht hs with
  | connected hmove _ hasks =>
    have htaken : system.taken? (.move move) = some (move.index, system.nextConnection) := by
      rw [hmove]
      rfl
    have hopen : system.db.transaction? system.nextConnection = none := by
      have hfresh := ho.fresh _ fun hin => Nat.lt_irrefl _ (ho.lt_next _ hin)
      rw [transaction?, hfresh]
      rfl
    refine .asking (getElem?_setTask_self hlen _) ⟨rfl, hwait.reply, _, _, rfl, hasks⟩ trivial
      (.beginning hopen (ho.locks.holdsJust_nil hopen)) fun other => ?_
    rw [Past.took_concat, htaken]
    simp [hnone other, eq_comm]
  | dismissed deadline failure _ _ hmove =>
    have htaken : system.taken? (.move move) = none := by
      rcases hmove with ⟨_, hmove, -⟩ | hmove <;> rw [hmove] <;> rfl
    refine .dismissed (getElem?_setTask_self hlen _) rfl fun connection => ?_
    rw [Past.took_concat, htaken]
    simpa using hnone connection

theorem step_asking {phase : UnitOfWork.Phase} (ht : system.tasks[index]? = some task)
    (hask : Asking unit task connection phase) (hbody : UnitOfWork.IsBody unit.body.run)
    (hrows : unit.body.run.Walks rows [])
    (hphase : phase.Obeys (fun statement => statement.isQuery = true) UnitOfWork.Honest)
    (hwalks : phase.Walks rows system.db connection)
    (hone : ∀ other, past.Took index other ↔ other = connection) (ho : Orderly [] [] system)
    (hu : system.Underway) (hs : system.step event = some after) (hm : event.mover? = some index) :
    Treads unit rows (past ++ [(system, event)]) after index := by
  obtain ⟨move, rfl, rfl⟩ := mover?_eq_some hm
  have hlen := (List.getElem?_eq_some_iff.mp ht).1
  have hin := ho.lt_next _ (ho.inUse_of_claims ht hask.mem_claims)
  have htook : ∀ other, Past.Took (past ++ [(system, .move move)]) move.index other ↔
      other = connection := by
    obtain ⟨_, _, hw, -⟩ := hask.asks
    exact fun other => (took_of_exec past hs ht hw other).trans (hone other)
  have hended : ∀ db faults task', task'.stage.isFinished = true → db.HoldsFirst connection rows →
      Treads unit rows (past ++ [(system, .move move)])
        (({ system with db, faults }.giveBack connection).setTask move.index task') move.index := by
    intro db faults task' hf hfirst
    have hplace := @getElem?_setTask_giveBack { system with db, faults } _ hlen connection
    exact .ended (hplace task') hf
      (@resting_giveBack { system with db, faults } _ _ _ hfirst ho.nodup hin hlen _) htook
  cases hask.goes hbody hphase (Twists.any system) hu ht hs with
  | held twist hold hw hasks _ _ _ _ hdb =>
    refine .asking (getElem?_setTask_self hlen _) ⟨hask.connections, hask.reply, _, _, rfl, hasks⟩
      hphase ?_ htook
    exact hwalks.congr (hdb.transaction? connection) (fun _ => hdb.holds) fun _ hid =>
      hdb.books ▸ hid
  | turned ran answer hw hasks _ _ htells hturn hasks' =>
    have hturned := hwalks.turned hrows ho.locks htells hturn
    exact .asking (getElem?_setTask_self hlen _) ⟨hask.connections, hask.reply, _, _, rfl, hasks'⟩
      (hturn.obeys hbody hphase) (hturned.congr rfl (fun _ => Iff.rfl) fun _ => id) htook
  | ended ran answer hw hasks _ _ htells hends =>
    obtain ⟨held, hle, hjust, hinTurn⟩ := hwalks.inTurn hasks
    exact hended _ _ _ rfl (hjust.told ho.locks hle hinTurn htells)
  | quit deadline hw hasks _ _ _ =>
    obtain ⟨held, hle, hjust, -⟩ := hwalks.inTurn hasks
    exact hended system.db system.faults _ rfl ⟨held, hle, hjust⟩
  | left deadline twist hold hw hasks _ _ _ _ =>
    obtain ⟨held, hle, hjust, hinTurn⟩ := hwalks.inTurn hasks
    exact .left (getElem?_setTask_self hlen _) ⟨hask.connections, rfl, rfl⟩ hle hjust hinTurn htook

theorem step (h : Treads unit rows past system index) (hbody : UnitOfWork.IsBody unit.body.run)
    (hrows : unit.body.run.Walks rows []) (ho : Orderly [] [] system) (hu : system.Underway)
    (hs : system.step event = some after) :
    Treads unit rows (past ++ [(system, event)]) after index := by
  by_cases hm : event.mover? = some index
  · cases h with
    | waiting ht hwait hnone => exact step_waiting ht hwait hnone ho hs hm
    | asking ht hask hphase hwalks hone =>
      exact step_asking ht hask hbody hrows hphase hwalks hone ho hu hs hm
    | @left task connection statement held ht hl hle hjust hturn hone =>
      obtain ⟨move, rfl, rfl⟩ := mover?_eq_some hm
      have htook : ∀ other, Past.Took (past ++ [(system, .move move)]) move.index other ↔
          other = connection :=
        fun other => (took_of_exec past hs ht hl.work other).trans (hone other)
      rcases hl.holds_step hle hjust hturn ho hu ht hs with
        ⟨task', ht', hl', hjust'⟩ | ⟨task', ht', hf, hrests⟩
      · exact .left ht' hl' hle hjust' hturn htook
      · exact .ended ht' hf hrests htook
    | dismissed ht hf => exact absurd hm (not_mover_of_finished hs ht hf)
    | ended ht hf => exact absurd hm (not_mover_of_finished hs ht hf)
  · exact h.step_other ho hu hs hm

end Treads

/-- A unit whose body walks along the rows does so in every run. -/
theorem treads_of_spawn {db : Database} {capacity : Nat} {before : System} {deadline : Option Deadline}
    (hrest : db.AtRest) (hrun : Run (.start db capacity) past system)
    (hspawn : (before, .spawn [] deadline unit.work) ∈ past)
    (hbody : UnitOfWork.IsBody unit.body.run) (hrows : unit.body.run.Walks rows []) :
    Treads unit rows past system before.tasks.length := by
  refine hrun.holds_of_spawn (motive := fun past system => Treads unit rows past system _) hrest hspawn
    (fun past system task ht hwait hunmoved => ?_) ?_
  · exact .waiting ht hwait hunmoved.took
  · intro past system after event _ ho hu hs h
    exact h.step hbody hrows ho hu hs

/-! ## Transfers -/

/-- What is true of the task of a transfer at every moment of a run. On its connection the first so many
of the rows of the command are locked and no others, also when the connection is being rolled back after
it. The lock that it waits for is the next one, and it asks for no write before it has locked the rows
of both accounts. -/
structure Confined (command : Command) (past : Past) (system : System) (index : Nat) : Prop where
  locks : ∀ connection, past.Took index connection → system.db.HoldsFirst connection command.rows
  waits : ∀ id, system.wanted? index = some id → ∃ connection held, past.Took index connection ∧
    system.db.HoldsJust connection held ∧ held ++ [id] <+: command.rows
  writes : ∀ task statement next, system.tasks[index]? = some task →
    task.stage.work = .exec statement next → statement.isWrite = true →
    ∃ connection, past.Took index connection ∧
      ∀ id, system.db.Holds connection id ↔ id ∈ command.accounts

section

variable {command command' : Command} {index' : Nat}

/-- It is enough that the statement under way, if there is one, is in its turn. -/
theorem Confined.of_inTurn (ht : system.tasks[index]? = some task)
    (hone : ∀ other, past.Took index other ↔ other = connection)
    (hc : task.connections.head? = some connection) {next : statement.Answer → Work Reply}
    (hw : task.stage.work = .exec statement next) (hl : system.db.LocksSound)
    (hle : held <+: command.rows) (hjust : system.db.HoldsJust connection held)
    (hturn : statement.InTurn command.rows held) : Confined command past system index where
  locks other htook := by
    obtain rfl := (hone other).mp htook
    exact ⟨held, hle, hjust⟩
  waits id hid := by
    rw [wanted?_of_work ht hc hw] at hid
    split at hid
    · exact ⟨connection, held, (hone connection).mpr rfl, hjust, hjust.next_of_obstacle hl hturn hid⟩
    · cases hid
  writes task' statement' next' ht' hw' hwrite := by
    obtain rfl := Option.some.inj (ht.symm.trans ht')
    cases hw.symm.trans hw'
    obtain ⟨rfl, hrows⟩ := hturn.write hwrite
    refine ⟨connection, (hone connection).mpr rfl, fun id => (hjust id).trans ?_⟩
    cases hvalid : command.validate with
    | ok amount => exact Command.mem_rows hvalid
    | error error =>
      refine absurd ?_ hrows
      rw [Command.rows, hvalid]

/-- A task that asks for nothing waits for nothing and writes nothing. -/
theorem Confined.of_silent (ht : system.tasks[index]? = some task)
    (hno : ∀ statement next, task.stage.work ≠ .exec statement next)
    (hlocks : ∀ connection, past.Took index connection →
      system.db.HoldsFirst connection command.rows) : Confined command past system index where
  locks := hlocks
  waits id hid := by
    simp only [wanted?, ht, Option.bind_eq_bind, Option.bind_some, Option.bind_eq_some_iff] at hid
    obtain ⟨statement, hsent, -⟩ := hid
    cases hstage : task.stage with
    | sent statement next twist hold =>
      rw [hstage] at hno
      exact absurd rfl (hno statement next)
    | queued | ready | finished =>
      rw [hstage] at hsent
      cases hsent
  writes task' statement next ht' hw := by
    obtain rfl := Option.some.inj (ht.symm.trans ht')
    exact absurd hw (hno statement next)

theorem Treads.confined (h : Treads unit command.rows past system index) (ho : Orderly [] [] system) :
    Confined command past system index := by
  have hfinished : ∀ {task : Task}, task.stage.isFinished = true →
      ∀ statement next, task.stage.work ≠ .exec statement next := by
    intro task hf statement next hw
    cases hf.symm.trans (Stage.isFinished_of_work hw)
  cases h with
  | waiting ht hwait hnone =>
    refine .of_silent ht (fun statement next hw => ?_) fun connection htook =>
      absurd htook (hnone connection)
    rw [hwait.work, UnitOfWork.work_eq] at hw
    cases hw
  | dismissed ht hf hnone =>
    exact .of_silent ht (hfinished hf) fun connection htook => absurd htook (hnone connection)
  | asking ht hask _ hwalks hone =>
    obtain ⟨statement, next, hw, hasks⟩ := hask.asks
    obtain ⟨held, hle, hjust, hturn⟩ := hwalks.inTurn hasks
    exact .of_inTurn ht hone (by rw [hask.connections]; rfl) hw ho.locks hle hjust hturn
  | left ht hl hle hjust hturn hone =>
    exact .of_inTurn ht hone (by rw [hl.connections]; rfl) hl.work ho.locks hle hjust hturn
  | ended ht hf hrests hone =>
    refine .of_silent ht (hfinished hf) fun other htook => ?_
    obtain rfl := (hone other).mp htook
    exact hrests.holdsFirst ho

/-- Whatever happens in a run, a transfer locks its rows in their order and nothing else. -/
theorem confined_of_spawn {db : Database} {capacity : Nat} {before : System}
    {deadline : Option Deadline} {runner : Runner} (hrest : db.AtRest)
    (hrun : Run (.start db capacity) past system)
    (hspawn : (before, .spawn [] deadline (Transfer.order runner command)) ∈ past) :
    Confined command past system before.tasks.length := by
  rw [Transfer.order, ← UnitOfWork.work_execute] at hspawn
  refine Treads.confined (treads_of_spawn hrest hrun hspawn (UnitOfWork.IsTransfer.single ..).isBody ?_)
    (hrun.orderly (orderly_start hrest capacity))
  rw [UnitOfWork.ofCall, Call.run_map]
  exact (Transfer.walks_perform command).map _

/-- A transfer does not wait for one that is about other accounts. -/
theorem Confined.not_waiting (h : Confined command past system index)
    (h' : Confined command' past system index')
    (hapart : ∀ id ∈ command.accounts, id ∉ command'.accounts) {id : Int}
    (hwanted : system.wanted? index = some id) (hholder : system.db.holder? id = some connection) :
    ¬ past.Took index' connection := by
  intro htook
  obtain ⟨_, held, -, -, hnext⟩ := h.waits id hwanted
  obtain ⟨held', hle, hjust⟩ := h'.locks connection htook
  have hmem := hnext.subset (List.mem_append_right held List.mem_cons_self)
  have hheld := hle.subset ((hjust id).mp (mem_of_holder? hholder))
  exact hapart id (Command.accounts_of_rows hmem) (Command.accounts_of_rows hheld)

end

end System

end Passbook
