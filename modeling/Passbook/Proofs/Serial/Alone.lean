import Mathlib.Logic.Relation
import Passbook.Proofs.Serial.Replay

/-! # Work that is done alone

What work comes to when nobody else is connected to the database and nothing disturbs it (`Alone`).
Time passes between its steps, and identifiers are drawn, as they may. A unit of work whose body can
be replayed from the committed books does the same when it is done alone on them: it commits and its
changes are published (`alone_of_commits`), or it fails and they are forgotten (`alone_of_fails`). -/

namespace Passbook

/-- The next thing that happens when work is done on the only connection of a database. -/
inductive Lone : Database × Work Reply → Database × Work Reply → Prop
  | drift (db : Database) (work : Work Reply) (clock : Instant) (serial : Nat) :
      Lone (db, work) ({ db with clock, serial }, work)
  | connect (db : Database) (next : Except StorageError Unit → Work Reply) :
      Lone (db, .connect next) (db, next (.ok ()))
  | giveBack (db : Database) (rest : Work Reply) : Lone (db, .giveBack rest) (db.close 0, rest)
  | exec {db db' : Database} {statement : Statement} {next : statement.Answer → Work Reply}
      {answer : statement.Answer} : db.run 0 statement = .answered db' answer →
      Lone (db, .exec statement next) (db', next answer)
  | draw (db : Database) (next : Draw → Work Reply) :
      Lone (db, .draw next) ({ db with serial := db.serial + 1 }, next db.draw)
  | report (db : Database) (reply : Reply) (rest : Work Reply) :
      Lone (db, .report reply rest) (db, rest)

/-- Done alone, the work ends with the reply and leaves the database so. -/
def Alone (db : Database) (work : Work Reply) (db' : Database) (reply : Reply) : Prop :=
  Relation.ReflTransGen Lone (db, work) (db', .done reply)

namespace Database

/-- The database while work is done on its only connection, in a transaction. -/
def busy (db : Database) (clock : Instant) (serial : Nat) (locked : List Int)
    (transaction : Transaction) : Database :=
  { db with
    clock, serial
    locks := locked.map (·, 0)
    sessions := [(0, ⟨true, false, some transaction, none⟩)] }

variable {db : Database} {clock : Instant} {serial : Nat} {locked : List Int}
  {transaction : Transaction} {statement : Statement}

@[simp] theorem transaction?_busy :
    (db.busy clock serial locked transaction).transaction? 0 = some transaction := rfl

@[simp] theorem view_busy :
    (db.busy clock serial locked transaction).view 0 = db.books.overlay transaction.changes := rfl

theorem enter_atRest (h : db.AtRest) :
    db.enter 0 = db.busy db.clock db.serial [] ⟨db.clock, .empty, 0, false⟩ := by
  obtain ⟨books, users, tables, clock, serial, locks, sessions, draws⟩ := db
  obtain ⟨hsessions, hlocks⟩ := h
  dsimp only at hsessions hlocks
  subst hsessions hlocks
  rfl

theorem lockFor_busy (db : Database) (clock : Instant) (serial : Nat) (locked : List Int)
    (transaction : Transaction) (statement : Statement) : ∃ locked',
    (db.busy clock serial locked transaction).lockFor 0 statement =
      db.busy clock serial locked' transaction := by
  unfold lockFor
  rw [transaction?_busy]
  cases statement.lockedAccount? (db.busy clock serial locked transaction).books with
  | none => exact ⟨locked, rfl⟩
  | some account =>
    dsimp only
    unfold Database.lock
    split
    · exact ⟨locked, rfl⟩
    · exact ⟨locked ++ [account], by simp [busy]⟩

theorem change_busy (changes : Books) :
    (db.busy clock serial locked transaction).change 0 changes =
      db.busy clock (serial + changes.entries.length) locked
        { transaction with changes := transaction.changes.overlay changes } := rfl

theorem obstacle?_busy :
    (db.busy clock serial locked transaction).obstacle? 0 statement = none := by
  unfold obstacle?
  rw [Option.filter_eq_none_iff]
  intro account _
  have hfree : (db.busy clock serial locked transaction).lockable 0 account = true := by
    unfold lockable
    rw [Option.all_eq_true]
    intro holder hholder
    obtain ⟨_, -, hmem⟩ := List.mem_map.mp (mem_of_holder? hholder)
    simpa using (congrArg Prod.snd hmem).symm
  simp [hfree]

/-- Alone, a guarded statement is answered from the books and the changes of its transaction. -/
theorem run_busy {effect : Effect statement} {around : Surroundings}
    (hg : statement.isGuarded = true) (ha : transaction.aborted = false)
    (hnow : around.now = transaction.began) (hdraws : around.draws = db.draws)
    (he : statement.effect around (db.books.overlay transaction.changes) = .ok effect) :
    ∃ serial' locked', (db.busy clock around.serial locked transaction).run 0 statement =
      .answered (db.busy clock serial' locked'
        { transaction with changes := transaction.changes.overlay effect.changes })
        (.ok effect.rows) := by
  have hown : statement.effect
      ((db.busy clock around.serial locked transaction).surroundings 0)
      (db.books.overlay transaction.changes) = .ok effect := by
    rw [← he]
    exact Statement.effect_congr hg (.refl (fun _ => True) db.books) (fun _ _ => trivial) hnow.symm
      rfl hdraws.symm
  obtain ⟨locked', hlocked⟩ := lockFor_busy db clock around.serial locked transaction statement
  refine ⟨around.serial + effect.changes.entries.length, locked', ?_⟩
  rw [run_eq_of_isQuery _ _ (Statement.isQuery_of_isGuarded hg), obstacle?_busy]
  unfold refusesAborted perform
  rw [transaction?_busy, view_busy, hown]
  simp only [Option.any_some, ha, Bool.false_and, Bool.false_eq_true, if_false,
    Option.isSome_none]
  rw [hlocked, change_busy, ha]

theorem forget_busy (h : db.AtRest) :
    ((db.busy clock serial locked transaction).forget 0).close 0 = { db with clock, serial } := by
  obtain ⟨books, users, tables, clock', serial', locks, sessions, draws⟩ := db
  obtain ⟨hsessions, hlocks⟩ := h
  dsimp only at hsessions hlocks
  subst hsessions hlocks
  have hnone : (locked.map (·, 0)).filter (fun lock : Int × Nat => lock.2 != 0) = [] := by
    rw [List.filter_eq_nil_iff]
    rintro lock hmem
    obtain ⟨_, -, rfl⟩ := List.mem_map.mp hmem
    simp
  simp [busy, close, forget, setTransaction, setSession, hnone]

theorem publish_busy (h : db.AtRest) (ha : transaction.aborted = false) :
    ((db.busy clock serial locked transaction).publish 0).close 0 =
      { db with books := db.books.overlay transaction.changes, clock, serial } := by
  unfold publish
  rw [transaction?_busy]
  simp only [ha, Bool.false_eq_true, if_false]
  exact @forget_busy { db with books := db.books.overlay transaction.changes } clock serial locked
    transaction ⟨h.sessions, h.locks⟩

end Database

/-! ## Units of work -/

/-- The bound on lock waits, if there is one, can be set: the database takes it. -/
def Runner.Admits (runner : Runner) : Prop :=
  ∀ bound, runner.lockTimeout = some bound → bound.millis ≤ Database.maxLockTimeout

theorem Runner.admits_default : Runner.default.Admits := fun _ hbound => by cases hbound

namespace UnitOfWork

open Relation

variable {unit : UnitOfWork} {db : Database} {Held : Int → Prop} {began : Instant} {changes : Books}
  {rest : Work (Except Failure Reply)}

/-- Its bound on lock waits can be set. -/
def Admits (unit : UnitOfWork) : Prop := unit.runner.Admits

/-- Alone, a unit has begun after its first statements. -/
theorem lone_begun (hrest : db.AtRest) (hadmits : unit.Admits) (began : Instant) :
    ∃ transaction : Transaction, transaction.began = began ∧ transaction.changes = .empty ∧
      transaction.aborted = false ∧ ReflTransGen Lone (db, unit.work)
        (db.busy began db.serial [] transaction, unit.working unit.body.run) := by
  have hbegin : ReflTransGen Lone (db, unit.work)
      (db.busy began db.serial [] ⟨began, .empty, 0, false⟩, unit.begun) := by
    have hat : Database.AtRest { db with clock := began } := ⟨hrest.sessions, hrest.locks⟩
    have hrun : Database.run { db with clock := began } 0 .begin =
        .answered (db.busy began db.serial [] ⟨began, .empty, 0, false⟩) (.ok []) := by
      rw [Database.run, Database.enter_atRest hat]
      rfl
    rw [work_eq]
    exact .tail (.tail (.single (.connect ..)) (.drift _ _ began db.serial)) (.exec hrun)
  cases hbound : unit.runner.lockTimeout with
  | none =>
    have hnext : unit.begun = unit.working unit.body.run := by simp [begun, hbound]
    rw [hnext] at hbegin
    exact ⟨_, rfl, rfl, rfl, hbegin⟩
  | some bound =>
    have hnext : unit.begun = unit.limiting bound.millis := by simp [begun, hbound]
    have hrun : (db.busy began db.serial [] ⟨began, .empty, 0, false⟩).run 0
        (.setLockTimeout bound.millis) =
        .answered (db.busy began db.serial [] ⟨began, .empty, bound.millis, false⟩) (.ok []) := by
      have hle := Nat.not_lt.mpr (hadmits bound hbound)
      simp only [Database.run, Database.refusesAborted, Database.transaction?_busy,
        Option.any_some, Bool.false_and, Bool.false_eq_true, if_false, if_neg hle]
      rfl
    rw [hnext] at hbegin
    exact ⟨_, rfl, rfl, rfl, hbegin.tail (.exec hrun)⟩

/-- Alone, a unit comes as far as its body can be replayed. -/
theorem lone_replays (hrest : db.AtRest) (hadmits : unit.Admits)
    (h : unit.body.run.Replays Held db.books db.draws began changes rest) :
    ∃ clock serial locked, ∃ transaction : Transaction, transaction.began = began ∧
      transaction.changes = changes ∧ transaction.aborted = false ∧
      ReflTransGen Lone (db, unit.work)
        (db.busy clock serial locked transaction, unit.working rest) := by
  induction h with
  | start =>
    obtain ⟨transaction, hbegan, hchanges, ha, hlone⟩ := lone_begun hrest hadmits began
    exact ⟨_, _, _, transaction, hbegan, hchanges, ha, hlone⟩
  | @exec _ _ _ around _ _ hnow hdraws hg _ he ih =>
    obtain ⟨clock, serial, locked, transaction, rfl, rfl, ha, hlone⟩ := ih
    obtain ⟨serial', locked', hrun⟩ := @Database.run_busy db clock locked _ _ _ around hg ha hnow
      hdraws he
    refine ⟨clock, serial', locked', _, ?_, ?_, ?_,
      (hlone.tail (.drift _ _ clock around.serial)).tail (.exec hrun)⟩
    · rfl
    · rfl
    · exact ha
  | draw serial' _ ih =>
    obtain ⟨clock, serial, locked, transaction, hbegan, hchanges, ha, hlone⟩ := ih
    exact ⟨clock, serial' + 1, locked, transaction, hbegan, hchanges, ha,
      (hlone.tail (.drift _ _ clock serial')).tail (.draw ..)⟩
  | report _ ih =>
    obtain ⟨clock, serial, locked, transaction, hbegan, hchanges, ha, hlone⟩ := ih
    exact ⟨clock, serial, locked, transaction, hbegan, hchanges, ha, hlone.tail (.report ..)⟩

/-- Alone, a unit whose body succeeds publishes what it has changed. -/
theorem alone_of_commits {reply : Reply} (hrest : db.AtRest) (hadmits : unit.Admits)
    (h : unit.body.run.Replays Held db.books db.draws began changes (.done (.ok reply))) :
    ∃ clock serial, Alone db unit.work
      { db with books := db.books.overlay changes, clock, serial } reply := by
  obtain ⟨clock, serial, locked, transaction, -, rfl, ha, hlone⟩ := lone_replays hrest hadmits h
  refine ⟨clock, serial, ?_⟩
  rw [← @Database.publish_busy db clock serial locked transaction hrest ha]
  exact (hlone.tail (.exec rfl)).tail (.giveBack ..)

/-- Alone, a unit whose body fails leaves the books as they are. -/
theorem alone_of_fails {failure : Failure} (hrest : db.AtRest) (hadmits : unit.Admits)
    (h : unit.body.run.Replays Held db.books db.draws began changes (.done (.error failure))) :
    ∃ clock serial, Alone db unit.work { db with clock, serial } (.failed failure) := by
  obtain ⟨clock, serial, locked, transaction, -, -, -, hlone⟩ := lone_replays hrest hadmits h
  refine ⟨clock, serial, ?_⟩
  rw [← @Database.forget_busy db clock serial locked transaction hrest]
  exact (hlone.tail (.exec rfl)).tail (.giveBack ..)

end UnitOfWork

end Passbook
