import Passbook.Proofs.Deadlock.Climbs
import Passbook.Proofs.Deadlock.Faultless
import Passbook.Proofs.Serial.Alone

/-! # Units that lock in ascending order

An ascending unit of work sends eight statements at most: the beginning of its transaction, the six
of its body and the end; a ninth sets the bound on lock waits if it has one. At every moment it has so
many left, and the lock that it waits for, if it does, is on a row with a greater number than those of
all rows that it has locked (`Phase.Ascends`). Single transfers are ascending (`ascending_transfer`). -/

namespace Passbook.UnitOfWork

variable {Allowed : Twist → Prop} {unit : UnitOfWork} {db db' : Database} {connection left : Nat}
  {phase phase' : Phase} {statement : Statement} {ran : Bool} {answer : statement.Answer}

/-- The bound on lock waits can be set if there is one, and the unit does nothing but store calls and
locks rows in ascending order. -/
structure Ascending (unit : UnitOfWork) : Prop where
  body : IsBody unit.body.run
  admits : unit.Admits
  climbs : unit.body.run.Climbs (fun _ => False) 6

/-- How many statements an ascending unit sends at most. -/
def statements (unit : UnitOfWork) : Nat := if unit.runner.lockTimeout.isSome then 9 else 8

/-- The unit of work of a single transfer. -/
def transfer (runner : Runner) (command : Command) : UnitOfWork :=
  ofCall runner Transfer.unitName .entry (Transfer.perform command)

theorem ascending_transfer {runner : Runner} {command : Command}
    (h : (transfer runner command).Admits) : (transfer runner command).Ascending where
  body := (IsTransfer.single runner command).isBody
  admits := h
  climbs := by
    show (Reply.entry <$> Transfer.perform command).run.Climbs _ _
    rw [Call.run_map]
    exact (Transfer.climbs_perform command fun _ => id).map _

namespace Phase

/-- In this phase so many statements are left to send at most, and locks are asked for in ascending
order. All rows that the transaction has changed are those of published accounts. -/
inductive Ascends (unit : UnitOfWork) (db : Database) (connection : Nat) : Phase → Nat → Prop
  | beginning : db.transaction? connection = none →
      Ascends unit db connection .beginning unit.statements
  | limiting {transaction : Transaction} {millis : Nat} : millis ≤ Database.maxLockTimeout →
      db.transaction? connection = some transaction → transaction.changes = .empty →
      transaction.aborted = false → (∀ account, ¬ db.Holds connection account) →
      Ascends unit db connection (.limiting millis) 8
  | working {transaction : Transaction} {rest : Work (Except Failure Reply)} {n : Nat} :
      db.transaction? connection = some transaction →
      db.books.Covers (fun _ => True) transaction.changes →
      rest.Climbs (db.Holds connection) n → Ascends unit db connection (.working rest) (n + 1)
  | failing (error : StorageError) (n : Nat) :
      Ascends unit db connection (.working (.done (.error (.storage error)))) (n + 1)

namespace Ascends

/-- The end of the transaction is always left to send. -/
theorem left_eq (h : phase.Ascends unit db connection left) : ∃ rest, left = rest + 1 := by
  cases h with
  | beginning => unfold statements; split <;> exact ⟨_, rfl⟩
  | limiting | working | failing => exact ⟨_, rfl⟩

theorem congr (h : phase.Ascends unit db connection left)
    (ht : db'.transaction? connection = db.transaction? connection)
    (hl : ∀ account, db'.Holds connection account ↔ db.Holds connection account)
    (he : ∀ id, (db.books.account? id).isSome = true → (db'.books.account? id).isSome = true) :
    phase.Ascends unit db' connection left := by
  cases h with
  | beginning hnone => exact .beginning (ht.trans hnone)
  | limiting hrange hopen hchanges haborted hfree =>
    exact .limiting hrange (ht.trans hopen) hchanges haborted
      fun account hheld => hfree account ((hl account).mp hheld)
  | working hopen hcovers hclimbs =>
    exact .working (ht.trans hopen) (hcovers.of_exist he) (hclimbs.congr hl)
  | failing error n => exact .failing error n

/-- What others do is of no interest to a unit, since no account ever disappears. -/
theorem of_untouched (h : phase.Ascends unit db connection left)
    (hu : Database.Untouched connection db db')
    (he : ∀ id, (db.books.account? id).isSome = true → (db'.books.account? id).isSome = true) :
    phase.Ascends unit db' connection left :=
  h.congr hu.transaction? hu.locks he

theorem wait (h : phase.Ascends unit db connection left) :
    phase.Ascends unit (db.wait connection) connection left :=
  h.congr (Database.transaction?_wait ..) (fun _ => by simp only [Database.Holds, Database.locks_wait])
    fun _ hid => by rwa [Database.books_wait]

/-- The transaction after the answer to a statement about rows: the work goes on with the rows, or it
is about to fail. -/
theorem working_of_answer {transaction : Transaction} {n : Nat}
    {next : statement.Answer → Work (Except Failure Reply)} {rest : Work (Except Failure Reply)}
    (htells : db.Tells (fun twist => twist.isHonest = true) connection statement db' ran answer)
    (hp : (next answer).Passes db'.draws rest) (hg : statement.isGuarded = true)
    (ht : db.transaction? connection = some transaction)
    (hcovers : db.books.Covers (fun _ => True) transaction.changes)
    (herror : ∀ error, next (.error error) = .done (.error (.storage error)))
    (hclimbs : ∀ rows, (∀ account, db'.Holds connection account ↔
        db.Holds connection account ∨ statement.lockedAccount? db.books = some account) →
      (∃ effect, statement.effect (db.surroundings connection)
        (db.books.overlay transaction.changes) = .ok effect ∧ rows = effect.rows) →
      (next (.ok rows)).Climbs (db'.Holds connection) n) :
    Ascends unit db' connection (.working rest) (n + 1) := by
  cases answer with
  | error error =>
    rw [herror error] at hp
    cases hp
    exact .failing error n
  | ok rows =>
    obtain ⟨-, effect, transaction', he, hrows, ht', -, -, hchanges, hbooks, hlocks⟩ :=
      htells.performed (Statement.isQuery_of_isGuarded hg) ht
    rw [Database.view, ht] at he
    refine .working ht' ?_ ((hclimbs rows hlocks ⟨effect, he, hrows⟩).of_passes hp)
    rw [hbooks, hchanges]
    exact hcovers.overlay (Statement.covers_effect hg (fun _ _ => trivial) hcovers he)

/-- An answer to a statement of the body takes the unit one statement further. -/
theorem heard {next : statement.Answer → Work (Except Failure Reply)}
    {rest : Work (Except Failure Reply)}
    (h : Ascends unit db connection (.working (.exec statement next)) left)
    (htells : db.Tells (fun twist => twist.isHonest = true) connection statement db' ran answer)
    (hp : (next answer).Passes db'.draws rest) :
    ∃ left', left = left' + 1 ∧ Ascends unit db' connection (.working rest) left' := by
  cases h with
  | @working transaction _ _ ht hcovers hclimbs =>
    cases hclimbs with
    | @read _ n id next hlt herror hnone hrow =>
      refine ⟨n + 1, rfl, working_of_answer htells hp rfl ht hcovers herror ?_⟩
      rintro rows hlocks ⟨effect, he, hrows⟩
      have hexist := hcovers.exist id
      have hlocked : Statement.lockedAccount? db.books (.selectAccount ⟨id, true⟩) =
          if (db.books.account? id).isSome then some id else none := Books.map_id_account? _ id
      rw [← hexist] at hlocked
      cases he
      dsimp only at hrows
      cases hview : (db.books.overlay transaction.changes).account? id with
      | none =>
        rw [hview] at hrows hlocked
        subst hrows
        refine hnone.congr ?_
        intro account
        rw [hlocks, hlocked]
        simp
      | some row =>
        rw [hview] at hrows hlocked
        subst hrows
        refine (hrow row [] (Books.id_of_account? hview)).congr ?_
        intro account
        rw [hlocks, hlocked]
        simp [eq_comm]
    | @update _ n id balance next hheld herror hrows =>
      refine ⟨n + 1, rfl, working_of_answer htells hp rfl ht hcovers herror ?_⟩
      intro rows hlocks _
      refine (hrows rows).congr ?_
      intro account
      rw [hlocks]
      refine or_iff_left_of_imp ?_
      intro hlocked
      rw [Statement.lockedAccount?, Books.map_id_account?] at hlocked
      split at hlocked
      · rwa [← Option.some.inj hlocked]
      · cases hlocked
    | @insert _ n entry next herror hrows =>
      refine ⟨n + 1, rfl, working_of_answer htells hp rfl ht hcovers herror ?_⟩
      intro rows hlocks _
      refine (hrows rows).congr ?_
      intro account
      rw [hlocks]
      exact or_iff_left fun hlocked => by cases hlocked

/-- An answer takes the unit one statement further. -/
theorem turned (h : phase.Ascends unit db connection left) (ha : unit.Ascending) (hl : db.LocksSound)
    (htells : db.Tells (fun twist => twist.isHonest = true) connection statement db' ran answer)
    (hturn : unit.Turn db'.draws phase statement answer phase') :
    ∃ left', left = left' + 1 ∧ phase'.Ascends unit db' connection left' := by
  have hfree : db.transaction? connection = none → db'.locks = db.locks →
      ∀ account, ¬ db'.Holds connection account := by
    intro hnone hlocks account hheld
    rw [Database.Holds, hlocks] at hheld
    have hopen := hl.isSome account connection hheld
    rw [hnone] at hopen
    cases hopen
  cases hturn with
  | limited hbound =>
    cases h with
    | beginning hnone =>
      rcases htells.begin hnone with ⟨-, -, ht⟩ | ⟨⟨⟩, -⟩
      exact ⟨8, by simp [statements, hbound],
        .limiting (ha.admits _ hbound) ht rfl rfl (hfree hnone (htells.locks_begin rfl))⟩
  | begun hbound hp =>
    cases h with
    | beginning hnone =>
      rcases htells.begin hnone with ⟨-, -, ht⟩ | ⟨⟨⟩, -⟩
      refine ⟨7, by simp [statements, hbound], .working ht (.empty _ _) ?_⟩
      exact (ha.climbs.of_passes hp).congr fun account =>
        iff_of_false (hfree hnone (htells.locks_begin rfl) account) id
  | bounded hp =>
    cases h with
    | limiting _ ht hchanges _ hnone =>
      have hsession := htells.setLockTimeout ht rfl
      refine ⟨7, rfl, .working (by rw [Database.transaction?, hsession]) ?_ ?_⟩
      · rw [hchanges]
        exact .empty _ _
      · refine (ha.climbs.of_passes hp).congr fun account => iff_of_false (fun hheld => ?_) id
        rw [Database.Holds, htells.locks_setLockTimeout rfl] at hheld
        exact hnone account hheld
  | heard hp => exact h.heard htells hp

/-- A unit waits for no lock but one on a row with a greater number than those it has locked. -/
theorem lt_of_obstacle (h : phase.Ascends unit db connection left) (hl : db.LocksSound)
    {next : statement.Answer → Work Reply} (ha : unit.Asks phase statement next) {wanted held : Int}
    (ho : db.obstacle? connection statement = some wanted) (hheld : db.Holds connection held) :
    held < wanted := by
  obtain ⟨hlocked, hbusy⟩ := Option.filter_eq_some_iff.mp ho
  cases ha with
  | begin | limit | commit | rollback => cases hlocked
  | query statement next =>
    cases h with
    | working ht hcovers hclimbs =>
      cases hclimbs with
      | read hlt =>
        rw [Statement.lockedAccount?, if_pos rfl, Books.map_id_account?] at hlocked
        split at hlocked
        · rw [← Option.some.inj hlocked]
          exact hlt held hheld
        · cases hlocked
      | update hown =>
        rw [Statement.lockedAccount?, Books.map_id_account?] at hlocked
        split at hlocked
        · obtain rfl := Option.some.inj hlocked
          rw [Database.lockable, hl.holder?_iff.mpr hown] at hbusy
          simp at hbusy
        · cases hlocked
      | insert => cases hlocked

end Ascends

end Phase

end Passbook.UnitOfWork
