import Passbook.Proofs.Deadlock.Freedom
import Passbook.Proofs.Race.Executes
import Passbook.Proofs.Serial.Fits

/-! # Units that nothing goes wrong for

Where answers reach the client as the database gives them, a unit of work that fits the committed books
and fares well on them is refused nothing (`Fits.answered`), and so it comes to a result that its body
has on these books (`Fits.ends`). -/

namespace Passbook

namespace Database

variable {Allowed Allowed' : Twist → Prop} {db db' : Database} {connection : Nat}
  {statement : Statement} {ran : Bool} {answer : statement.Answer}

theorem Answers.mono (h : db.Answers Allowed connection statement db' ran answer)
    (ha : ∀ twist, Allowed twist → Allowed' twist) :
    db.Answers Allowed' connection statement db' ran answer := by
  cases h with
  | dead hdead => exact .dead hdead
  | aborted haborted => exact .aborted haborted
  | refused rejection => exact .refused rejection
  | lost => exact .lost
  | ran twist hallowed hr => exact .ran twist (ha twist hallowed) hr

theorem Tells.mono (h : db.Tells Allowed connection statement db' ran answer)
    (ha : ∀ twist, Allowed twist → Allowed' twist) :
    db.Tells Allowed' connection statement db' ran answer := by
  cases h with
  | dead hdead => exact .dead hdead
  | living halive hmet hanswers => exact .living halive hmet (hanswers.mono ha)

/-- An answer that nobody has twisted is the one with which the statement was run. -/
theorem Tells.run_of_ran (h : db.Tells (fun twist => twist = .none) connection statement db' true answer)
    (hq : statement.isQuery = true) :
    ∃ ended, db.run connection statement = .answered ended answer := by
  cases h.answers (Statement.ne_begin_of_isQuery hq) (Statement.isEnd_of_isQuery hq) with
  | @ran ended answer twist hnone hr =>
    subst hnone
    rw [twisted_none]
    exact ⟨ended, hr⟩

end Database

namespace UnitOfWork

variable {unit : UnitOfWork} {db db' : Database} {connection : Nat} {phase phase' : Phase}
  {statement : Statement} {ran : Bool} {answer : statement.Answer}
  {next : statement.Answer → Work Reply} {Ends : Except Failure Reply → Prop}

/-- The unit is about to fail because of a statement that has failed. -/
def Phase.Errs (phase : Phase) : Prop :=
  ∃ error, phase = .working (.done (.error (.storage error)))

namespace Fits

/-- What remains of the body fares well in the open transaction. -/
theorem fares {rest : Work (Except Failure Reply)} (h : unit.Fits db connection (.working rest))
    (herr : ¬ Phase.Errs (.working rest)) (hfares : unit.body.run.Fares Ends db.books .empty) :
    ∃ transaction, db.transaction? connection = some transaction ∧ transaction.aborted = false ∧
      rest.Fares Ends db.books transaction.changes := by
  cases h with
  | working _ ht haborted hreplays => exact ⟨_, ht, haborted, hreplays.fares hfares⟩
  | failing error => exact absurd ⟨error, rfl⟩ herr

/-- The transaction of a unit that has something to ask is not aborted, or it is asked to end. -/
theorem not_refused (h : unit.Fits db connection phase) (ha : unit.Asks phase statement next) :
    db.refusesAborted connection statement = false := by
  cases ha with
  | begin => cases h with | beginning hnone => simp [Database.refusesAborted, hnone]
  | limit => cases h with | limiting _ ht _ haborted => simp [Database.refusesAborted, ht, haborted]
  | query => cases h with | working _ ht haborted => simp [Database.refusesAborted, ht, haborted]
  | commit | rollback => simp [Database.refusesAborted, Statement.isEnd]

/-- What is about the transaction itself is granted. -/
theorem granted (h : unit.Fits db connection phase) (hadmits : unit.Admits)
    (ha : unit.Asks phase statement next) :
    statement.isGranted = true ∨ ∃ rest, phase = .working (.exec statement rest) := by
  cases ha with
  | begin | commit | rollback => exact .inl rfl
  | limit =>
    cases h with
    | limiting hbound => exact .inl (decide_eq_true (hadmits _ hbound))
  | query statement rest => exact .inr ⟨rest, rfl⟩

/-- A unit that fares well is answered. -/
theorem answered (h : unit.Fits db connection phase) (herr : ¬ phase.Errs)
    (hadmits : unit.Admits) (hfares : unit.body.run.Fares Ends db.books .empty)
    (ha : unit.Asks phase statement next)
    (htells : db.Tells (fun twist => twist = .none) connection statement db' true answer)
    (hgranted : statement.isGranted = true → answer.toBool = true) : answer.toBool = true := by
  rcases h.granted hadmits ha with hgrant | ⟨rest, rfl⟩
  · exact hgranted hgrant
  · obtain ⟨transaction, ht, haborted, hrest⟩ := h.fares herr hfares
    cases hrest with
    | exec hg hok hnext =>
      have hq := Statement.isQuery_of_isGuarded hg
      obtain ⟨ended, hr⟩ := htells.run_of_ran hq
      obtain ⟨effect, he⟩ := hok (db.surroundings connection)
      cases Database.runs_of_run hr with
      | begun | committed | rolledBack | outOfRange | bounded | nothingToBound => cases hq
      | aborted hrefuses => cases (h.not_refused ha).symm.trans hrefuses
      | performed => rfl
      | rejected _ _ _ he' =>
        rw [Database.view, ht] at he'
        cases he.symm.trans he'

/-- It is not about to fail after an answer, if its body does not end so. -/
theorem not_errs (h : unit.Fits db connection phase) (herr : ¬ phase.Errs)
    (hfares : unit.body.run.Fares Ends db.books .empty)
    (hends : ∀ error, ¬ Ends (.error (.storage error)))
    (htells : db.Tells (fun twist => twist.isHonest = true) connection statement db' ran answer)
    (hok : answer.toBool = true) (hturn : unit.Turn db'.draws phase statement answer phase') :
    ¬ phase'.Errs := by
  rintro ⟨error, rfl⟩
  have hdone : ∀ {changes : Books},
      ¬ Work.Fares Ends db.books (.done (.error (.storage error))) changes := by
    intro changes hdone
    cases hdone with
    | done hvalue => exact hends error hvalue
  cases hturn with
  | begun _ hp => exact hdone (hfares.of_passes hp)
  | bounded hp => exact hdone (hfares.of_passes hp)
  | heard hp =>
    obtain ⟨transaction, ht, -, hrest⟩ := h.fares herr hfares
    cases hrest with
    | exec hg _ hnext =>
      cases answer with
      | error => cases hok
      | ok rows =>
        obtain ⟨-, effect, _, he, rfl, -⟩ := htells.performed (Statement.isQuery_of_isGuarded hg) ht
        rw [Database.view, ht] at he
        exact hdone ((hnext _ _ he).of_passes hp)

/-- Its open transaction is on a living connection. -/
theorem alive (h : unit.Fits db connection phase) (herr : ¬ phase.Errs) (hc : db.Custody)
    (hbegun : phase ≠ .beginning) : (db.session connection).alive = true := by
  cases h with
  | beginning => exact absurd rfl hbegun
  | limiting _ ht => exact (hc.keeps connection).living _ ht
  | working _ ht => exact (hc.keeps connection).living _ ht
  | failing error => exact absurd ⟨error, rfl⟩ herr

/-- What a unit publishes that is asked to commit. -/
theorem published {reply : Reply} (h : unit.Fits db connection (.working (.done (.ok reply)))) :
    ∃ changes, db.published? connection .commit = some changes ∧
      db.books.Covers (db.Holds connection) changes := by
  cases h with
  | @working transaction _ _ ht haborted hreplays =>
    refine ⟨transaction.changes, ?_, hreplays.covers⟩
    rw [Database.published?, ht]
    simp [haborted]

/-- The body has come to its result on the committed books. -/
theorem ends {result : Except Failure Reply} (h : unit.Fits db connection (.working (.done result)))
    (herr : ¬ Phase.Errs (.working (.done result)))
    (hfares : unit.body.run.Fares Ends db.books .empty) : Ends result := by
  obtain ⟨_, -, -, hrest⟩ := h.fares herr hfares
  cases hrest with
  | done hresult => exact hresult

end Fits

end UnitOfWork

end Passbook
