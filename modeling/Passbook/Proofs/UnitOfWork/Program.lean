import Passbook.UnitOfWork

/-! # The program of a unit of work

A unit of work with its beginning and its end written out (`work_eq`), and what it asks for when it
has come so far (`Asks`): the beginning of its transaction, the bound on lock waits, what its body
asks for, and the end of the transaction as the body's result demands it. An answer takes it further
(`Turn`) or is the end of it (`Ends`). -/

namespace Passbook

namespace Work

variable {α β : Type} {Asks : Statement → Prop} {Results : α → Prop}

/-- The work asks for no statements but the given ones, on the connection that it is given, and has
no results but the given ones. -/
inductive Obeys (Asks : Statement → Prop) (Results : α → Prop) : Work α → Prop
  | done {value : α} : Results value → Obeys Asks Results (.done value)
  | exec {statement : Statement} {next : statement.Answer → Work α} : Asks statement →
      (∀ answer, Obeys Asks Results (next answer)) → Obeys Asks Results (.exec statement next)
  | draw {next : Draw → Work α} : (∀ drawn, Obeys Asks Results (next drawn)) →
      Obeys Asks Results (.draw next)
  | report {reply : Reply} {rest : Work α} : Obeys Asks Results rest →
      Obeys Asks Results (.report reply rest)

/-- Work goes on to its next statement or its end, past the identifiers that it draws and what it
reports. -/
inductive Passes (draws : Draws) : Work α → Work α → Prop
  | done (value : α) : Passes draws (.done value) (.done value)
  | exec (statement : Statement) (next : statement.Answer → Work α) :
      Passes draws (.exec statement next) (.exec statement next)
  | draw {next : Draw → Work α} {work : Work α} (serial : Nat) :
      Passes draws (next (draws.draw serial)) work → Passes draws (.draw next) work
  | report {rest work : Work α} (reply : Reply) : Passes draws rest work →
      Passes draws (.report reply rest) work

theorem Obeys.of_passes {draws : Draws} {work rest : Work α} (h : work.Obeys Asks Results)
    (hp : work.Passes draws rest) : rest.Obeys Asks Results := by
  induction hp with
  | done | exec => exact h
  | draw serial _ ih => cases h with | draw hnext => exact ih (hnext _)
  | report reply _ ih => cases h with | report hrest => exact ih hrest

theorem Obeys.mono {Asks' : Statement → Prop} {Results' : α → Prop} {work : Work α}
    (h : work.Obeys Asks Results) (ha : ∀ statement, Asks statement → Asks' statement)
    (hr : ∀ value, Results value → Results' value) : work.Obeys Asks' Results' := by
  induction h with
  | done hv => exact .done (hr _ hv)
  | exec hs _ ih => exact .exec (ha _ hs) ih
  | draw _ ih => exact .draw ih
  | report _ ih => exact .report ih

theorem Obeys.bind {Results' : β → Prop} {work : Work α} {f : α → Work β}
    (h : work.Obeys Asks Results) (hf : ∀ value, Results value → (f value).Obeys Asks Results') :
    (work.bind f).Obeys Asks Results' := by
  induction h with
  | done hv => exact hf _ hv
  | exec hs _ ih => exact .exec hs ih
  | draw _ ih => exact .draw ih
  | report _ ih => exact .report ih

end Work

namespace Call

variable {α β : Type}

theorem run_bind (call : Call α) (f : α → Call β) :
    (call >>= f).run = call.run.bind fun
      | .ok value => (f value).run
      | .error failure => .done (.error failure) :=
  congrArg call.run.bind (funext fun result => by cases result <;> rfl)

theorem run_map (f : α → β) (call : Call α) :
    (f <$> call).run = call.run.bind fun result => .done (result.map f) :=
  congrArg call.run.bind (funext fun result => by cases result <;> rfl)

end Call

/-- A unit of work: how it is run, its name, and what is done between its beginning and its end. -/
structure UnitOfWork where
  runner : Runner
  name : String
  body : Call Reply

namespace UnitOfWork

/-- The work of the unit on behalf of its caller. -/
def work (unit : UnitOfWork) : Work Reply :=
  Call.replying id (unit.runner.unit unit.name unit.body)

/-- The unit whose caller makes a reply of its result. -/
def ofCall {α : Type} (runner : Runner) (name : String) (reply : α → Reply) (body : Call α) :
    UnitOfWork where
  runner := runner
  name := name
  body := reply <$> body

/-- The connection is given back, and the caller gets the reply. -/
def handBack (reply : Reply) : Work Reply := .giveBack (.done reply)

/-- The end of the transaction. -/
def ending (unit : UnitOfWork) : Except Failure Reply → Work Reply
  | .ok reply => .exec .commit fun
    | .ok _ => handBack reply
    | .error error => handBack (.failed (.commitOutcomeUnknown unit.name error))
  | .error failure => .exec .rollback fun _ => handBack (.failed failure)

/-- What remains of the body, and the end. -/
def working (unit : UnitOfWork) (rest : Work (Except Failure Reply)) : Work Reply :=
  rest.bind unit.ending

/-- The bound on lock waits, and all that comes after it. -/
def limiting (unit : UnitOfWork) (millis : Nat) : Work Reply :=
  .exec (.setLockTimeout millis) fun
    | .ok _ => unit.working unit.body.run
    | .error error => handBack (.failed (.storage error))

/-- What comes after the beginning. -/
def begun (unit : UnitOfWork) : Work Reply :=
  match unit.runner.lockTimeout with
  | some bound => unit.limiting bound.millis
  | none => unit.working unit.body.run

/-- The beginning, and all that comes after it. -/
def beginning (unit : UnitOfWork) : Work Reply :=
  .exec .begin fun
    | .ok _ => unit.begun
    | .error error => handBack (.failed (.storage error))

/-! ## The program written out -/

section

variable {α : Type} (runner : Runner) (name : String) (reply : α → Reply) (body : Call α)

/-- What is left to do when the result is known. -/
def closing (reply : α → Reply) (result : Except Failure α) : Work Reply :=
  handBack (.ofResult reply result)

theorem finish_eq (result : Except Failure α) :
    (Runner.finish name result).run.bind (closing reply) =
      (ofCall runner name reply body).ending (result.map reply) := by
  cases result with
  | ok value =>
    refine congrArg (Work.exec .commit) (funext fun answer => ?_)
    cases answer <;> rfl
  | error failure => rfl

theorem body_eq :
    (do
      let result ← ExceptT.mk (body.run.bind fun result => .done (.ok result))
      Runner.finish name result : Call α).run.bind (closing reply) =
      (ofCall runner name reply body).working (ofCall runner name reply body).body.run := by
  rw [Call.run_bind, working, ofCall, Call.run_map]
  simp only [ExceptT.run_mk, Work.bind_bind, Work.bind]
  exact congrArg body.run.bind (funext (finish_eq runner name reply body))

theorem limited_eq (call : Unit → Call α)
    (h : (call ()).run.bind (closing reply) =
      (ofCall runner name reply body).working (ofCall runner name reply body).body.run) :
    (runner.limitLockWaits >>= call).run.bind (closing reply) =
      (ofCall runner name reply body).begun := by
  rw [Call.run_bind]
  unfold begun Runner.limitLockWaits ofCall
  dsimp only
  cases runner.lockTimeout with
  | none => exact h
  | some bound =>
    refine congrArg (Work.exec _) (funext fun answer => ?_)
    cases answer with
    | ok rows => exact h
    | error error => rfl

theorem replying_eq :
    Call.replying reply (runner.unit name body) = .connect fun
      | .ok () => (ofCall runner name reply body).beginning
      | .error error => .done (.failed (.storage error)) := by
  refine congrArg Work.connect (funext fun result => ?_)
  cases result with
  | error error => rfl
  | ok =>
    dsimp only
    rw [Work.bind_bind]
    refine congrArg (Work.exec .begin) (funext fun answer => ?_)
    cases answer with
    | error error => rfl
    | ok rows => exact limited_eq runner name reply body _ (body_eq runner name reply body)

theorem ofCall_id (unit : UnitOfWork) : ofCall unit.runner unit.name id unit.body = unit := by
  have hbody : id <$> unit.body = unit.body := by
    refine ExceptT.ext ?_
    rw [Call.run_map]
    have hid : ∀ result : Except Failure Reply, result.map id = result := by
      intro result
      cases result <;> rfl
    simp only [hid]
    exact Work.bind_done _
  rw [ofCall, hbody]

/-- The program of a unit of work. -/
theorem work_eq (unit : UnitOfWork) : unit.work = .connect fun
    | .ok () => unit.beginning
    | .error error => .done (.failed (.storage error)) := by
  rw [work, replying_eq, ofCall_id]

theorem work_ofCall :
    (ofCall runner name reply body).work = Call.replying reply (runner.unit name body) := by
  rw [work_eq, replying_eq]

end

/-! ## How far it has come -/

/-- How far the work on a connection has come. -/
inductive Phase
  | beginning
  | limiting (millis : Nat)
  | working (rest : Work (Except Failure Reply))

/-- What a unit asks for in a phase, and what it does with the answer. -/
inductive Asks (unit : UnitOfWork) :
    Phase → (statement : Statement) → (statement.Answer → Work Reply) → Prop
  | begin : unit.Asks .beginning .begin fun
      | .ok _ => unit.begun
      | .error error => handBack (.failed (.storage error))
  | limit (millis : Nat) : unit.Asks (.limiting millis) (.setLockTimeout millis) fun
      | .ok _ => unit.working unit.body.run
      | .error error => handBack (.failed (.storage error))
  | query (statement : Statement) (next : statement.Answer → Work (Except Failure Reply)) :
      unit.Asks (.working (.exec statement next)) statement fun answer => unit.working (next answer)
  | commit (reply : Reply) : unit.Asks (.working (.done (.ok reply))) .commit fun
      | .ok _ => handBack reply
      | .error error => handBack (.failed (.commitOutcomeUnknown unit.name error))
  | rollback (failure : Failure) :
      unit.Asks (.working (.done (.error failure))) .rollback fun _ => handBack (.failed failure)

/-- The answer takes the unit into its next phase. -/
inductive Turn (unit : UnitOfWork) (draws : Draws) :
    Phase → (statement : Statement) → statement.Answer → Phase → Prop
  | limited {rows : List Unit} {bound : Duration} : unit.runner.lockTimeout = some bound →
      unit.Turn draws .beginning .begin (.ok rows) (.limiting bound.millis)
  | begun {rows : List Unit} {rest : Work (Except Failure Reply)} :
      unit.runner.lockTimeout = none → unit.body.run.Passes draws rest →
      unit.Turn draws .beginning .begin (.ok rows) (.working rest)
  | bounded {millis : Nat} {rows : List Unit} {rest : Work (Except Failure Reply)} :
      unit.body.run.Passes draws rest →
      unit.Turn draws (.limiting millis) (.setLockTimeout millis) (.ok rows) (.working rest)
  | heard {statement : Statement} {next : statement.Answer → Work (Except Failure Reply)}
      {answer : statement.Answer} {rest : Work (Except Failure Reply)} :
      (next answer).Passes draws rest →
      unit.Turn draws (.working (.exec statement next)) statement answer (.working rest)

/-- With the answer the unit is over, and its caller gets the reply. -/
inductive Ends (unit : UnitOfWork) : Phase → (statement : Statement) → statement.Answer → Reply → Prop
  | notBegun (error : StorageError) :
      unit.Ends .beginning .begin (.error error) (.failed (.storage error))
  | notBounded (millis : Nat) (error : StorageError) :
      unit.Ends (.limiting millis) (.setLockTimeout millis) (.error error) (.failed (.storage error))
  | committed (reply : Reply) (rows : List Unit) :
      unit.Ends (.working (.done (.ok reply))) .commit (.ok rows) reply
  | unknown (reply : Reply) (error : StorageError) :
      unit.Ends (.working (.done (.ok reply))) .commit (.error error)
        (.failed (.commitOutcomeUnknown unit.name error))
  | rolledBack (failure : Failure) (answer : Statement.Answer .rollback) :
      unit.Ends (.working (.done (.error failure))) .rollback answer (.failed failure)

/-- What remains of the body keeps to the given statements and results. -/
def Phase.Obeys (Asks : Statement → Prop) (Results : Except Failure Reply → Prop) : Phase → Prop
  | working rest => rest.Obeys Asks Results
  | beginning | limiting _ => True

theorem Turn.obeys {unit : UnitOfWork} {draws : Draws} {Asks : Statement → Prop}
    {Results : Except Failure Reply → Prop} {phase phase' : Phase} {statement : Statement}
    {answer : statement.Answer} (h : unit.Turn draws phase statement answer phase')
    (hbody : unit.body.run.Obeys Asks Results) (hphase : phase.Obeys Asks Results) :
    phase'.Obeys Asks Results := by
  cases h with
  | limited => exact trivial
  | begun _ hp => exact hbody.of_passes hp
  | bounded hp => exact hbody.of_passes hp
  | heard hp => cases hphase with | exec _ hnext => exact (hnext _).of_passes hp

/-- With an answer the unit is over, or it has a bound on lock waits to set, or it goes on with its
body. -/
theorem Asks.cases {unit : UnitOfWork} {Asks' : Statement → Prop}
    {Results : Except Failure Reply → Prop} {phase : Phase} {statement : Statement}
    {next : statement.Answer → Work Reply} (h : unit.Asks phase statement next)
    (hbody : unit.body.run.Obeys Asks' Results) (hphase : phase.Obeys Asks' Results)
    (draws : Draws) (answer : statement.Answer) :
    (∃ reply, unit.Ends phase statement answer reply ∧ next answer = handBack reply) ∨
      (∃ millis, unit.Turn draws phase statement answer (.limiting millis) ∧
        next answer = unit.limiting millis) ∨
      ∃ work : Work (Except Failure Reply), work.Obeys Asks' Results ∧
        next answer = unit.working work ∧
        ∀ rest, work.Passes draws rest → unit.Turn draws phase statement answer (.working rest) := by
  cases h with
  | begin =>
    cases answer with
    | error error => exact .inl ⟨_, .notBegun error, rfl⟩
    | ok rows =>
      cases hbound : unit.runner.lockTimeout with
      | some bound =>
        exact .inr (.inl ⟨bound.millis, .limited hbound, by simp [begun, hbound]⟩)
      | none =>
        exact .inr (.inr ⟨_, hbody, by simp [begun, hbound], fun _ => .begun hbound⟩)
  | limit millis =>
    cases answer with
    | error error => exact .inl ⟨_, .notBounded millis error, rfl⟩
    | ok rows => exact .inr (.inr ⟨_, hbody, rfl, fun _ => .bounded⟩)
  | query statement next =>
    cases hphase with
    | exec _ hnext => exact .inr (.inr ⟨_, hnext answer, rfl, fun _ => .heard⟩)
  | commit reply =>
    cases answer with
    | error error => exact .inl ⟨_, .unknown reply error, rfl⟩
    | ok rows => exact .inl ⟨_, .committed reply rows, rfl⟩
  | rollback failure => exact .inl ⟨_, .rolledBack failure answer, rfl⟩

end UnitOfWork

end Passbook
