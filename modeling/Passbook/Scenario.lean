import Passbook.Operation
import Passbook.System.Schedule

/-! # Scenarios

A scenario is a ledger in use: the system, the transactions that callers keep open under a name, and
the accounts that were opened. A `Step` is what happens next, `Scenario.step` does it: the callers'
work runs by the prompt schedule until all of them have their replies, and then whatever was left
behind comes to rest. `Snapshot` is what can be seen from outside between two steps. -/

namespace Passbook

structure Scenario where
  system : System
  runner : Runner
  transactions : List (String × Nat)
  opened : List Int

/-- What happens next. An operation stands alone unless it names a transaction. -/
inductive Step
  | operation (transaction : Option String) (context : Context) (operation : Operation)
  | together (operations : List (Context × Operation))
  | unit (context : Context) (plan : Plan)
  | begin (transaction : String) (lockTimeout : Option Duration)
  | commit (transaction : String)
  | rollback (transaction : String)
  | drop (transaction : String)
  | verifyConnection
  | checkSchema
  | closePool
  | tick (micros : Int)
  | arm (fault : ArmedFault)
  | resume
  deriving Repr

/-- What comes of a step: a reply, the replies within a unit of work with the failure of the unit if
it has one, the replies to several callers, or nothing at all. -/
inductive Answer
  | reply (reply : Reply)
  | unit (progress : List Reply) (failure : Option Failure)
  | replies (replies : List Reply)
  | nothing
  deriving DecidableEq, Repr

/-- What can be seen of the ledger between two steps. -/
structure Snapshot where
  balances : List (Int × Int)
  entries : Nat
  locks : List Int
  deriving DecidableEq, Repr

namespace Scenario

/-- A ledger at rest. -/
def start (db : Database) (runner : Runner) (connections : Nat) : Scenario where
  system := .start db connections
  runner := runner
  transactions := []
  opened := []

def snapshot (scenario : Scenario) : Snapshot where
  balances :=
    (scenario.system.db.books.accounts.map fun row => (row.id, row.balance)).mergeSort
      fun a b => a.1 ≤ b.1
  entries := scenario.system.db.books.entries.length
  locks := (scenario.system.db.locks.map (·.1)).mergeSort fun a b => a ≤ b

/-! ## Callers -/

/-- Somebody who has work done: on connections of their own, up to a deadline, of a size in
operations. -/
structure Caller where
  connections : List Nat
  deadline : Option Deadline
  size : Nat
  work : Work Reply

/-- Somebody who has a unit of work done, if it has a name. -/
def caller (scenario : Scenario) (context : Context) (unit : Option String) (size : Nat)
    (work : Work Reply) : Caller where
  connections := []
  deadline := unit.map fun name =>
    ⟨name, scenario.system.now + (scenario.runner.deadline context).nanos⟩
  size := size
  work := work

/-- How many moves the tasks of a system need at most, with work of the given size to come. No
operation takes more than a dozen requests, and no request more than three moves. -/
def maxMoves (system : System) (size : Nat) : Nat := 64 * (system.tasks.length + size + 1)

/-- Lets everything come to rest that was left behind, and forgets what is finished. -/
def settle (scenario : Scenario) : Scenario :=
  let system := scenario.system
  let system := (system.follow System.isQuiet (maxMoves system 0)).getD system
  { scenario with system := system.sweep }

/-- Starts the work of callers, one after another. -/
def spawn (system : System) : List Caller → System × List Nat
  | [] => (system, [])
  | caller :: callers =>
    let (system, index) := system.spawn caller.connections caller.deadline caller.work
    let (system, indices) := spawn system callers
    (system, index :: indices)

/-- Serves callers until all have their replies. There is no result if one never gets it. -/
def serve (scenario : Scenario) (callers : List Caller) : Option (Scenario × List Task) :=
  let size := callers.foldl (fun size caller => size + caller.size) 0
  let (system, indices) := spawn scenario.system callers
  (system.follow (System.haveReplied indices) (maxMoves system size)).map fun system =>
    let tasks := indices.filterMap (system.tasks[·]?)
    let replies := tasks.flatMap fun task => task.progress ++ task.reply.toList
    ({ scenario with system, opened := scenario.opened ++ replies.filterMap Reply.opened? }, tasks)

/-- Serves one caller and makes an answer of the task. -/
def serveOne (scenario : Scenario) (caller : Caller) (answer : Task → Reply → Answer) :
    Scenario × Answer :=
  match scenario.serve [caller] with
  | some (scenario, [task]) => (scenario, (task.reply.map (answer task)).getD .nothing)
  | _ => (scenario, .nothing)

/-- Has work done on behalf of one caller. -/
def serveReply (scenario : Scenario) (caller : Caller) : Scenario × Answer :=
  scenario.serveOne caller fun _ reply => .reply reply

/-! ## Transactions that callers keep open -/

/-- Puts a connection under a name. One that was there before is given back. -/
def keep (scenario : Scenario) (name : String) (connection : Nat) : Scenario :=
  { scenario with
    system := match scenario.transactions.lookup name with
      | some former => scenario.system.giveBack former
      | none => scenario.system
    transactions := (name, connection) :: scenario.transactions.filter (·.1 != name) }

/-- The work of opening a transaction that outlasts it. -/
def opening (lockTimeout : Option Duration) : Work Reply :=
  .connect fun
    | .error error => .done (.failed (.storage error))
    | .ok () =>
      (do
        let _ ← Call.ask .begin
        (Runner.default.withLockTimeout lockTimeout).limitLockWaits : Call Unit).run.bind fun
        | .ok () => .done .done
        | .error failure => .giveBack (.done (.failed failure))

/-- The work of ending a transaction on the caller's connection. -/
def closing (statement : Statement) : Work Reply :=
  (Call.ask statement).run.bind fun result =>
    .giveBack (.done (.ofResult (fun _ => .done) result))

/-- Opens a transaction and keeps it under a name. -/
def openTransaction (scenario : Scenario) (name : String) (lockTimeout : Option Duration) :
    Scenario × Answer :=
  match scenario.serve [⟨[], none, 1, opening lockTimeout⟩] with
  | some (scenario, [task]) =>
    (match task.connections with
      | connection :: _ => scenario.keep name connection
      | [] => scenario,
      (task.reply.map .reply).getD .nothing)
  | _ => (scenario, .nothing)

/-- Goes on with the connection that is kept under a name. -/
def withTransaction (scenario : Scenario) (name : String) (go : Nat → Scenario × Answer) :
    Scenario × Answer :=
  match scenario.transactions.lookup name with
  | some connection => go connection
  | none => (scenario, .nothing)

/-- Takes the connection that is kept under a name away from it. -/
def release (scenario : Scenario) (name : String) : Scenario :=
  { scenario with transactions := scenario.transactions.filter (·.1 != name) }

/-! ## Steps -/

/-- Somebody who has an operation done that stands alone. -/
def alone (scenario : Scenario) (context : Context) (operation : Operation) : Caller :=
  scenario.caller context operation.unitName? 1
    (operation.work scenario.runner .pooled scenario.opened)

/-- What a step makes of the scenario before it has come to rest. -/
def act (scenario : Scenario) : Step → Scenario × Answer
  | .operation none context operation => scenario.serveReply (scenario.alone context operation)
  | .operation (some name) _ operation =>
    scenario.withTransaction name fun connection =>
      scenario.serveReply
        ⟨[connection], none, 1, operation.work scenario.runner .callers scenario.opened⟩
  | .together operations =>
    match scenario.serve (operations.map fun (context, operation) =>
        scenario.alone context operation) with
    | some (scenario, tasks) => (scenario, .replies (tasks.filterMap (·.reply)))
    | none => (scenario, .nothing)
  | .unit context plan =>
    scenario.serveOne
      (scenario.caller context (some plan.name) plan.operations.length
        (plan.work scenario.runner scenario.opened))
      fun task reply => .unit task.progress reply.failure?
  | .begin name lockTimeout => scenario.openTransaction name lockTimeout
  | .commit name =>
    scenario.withTransaction name fun connection =>
      (scenario.release name).serveReply ⟨[connection], none, 1, closing .commit⟩
  | .rollback name =>
    scenario.withTransaction name fun connection =>
      (scenario.release name).serveReply ⟨[connection], none, 1, closing .rollback⟩
  | .drop name =>
    scenario.withTransaction name fun connection =>
      let scenario := scenario.release name
      ({ scenario with system := scenario.system.giveBack connection }, .reply .done)
  | .verifyConnection =>
    scenario.serveReply
      ⟨[], none, 1, Call.replying (fun () => .done) Store.verifyConnection⟩
  | .checkSchema =>
    scenario.serveReply ⟨[], none, 1, Call.replying .truth Store.checkSchema⟩
  | .closePool => ({ scenario with system := scenario.system.closePool }, .reply .done)
  | .tick micros =>
    ({ scenario with
      system.db.clock := scenario.system.db.clock.addMicros micros }, .reply .done)
  | .arm fault =>
    ({ scenario with system.faults := scenario.system.faults ++ [fault] }, .reply .done)
  | .resume => ({ scenario with system := scenario.system.unstall }, .reply .done)

/-- Does a step. -/
def step (scenario : Scenario) (step : Step) : Scenario × Answer :=
  let (scenario, answer) := scenario.act step
  (scenario.settle, answer)

end Scenario

end Passbook
