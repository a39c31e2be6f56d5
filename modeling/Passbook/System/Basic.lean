import Passbook.Database.Fault
import Passbook.Work

/-! # The system

The database together with all who work on it. Each piece of work is a task; it holds the
connections that it took from the pool, and it is waiting for a connection, about to send a
statement, waiting for the answer to one, or finished. `Move` names what can happen next, and
`System.move` says whether it can happen now and what comes of it. Which of the possible moves
happens is left open: a schedule is any list of moves, and time may pass between them. Moments are
counted in nanoseconds from the start of the system.

A task whose deadline passes is answered at once and goes on without its caller: it waits for the
answer to the statement that is under way and gives its connections back. A connection that comes
back while a transaction may be open on it is rolled back by a task of its own, and only then free
for others. -/

namespace Passbook

/-- Why a statement that was sent has not run yet: it has not arrived, or it waits for a lock. -/
inductive Hold
  | stalled
  | delayed (till : Nat)
  | locked (since : Nat)
  deriving DecidableEq, Repr

/-- What a task is doing. -/
inductive Stage
  | queued (since : Nat) (next : Except StorageError Unit → Work Reply)
  | ready (statement : Statement) (next : statement.Answer → Work Reply)
  | sent (statement : Statement) (next : statement.Answer → Work Reply) (twist : Twist)
    (hold : Hold)
  | finished

namespace Stage

def isFinished : Stage → Bool
  | finished => true
  | _ => false

/-- Whether a deadline still counts: not once the end of a transaction is the next thing to do. -/
def isBounded : Stage → Bool
  | queued .. => true
  | ready statement _ | sent statement .. => !statement.isEnd
  | finished => false

/-- A stalled statement is set free. -/
def unstall (now : Nat) : Stage → Stage
  | sent statement next twist .stalled => sent statement next twist (.delayed now)
  | stage => stage

end Stage

/-- The moment up to which a unit of work may take. -/
structure Deadline where
  unit : String
  due : Nat
  deriving DecidableEq, Repr

/-- A piece of work under way: the connections it holds, the last one taken first, what it is doing,
what it has reported so far, and the reply of which its caller has been told. -/
structure Task where
  connections : List Nat
  stage : Stage
  deadline : Option Deadline
  progress : List Reply
  reply : Option Reply

namespace Task

/-- The rollback of a transaction that was left open on a connection. -/
def cleanup (connection : Nat) : Task where
  connections := [connection]
  stage := .ready .rollback fun _ => .giveBack (.done .done)
  deadline := none
  progress := []
  reply := some .done

/-- The work of giving back all connections. -/
def leave (task : Task) : Work Reply :=
  task.connections.foldr (fun _ rest => .giveBack rest) (.done .done)

end Task

structure System where
  db : Database
  now : Nat
  faults : List ArmedFault
  capacity : Nat
  closed : Bool
  inUse : List Nat
  nextConnection : Nat
  tasks : List Task

/-- What can happen to a task: it gets a connection or is turned away, its statement is sent, a
statement that was held runs or has waited too long for a lock, its caller gives up. -/
inductive Move
  | connect (task : Nat)
  | turnAway (task : Nat)
  | send (task : Nat)
  | wake (task : Nat)
  | expire (task : Nat)
  | abandon (task : Nat)
  deriving DecidableEq, Repr

namespace System

/-- How long a connection is waited for. -/
def maxConnectWait : Duration := .ofMillis 30000

/-- A system in which nothing has happened. -/
def start (db : Database) (capacity : Nat) : System where
  db := db
  now := 0
  faults := []
  capacity := capacity
  closed := false
  inUse := []
  nextConnection := 0
  tasks := []

/-- Takes a connection back, after the rollback of what may still be open on it. -/
def giveBack (system : System) (connection : Nat) : System :=
  let session := system.db.session connection
  if session.alive && session.unended then
    { system with
      db := system.db.note connection false
      tasks := system.tasks ++ [.cleanup connection] }
  else
    { system with
      db := system.db.close connection
      inUse := system.inUse.erase connection }

/-- Carries work on to the next thing that it has to wait for. -/
def proceed (system : System) (task : Task) : Work Reply → System × Task
  | .done reply => (system, { task with stage := .finished, reply := task.reply <|> some reply })
  | .connect next => (system, { task with stage := .queued system.now next })
  | .giveBack rest =>
    match task.connections with
    | [] => proceed system task rest
    | connection :: connections =>
      proceed (system.giveBack connection) { task with connections } rest
  | .exec statement next => (system, { task with stage := .ready statement next })
  | .draw next =>
    proceed { system with db.serial := system.db.serial + 1 } task (next system.db.draw)
  | .report reply rest => proceed system { task with progress := task.progress ++ [reply] } rest

/-- Puts a task in its place. -/
def setTask (system : System) (index : Nat) (task : Task) : System :=
  { system with tasks := system.tasks.set index task }

/-- Carries the work of a task on. -/
def carryOn (system : System) (index : Nat) (task : Task) (work : Work Reply) : System :=
  let (system, task) := system.proceed task work
  system.setTask index task

/-- Starts a task on connections that its caller holds already. The number is that of the task. -/
def spawn (system : System) (connections : List Nat) (deadline : Option Deadline)
    (work : Work Reply) : System × Nat :=
  let (system, task) :=
    system.proceed
      { connections, deadline, stage := .finished, progress := [], reply := none } work
  ({ system with tasks := system.tasks ++ [task] }, system.tasks.length)

/-! ## Statements on their way -/

/-- A statement of a task on a connection, and what the task does with the answer. -/
structure Sending where
  index : Nat
  task : Task
  connection : Nat
  statement : Statement
  next : statement.Answer → Work Reply

/-- What comes of a statement: it is answered, by the database that has run it or in its place, or
it has to wait. -/
inductive Fate (statement : Statement)
  | answered (db : Database) (ran : Bool) (answer : statement.Answer)
  | held (db : Database) (twist : Twist) (hold : Hold)

/-- The statement runs, or waits for a lock. -/
def attempt (system : System) (connection : Nat) (statement : Statement) (twist : Twist) :
    Fate statement :=
  match system.db.run connection statement with
  | .blocked => .held (system.db.wait connection) twist (.locked system.now)
  | .answered db answer =>
    let (db, answer) := db.twisted connection statement twist answer
    .answered db true answer

/-- The statement meets the fault that strikes it. -/
def meet (system : System) (connection : Nat) (statement : Statement) :
    Option Fault → Fate statement
  | some (.refuse rejection) =>
    .answered (system.db.refuse connection statement) false (.error (.rejected rejection))
  | some .disconnect => .answered (system.db.disconnect connection) false (.error .connectionLost)
  | some .stall => .held system.db .none .stalled
  | some (.delay duration) => .held system.db .none (.delayed (system.now + duration.nanos))
  | some fault => system.attempt connection statement fault.twist
  | none => system.attempt connection statement .none

/-- The statement is sent. Faults strike only statements that reach a living connection and are not
refused because their transaction is aborted. -/
def send (system : System) (connection : Nat) (statement : Statement) :
    System × Fate statement :=
  if (system.db.session connection).alive = false then
    (system, .answered system.db false (.error .connectionLost))
  else if system.db.refusesAborted connection statement then
    (system, .answered system.db false (.error (.rejected .aborted)))
  else
    let (fault, faults) := ArmedFault.strike statement.name system.faults
    let db := if statement = .begin then system.db.note connection true else system.db
    let system := { system with faults, db }
    (system, system.meet connection statement fault)

/-- The answer reaches the task, or the task waits for it. -/
def settle (system : System) (sending : Sending) : Fate sending.statement → System
  | .answered db _ answer =>
    let db :=
      if sending.statement.isEnd && answer.toBool then db.note sending.connection false else db
    { system with db }.carryOn sending.index sending.task (sending.next answer)
  | .held db twist hold =>
    { system with db }.setTask sending.index
      { sending.task with stage := .sent sending.statement sending.next twist hold }

/-! ## Moves -/

/-- Whether a statement that is held may run now. -/
def mayWake (system : System) (connection : Nat) (statement : Statement) : Hold → Bool
  | .stalled => false
  | .delayed till => till ≤ system.now
  | .locked _ => (system.db.obstacle? connection statement).isNone

/-- The moment at which a statement has waited too long for a lock. -/
def lockWaitEnd? (system : System) (connection : Nat) : Hold → Option Nat
  | .locked since =>
    let limit := system.db.lockTimeoutMillis connection
    if limit = 0 then none else some (since + (Duration.ofMillis limit).nanos)
  | _ => none

/-- A statement whose turn has come, in the system that it meets, and what comes of it. -/
structure Arrival where
  sending : Sending
  system : System
  fate : Fate sending.statement

/-- The statement whose turn comes with a move, if the move is about one and can happen now. -/
def arrival? (system : System) : Move → Option Arrival
  | .send index => do
    let task ← system.tasks[index]?
    let .ready statement next := task.stage | none
    let connection ← task.connections.head?
    let (system, fate) := system.send connection statement
    return ⟨⟨index, task, connection, statement, next⟩, system, fate⟩
  | .wake index => do
    let task ← system.tasks[index]?
    let .sent statement next twist hold := task.stage | none
    let connection ← task.connections.head?
    guard (system.mayWake connection statement hold)
    return ⟨⟨index, task, connection, statement, next⟩, system,
      system.attempt connection statement twist⟩
  | .expire index => do
    let task ← system.tasks[index]?
    let .sent statement next _ hold := task.stage | none
    let connection ← task.connections.head?
    let limit ← system.lockWaitEnd? connection hold
    guard (limit ≤ system.now)
    return ⟨⟨index, task, connection, statement, next⟩, system,
      .answered (system.db.refuse connection statement) false (.error (.rejected .lockTimeout))⟩
  | .connect _ | .turnAway _ | .abandon _ => none

/-- What a move makes of the system, if it can happen now. -/
def move (system : System) : Move → Option System
  | .connect index => do
    let task ← system.tasks[index]?
    let .queued _ next := task.stage | none
    guard (!system.closed && system.inUse.length < system.capacity)
    let connection := system.nextConnection
    return { system with
      inUse := connection :: system.inUse
      nextConnection := connection + 1 }.carryOn index
        { task with connections := connection :: task.connections } (next (.ok ()))
  | .turnAway index => do
    let task ← system.tasks[index]?
    let .queued since next := task.stage | none
    if system.closed then
      return system.carryOn index task (next (.error .poolClosed))
    guard (since + maxConnectWait.nanos ≤ system.now)
    return system.carryOn index task (next (.error .poolTimedOut))
  | .abandon index => do
    let task ← system.tasks[index]?
    let deadline ← task.deadline
    guard (task.stage.isBounded && deadline.due ≤ system.now)
    let left := { task with
      deadline := none
      reply := task.reply <|> some (.failed (.timeout deadline.unit)) }
    match task.stage with
    | .sent statement _ twist hold =>
      return system.setTask index
        { left with stage := .sent statement (fun _ => task.leave) twist hold }
    | _ => return system.carryOn index left task.leave
  | move => (system.arrival? move).map fun ⟨sending, system, fate⟩ => system.settle sending fate

/-- Time passes. -/
def elapse (system : System) (till : Nat) : System := { system with now := max system.now till }

/-- Stalled statements are set free. -/
def unstall (system : System) : System :=
  { system with
    tasks := system.tasks.map fun task => { task with stage := task.stage.unstall system.now } }

/-- Closes the pool to all who do not have a connection yet. -/
def closePool (system : System) : System := { system with closed := true }

end System

end Passbook
