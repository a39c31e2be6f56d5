import Passbook.System.Basic

/-! # The prompt schedule

One way through the moves of a system: whatever can happen happens at the earliest moment, a
deadline before anything else at its moment, and otherwise tasks move in the order in which they
came. Time passes only when nothing can happen now, and only as far as to the next move. -/

namespace Passbook.System

/-- The move of a task towards its end, and the earliest moment for it. -/
def onward? (system : System) (index : Nat) (task : Task) : Option (Nat × Move) :=
  match task.stage with
  | .queued since _ =>
    if system.closed then some (system.now, .turnAway index)
    else if system.inUse.length < system.capacity then some (system.now, .connect index)
    else some (since + maxConnectWait.nanos, .turnAway index)
  | .ready .. => some (system.now, .send index)
  | .sent statement _ _ hold => do
    let connection ← task.connections.head?
    if system.mayWake connection statement hold then some (system.now, .wake index)
    else match hold with
      | .stalled => none
      | .delayed till => some (till, .wake index)
      | .locked _ => (system.lockWaitEnd? connection hold).map fun till => (till, .expire index)
  | .finished => none

/-- The move by which a task's caller gives up, and the moment for it. Work that is turned away from
a closed pool ends before its deadline is looked at. -/
def deadline? (system : System) (index : Nat) (task : Task) : Option (Nat × Move) :=
  match task.stage, task.deadline with
  | .queued .., some deadline =>
    if system.closed then none else some (deadline.due, .abandon index)
  | stage, some deadline => if stage.isBounded then some (deadline.due, .abandon index) else none
  | _, none => none

/-- The earlier of two moves, the first one if they are equally early. -/
def earlier : Option (Nat × Move) → Option (Nat × Move) → Option (Nat × Move)
  | some a, some b => if b.1 < a.1 then some b else some a
  | some a, none => some a
  | none, b => b

/-- The next move of all, and the moment for it. -/
def next? (system : System) : Option (Nat × Move) :=
  system.tasks.zipIdx.foldl
    (fun best (task, index) =>
      earlier best (earlier (system.deadline? index task) (system.onward? index task))) none

/-- Follows the schedule until the condition holds, for so many moves at most. There is no result if
nothing more can happen before that. -/
def follow (goal : System → Bool) : Nat → System → Option System
  | moves, system =>
    if goal system then some system
    else match moves, system.next? with
      | moves + 1, some (moment, move) => ((system.elapse moment).move move).bind (follow goal moves)
      | _, _ => none

/-- Whether a task has nothing to wait for but a stalled statement or somebody else's lock. -/
def isAtRest (system : System) (task : Task) : Bool :=
  match task.stage with
  | .finished => true
  | .sent statement _ _ hold =>
    match hold, task.connections.head? with
    | .delayed _, _ => false
    | _, some connection => !system.mayWake connection statement hold
    | _, none => true
  | .queued .. | .ready .. => false

/-- Whether all that goes on behind the callers' backs has come to rest. -/
def isQuiet (system : System) : Bool := system.tasks.all system.isAtRest

/-- The reply to a task's caller. -/
def reply? (system : System) (index : Nat) : Option Reply :=
  system.tasks[index]?.bind (·.reply)

/-- Whether the callers of all the given tasks have their replies. -/
def haveReplied (indices : List Nat) (system : System) : Bool :=
  indices.all fun index => (system.reply? index).isSome

/-- Forgets the tasks that are finished. -/
def sweep (system : System) : System :=
  { system with tasks := system.tasks.filter fun task => !task.stage.isFinished }

end Passbook.System
