import Passbook.Database.Basic
import Passbook.Duration

/-! # Faults

Disturbances that can strike a statement. A fault is armed for the statements of one name and
strikes the one whose turn it is, counted from the arming; of several whose turn it is, the one
armed first strikes and the others wait for the next statement.

A fault acts before the statement (it is refused, its connection is lost, it stalls or is delayed)
or on what the statement is answered with, if it is not refused (`Twist`). -/

namespace Passbook

inductive Fault
  | refuse (rejection : Rejection)
  | disconnect
  | disconnectAfter
  | noRows
  | setBalance (value : Int)
  | stall
  | delay (duration : Duration)
  deriving DecidableEq, Repr

/-- What becomes of the answer to a statement that has run. -/
inductive Twist
  | none
  | noRows
  | setBalance (value : Int)
  | disconnect
  deriving DecidableEq, Repr

/-- The twist of a fault that lets the statement run. -/
def Fault.twist : Fault → Twist
  | disconnectAfter => .disconnect
  | noRows => .noRows
  | setBalance value => .setBalance value
  | refuse _ | disconnect | stall | delay _ => .none

/-- A fault that waits for its turn among the statements of one name. -/
structure ArmedFault where
  target : StatementName
  fault : Fault
  turn : Nat
  seen : Nat
  deriving Repr

namespace ArmedFault

def arm (target : StatementName) (fault : Fault) (turn : Nat) : ArmedFault :=
  ⟨target, fault, turn, 0⟩

/-- Counts a statement of the given name. -/
def count (name : StatementName) (armed : ArmedFault) : ArmedFault :=
  if armed.target = name then { armed with seen := armed.seen + 1 } else armed

/-- Whether it is the fault's turn to strike a statement of the given name. -/
def isDue (name : StatementName) (armed : ArmedFault) : Bool :=
  armed.target = name && armed.turn ≤ armed.seen

/-- The fault that strikes a statement of the given name, and the faults that remain armed. -/
def strike (name : StatementName) (armed : List ArmedFault) : Option Fault × List ArmedFault :=
  let counted := armed.map (count name)
  ((counted.find? (isDue name)).map (·.fault), counted.eraseP (isDue name))

end ArmedFault

namespace Database

/-- Twists the answer to a statement that has run on a connection. A refusal is told as it is. -/
def twisted (db : Database) (connection : Nat) (statement : Statement) (twist : Twist)
    (answer : statement.Answer) : Database × statement.Answer :=
  match answer, twist with
  | .error error, _ => (db, .error error)
  | .ok rows, .none => (db, .ok rows)
  | .ok _, .noRows => (db, .ok [])
  | .ok rows, .setBalance value =>
    (db, .ok (statement.mapAccounts (fun row => { row with balance := value }) rows))
  | .ok _, .disconnect => (db.disconnect connection, .error .connectionLost)

end Database

end Passbook
