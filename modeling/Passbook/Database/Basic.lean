import Passbook.Database.Effect

/-! # The database

Committed books, open transactions and row locks. A transaction sees the committed books with its
own changes laid over them; a commit publishes the changes at once, and anything else that ends the
transaction forgets them. Locks on rows are held to the end of the transaction. A refused statement
aborts its transaction: nothing but its end is accepted after that, and a commit of it forgets its
changes without saying so. A statement outside a transaction is a transaction of its own.

Some locking of a server is left out. A row that refers to another one, as an entry to its account,
takes no lock on it. An addition does not wait for an open transaction that has added an equal key; where
that matters it is assumed that there is none. And an aborted transaction keeps its locks until its end,
where a server may give them up before.

`Database.run` is the meaning of one statement on one connection when nothing disturbs it. -/

namespace Passbook

/-- A transaction that has begun and not ended. -/
structure Transaction where
  began : Instant
  changes : Books
  lockTimeoutMillis : Nat
  aborted : Bool
  deriving Repr

/-- One connection as its two ends see it. `unended` is what the client knows: it has sent the
beginning of a transaction and has not been told of its end. `waiting` is when the statement arrived
that stands alone on the connection and waits for a lock. -/
structure Session where
  alive : Bool
  unended : Bool
  transaction : Option Transaction
  waiting : Option Instant
  deriving Repr

/-- A connection on which nothing has happened. -/
def Session.fresh : Session := ⟨true, false, none, none⟩

structure Database where
  books : Books
  users : List Uuid
  tables : List String
  clock : Instant
  serial : Nat
  locks : List (Int × Nat)
  sessions : List (Nat × Session)
  draws : Draws := .counted

/-- How a statement fares: it is answered, or it must wait for a row lock. -/
inductive Outcome (statement : Statement)
  | answered (db : Database) (answer : statement.Answer)
  | blocked

namespace Rejection

/-- The refusal of statements in an aborted transaction. -/
def aborted : Rejection :=
  ⟨"25P02",
    "current transaction is aborted, commands ignored until end of transaction block", none⟩

/-- The end of a wait for a row lock that took too long. -/
def lockTimeout : Rejection := ⟨"55P03", "canceling statement due to lock timeout", none⟩

/-- A bound on lock waits that is out of range. -/
def invalidLockTimeout (millis : Nat) : Rejection :=
  ⟨"22023", s!"invalid value for parameter \"lock_timeout\": \"{millis}ms\"", none⟩

end Rejection

namespace Database

/-- The greatest bound on lock waits, in milliseconds. -/
def maxLockTimeout : Nat := 2147483647

def session (db : Database) (connection : Nat) : Session :=
  (db.sessions.lookup connection).getD .fresh

def setSession (db : Database) (connection : Nat) (session : Session) : Database :=
  { db with
    sessions := (connection, session) :: db.sessions.filter (·.1 != connection) }

/-- What is drawn next. -/
def draw (db : Database) : Draw := db.draws.draw db.serial

/-- The open transaction of a connection. -/
def transaction? (db : Database) (connection : Nat) : Option Transaction :=
  (db.session connection).transaction

def setTransaction (db : Database) (connection : Nat) (transaction : Option Transaction) :
    Database :=
  db.setSession connection { db.session connection with transaction }

/-- The books as a connection sees them. -/
def view (db : Database) (connection : Nat) : Books :=
  match db.transaction? connection with
  | some transaction => db.books.overlay transaction.changes
  | none => db.books

/-- What a statement on a connection finds around it. The time is that at which its transaction began;
that of a statement which stands alone begins when the statement arrives, though it may have to wait
before it runs. -/
def surroundings (db : Database) (connection : Nat) : Surroundings where
  users := db.users
  tables := db.tables
  now := ((db.transaction? connection).map (·.began)).getD
    ((db.session connection).waiting.getD db.clock)
  serial := db.serial
  draws := db.draws

/-- The connection that holds the lock on an account's row. -/
def holder? (db : Database) (account : Int) : Option Nat := db.locks.lookup account

/-- Whether a connection may lock an account's row now. -/
def lockable (db : Database) (connection : Nat) (account : Int) : Bool :=
  (db.holder? account).all (· == connection)

/-- The row whose lock a statement on a connection needs and cannot have. -/
def obstacle? (db : Database) (connection : Nat) (statement : Statement) : Option Int :=
  (statement.lockedAccount? db.books).filter fun account =>
    !db.lockable connection account

/-- Gives a lock to a connection, unless it has it. -/
def lock (db : Database) (connection : Nat) (account : Int) : Database :=
  if db.holder? account = some connection then db
  else { db with locks := db.locks ++ [(account, connection)] }

/-- Ends a connection's transaction without a trace in the books. -/
def forget (db : Database) (connection : Nat) : Database :=
  { db with locks := db.locks.filter (·.2 != connection) }.setTransaction connection none

/-- Ends a connection's transaction and publishes its changes, if it was not aborted. -/
def publish (db : Database) (connection : Nat) : Database :=
  match db.transaction? connection with
  | some transaction =>
    if transaction.aborted then db.forget connection
    else { db with books := db.books.overlay transaction.changes }.forget connection
  | none => db

/-- Opens a transaction on a connection that has none. -/
def enter (db : Database) (connection : Nat) : Database :=
  match db.transaction? connection with
  | some _ => db
  | none =>
    db.setTransaction connection
      (some { began := db.clock, changes := .empty, lockTimeoutMillis := 0, aborted := false })

/-- Marks a connection's transaction as aborted. -/
def abort (db : Database) (connection : Nat) : Database :=
  match db.transaction? connection with
  | some transaction => db.setTransaction connection (some { transaction with aborted := true })
  | none => db

/-- What a refusal leaves behind: the end of a transaction is its rollback, however it is refused,
and any other refused statement aborts the transaction. -/
def refuse (db : Database) (connection : Nat) (statement : Statement) : Database :=
  if statement.isEnd then db.forget connection else db.abort connection

/-- Loses a connection, with the transaction on it. -/
def disconnect (db : Database) (connection : Nat) : Database :=
  let db := db.forget connection
  db.setSession connection { db.session connection with alive := false }

/-- Closes a connection for good, and forgets the transaction that is open on it. -/
def close (db : Database) (connection : Nat) : Database :=
  let db := db.forget connection
  { db with sessions := db.sessions.filter (·.1 != connection) }

/-- Notes what the client of a connection knows of its transaction. -/
def note (db : Database) (connection : Nat) (unended : Bool) : Database :=
  db.setSession connection { db.session connection with unended }

/-- Notes when a statement arrived that must wait and stands alone, if it has not waited before. -/
def wait (db : Database) (connection : Nat) : Database :=
  match db.transaction? connection with
  | some _ => db
  | none =>
    db.setSession connection
      { db.session connection with waiting := (db.session connection).waiting <|> some db.clock }

/-- Makes changes on behalf of a connection: in its transaction, or at once. -/
def change (db : Database) (connection : Nat) (changes : Books) : Database :=
  let db := { db with serial := db.serial + changes.entries.length }
  match db.transaction? connection with
  | some transaction =>
    db.setTransaction connection
      (some { transaction with changes := transaction.changes.overlay changes })
  | none => { db with books := db.books.overlay changes }

/-- Whether a statement is refused because the transaction it belongs to is aborted. -/
def refusesAborted (db : Database) (connection : Nat) (statement : Statement) : Bool :=
  (db.transaction? connection).any (·.aborted) && !statement.isEnd

/-- Gives the lock that a statement needs to the transaction of its connection. The wait of a statement
that stands alone is over. -/
def lockFor (db : Database) (connection : Nat) (statement : Statement) : Database :=
  match db.transaction? connection, statement.lockedAccount? db.books with
  | some _, some account => db.lock connection account
  | some _, none => db
  | none, _ => db.setSession connection { db.session connection with waiting := none }

/-- Runs a statement on the rows of a view, its lock being free. -/
def perform (db : Database) (connection : Nat) (statement : Statement) :
    Database × statement.Answer :=
  match statement.effect (db.surroundings connection) (db.view connection) with
  | .ok effect =>
    ((db.lockFor connection statement).change connection effect.changes, .ok effect.rows)
  | .error rejection =>
    ((db.lockFor connection statement).abort connection, .error (.rejected rejection))

/-- Runs a statement on a connection. -/
def run (db : Database) (connection : Nat) : (statement : Statement) → Outcome statement
  | .begin => .answered (db.enter connection) (.ok [])
  | .commit => .answered (db.publish connection) (.ok [])
  | .rollback => .answered (db.forget connection) (.ok [])
  | .setLockTimeout millis =>
    if db.refusesAborted connection (.setLockTimeout millis) then
      .answered db (.error (.rejected .aborted))
    else if maxLockTimeout < millis then
      .answered (db.abort connection) (.error (.rejected (.invalidLockTimeout millis)))
    else match db.transaction? connection with
      | some transaction =>
        .answered (db.setTransaction connection
          (some { transaction with lockTimeoutMillis := millis })) (.ok [])
      | none => .answered db (.ok [])
  | statement =>
    if db.refusesAborted connection statement then .answered db (.error (.rejected .aborted))
    else if (db.obstacle? connection statement).isSome then .blocked
    else
      let (db, answer) := db.perform connection statement
      .answered db answer

/-- The bound on lock waits that is in force on a connection; zero stands for none. -/
def lockTimeoutMillis (db : Database) (connection : Nat) : Nat :=
  ((db.transaction? connection).map (·.lockTimeoutMillis)).getD 0

end Database

end Passbook
