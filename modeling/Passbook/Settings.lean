import Passbook.Duration
import Passbook.Failure
import Passbook.Text.Blank
import Passbook.Text.Digits

/-! # Settings

The settings of the ledger, read from environment variables. Only the address of the database has no
default. A number may have blanks around it and a plus sign before it; the first setting that cannot
be used is the one reported. -/

namespace Passbook

structure Settings where
  databaseUrl : String
  maxConnections : Nat
  minConnections : Nat
  environment : String
  transferTimeout : Duration
  lockTimeout : Option Duration
  deriving DecidableEq, Repr

/-- The environment: a text for each variable that is set. -/
abbrev Environment := String → Option String

namespace Settings

open Text

/-- The greatest number of connections that can be asked for. -/
def maxCount : Nat := 4294967295

/-- The greatest number of milliseconds that can be asked for. -/
def maxMillis : Nat := 18446744073709551615

/-- A number of at most `limit`: blanks, a plus sign or none, one digit or more, blanks. -/
def number? (limit : Nat) (text : String) : Option Nat :=
  let digits := match trim text.toList with
    | '+' :: rest => rest
    | rest => rest
  (decimal? digits).filter (· ≤ limit)

/-- The number in a variable, or the default if the variable is not set. -/
def numberAt (env : Environment) (key : String) (default limit : Nat) : Except SettingsError Nat :=
  match env key with
  | none => .ok default
  | some text => match number? limit text with
    | some value => .ok value
    | none => .error (.invalid key)

/-- Reads all settings. -/
def ofEnvironment (env : Environment) : Except SettingsError Settings := do
  let some databaseUrl := env "DATABASE_URL" | throw (.missing "DATABASE_URL")
  let maxConnections ← numberAt env "DATABASE_MAX_CONNECTIONS" 10 maxCount
  let minConnections ← numberAt env "DATABASE_MIN_CONNECTIONS" 0 maxCount
  if maxConnections = 0 ∨ maxConnections < minConnections then
    throw (.invalid "DATABASE_MAX_CONNECTIONS")
  let transferMillis ← numberAt env "TRANSFER_TIMEOUT_MS" 5000 maxMillis
  if transferMillis = 0 then throw (.invalid "TRANSFER_TIMEOUT_MS")
  let lockMillis ← numberAt env "LOCK_TIMEOUT_MS" 3000 maxMillis
  return {
    databaseUrl, maxConnections, minConnections
    environment := (env "ENVIRONMENT").getD "development"
    transferTimeout := .ofMillis transferMillis
    lockTimeout := if lockMillis = 0 then none else some (.ofMillis lockMillis) }

def isProduction (settings : Settings) : Bool := settings.environment = "production"

end Settings

end Passbook
