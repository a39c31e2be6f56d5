import Passbook.Proofs.Database.Answers
import Passbook.Proofs.Text.Written
import Passbook.Duration

/-! # Bounds on lock waits

A bound is told to the database as a text of whole milliseconds. The database keeps one of 1 to
`maxLockTimeout` milliseconds (`Duration.IsKept`); it refuses a greater one, and zero stands for no
bound. A bound that is set on a connection stays until its transaction ends: no statement about rows
changes it (`Tells.lockTimeoutMillis_query`). -/

namespace Passbook

/-! ## The text of a bound -/

namespace Duration

open Text

/-- The text that tells the database of a bound. -/
def lockTimeoutText (bound : Duration) : String := toString bound.millis ++ "ms"

/-- The milliseconds that such a text stands for. -/
def millisOfText? (text : String) : Option Nat :=
  if text.toList.dropWhile isDigit = ['m', 's'] then decimal? (text.toList.takeWhile isDigit)
  else none

/-- A bound that the database takes and that is one. -/
def IsKept (bound : Duration) : Prop :=
  0 < bound.millis ∧ bound.millis ≤ Database.maxLockTimeout

instance (bound : Duration) : Decidable bound.IsKept :=
  inferInstanceAs (Decidable (0 < bound.millis ∧ bound.millis ≤ Database.maxLockTimeout))

theorem isKept_iff (bound : Duration) :
    bound.IsKept ↔ 1000000 ≤ bound.nanos ∧ bound.nanos < 2147483648000000 := by
  simp only [IsKept, millis, Database.maxLockTimeout]
  omega

theorem millisOfText?_lockTimeoutText (bound : Duration) :
    millisOfText? bound.lockTimeoutText = some bound.millis := by
  have hdigits : ∀ c ∈ Nat.toDigits 10 bound.millis, c.isDigit = true :=
    fun _ => isDigit_of_mem_toDigits
  have htext : bound.lockTimeoutText.toList = Nat.toDigits 10 bound.millis ++ ['m', 's'] := by
    simp [lockTimeoutText, Nat.repr_eq_ofList_toDigits]
  have hunit : bound.lockTimeoutText.toList.dropWhile isDigit = ['m', 's'] := by
    rw [htext, List.dropWhile_append_of_pos fun c hc => by rw [isDigit_eq, hdigits c hc],
      List.dropWhile_cons_of_neg (by decide)]
  have hnumber : bound.lockTimeoutText.toList.takeWhile isDigit = Nat.toDigits 10 bound.millis := by
    rw [htext, List.takeWhile_append_of_pos fun c hc => by rw [isDigit_eq, hdigits c hc],
      List.takeWhile_cons_of_neg (by decide), List.append_nil]
  rw [millisOfText?, if_pos hunit, hnumber, decimal?_of_isDigit hdigits (toDigits_ne_nil _),
    Nat.ofDigitChars_ten_toDigits]

end Duration

/-! ## The bound of a connection -/

namespace Database

variable {Allowed : Twist → Prop} {db db' : Database} {connection : Nat} {statement : Statement}
  {ran : Bool} {answer : statement.Answer} {transaction : Transaction}

theorem lockTimeoutMillis_congr (h : db'.transaction? connection = db.transaction? connection) :
    db'.lockTimeoutMillis connection = db.lockTimeoutMillis connection := by
  unfold lockTimeoutMillis
  rw [h]

theorem lockTimeoutMillis_of_transaction (h : db.transaction? connection = some transaction) :
    db.lockTimeoutMillis connection = transaction.lockTimeoutMillis := by
  simp [lockTimeoutMillis, h]

theorem lockTimeoutMillis_abort (db : Database) (connection : Nat) :
    (db.abort connection).lockTimeoutMillis connection = db.lockTimeoutMillis connection := by
  cases ht : db.transaction? connection with
  | none => simp [abort, ht]
  | some transaction =>
    have ht' : (db.abort connection).transaction? connection =
        some { transaction with aborted := true } := by
      rw [transaction?, session_abort ht]
    rw [lockTimeoutMillis_of_transaction ht', lockTimeoutMillis_of_transaction ht]

theorem lockTimeoutMillis_change (db : Database) (connection : Nat) (changes : Books) :
    (db.change connection changes).lockTimeoutMillis connection =
      db.lockTimeoutMillis connection := by
  cases ht : db.transaction? connection with
  | none =>
    have ht' : Database.transaction? { db with serial := db.serial + changes.entries.length }
        connection = none := ht
    simp only [change, ht']
    rfl
  | some transaction =>
    have ht' : (db.change connection changes).transaction? connection =
        some { transaction with changes := transaction.changes.overlay changes } := by
      rw [transaction?, session_change ht]
    rw [lockTimeoutMillis_of_transaction ht', lockTimeoutMillis_of_transaction ht]

/-- The database takes a bound that is not out of range in every transaction that is not aborted. -/
theorem run_setLockTimeout_iff (ht : db.transaction? connection = some transaction)
    (ha : transaction.aborted = false) (millis : Nat) :
    (∃ db', db.run connection (.setLockTimeout millis) = .answered db' (.ok [])) ↔
      millis ≤ maxLockTimeout := by
  have hrefuses : db.refusesAborted connection (.setLockTimeout millis) = false :=
    (refusesAborted_of_open ht rfl).trans ha
  simp only [run, hrefuses, ht, Bool.false_eq_true, if_false]
  split
  · refine iff_of_false ?_ (by omega)
    rintro ⟨_, h⟩
    cases h
  · exact iff_of_true ⟨_, rfl⟩ (by omega)

/-- A statement about rows leaves the bound as it is, be it refused or not. -/
theorem lockTimeoutMillis_run (hq : statement.isQuery = true)
    (h : db.run connection statement = .answered db' answer) :
    db'.lockTimeoutMillis connection = db.lockTimeoutMillis connection := by
  have hlocked : (db.lockFor connection statement).lockTimeoutMillis connection =
      db.lockTimeoutMillis connection := lockTimeoutMillis_congr (transaction?_lockFor ..)
  cases runs_of_run h with
  | begun | committed | rolledBack | outOfRange | bounded | nothingToBound => cases hq
  | aborted => rfl
  | performed => exact (lockTimeoutMillis_change ..).trans hlocked
  | rejected => exact (lockTimeoutMillis_abort ..).trans hlocked

namespace Tells

/-- A statement about rows leaves the bound as it is, or the connection is lost. -/
theorem lockTimeoutMillis_query (h : db.Tells Allowed connection statement db' ran answer)
    (hq : statement.isQuery = true) :
    db'.lockTimeoutMillis connection = db.lockTimeoutMillis connection ∨
      (db'.session connection).alive = false := by
  have hend := Statement.isEnd_of_isQuery hq
  cases h.answers (Statement.ne_begin_of_isQuery hq) hend with
  | dead | aborted => exact .inl rfl
  | refused rejection =>
    rw [refuse, if_neg (by simp [hend])]
    exact .inl (lockTimeoutMillis_abort ..)
  | lost => exact .inr (disconnect_lost ..).1
  | @ran db' answer twist _ hr =>
    rcases twisted_cases db' connection twist answer with ⟨hdb, -⟩ | ⟨-, htwisted⟩
    · rw [hdb]
      exact .inl (lockTimeoutMillis_run hq hr)
    · rw [htwisted]
      exact .inr (disconnect_lost ..).1

/-- A bound that the client is told was set is in force, and it is not out of range. -/
theorem lockTimeoutMillis_set {millis : Nat} {answer : Statement.Answer (.setLockTimeout millis)}
    (h : db.Tells Allowed connection (.setLockTimeout millis) db' ran answer)
    (ht : db.transaction? connection = some transaction) (hok : answer.toBool = true) :
    db'.lockTimeoutMillis connection = millis ∧ millis ≤ maxLockTimeout := by
  have ht' : db'.transaction? connection =
      some { transaction with lockTimeoutMillis := millis } := by
    rw [transaction?, h.setLockTimeout ht hok]
  exact ⟨lockTimeoutMillis_of_transaction ht', (h.bounds hok).1⟩

end Tells

end Database

end Passbook
