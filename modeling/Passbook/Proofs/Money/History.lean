import Passbook.Money

/-! # Balances over time

What becomes of a balance that starts at zero or above and is credited, debited and compared with
amounts any number of times, where a step that fails leaves it as it was (`Balance.run`). At every
moment it is exact (`history_exact`): it is what the successful steps say, the next step fails only if
its sum would leave the range from zero to `maxMoney`, and a machine that computes with words of 64
bits computes the same. What carries this is that the balance never falls below zero: a difference of
words can only wrap below it (`Balance.toInt_word_sub`). -/

namespace Passbook

/-! ## Machine words -/

/-- The word that holds an amount. -/
def Amount.word (amount : Amount) : Int64 := .ofInt amount.value

/-- The word that holds a balance. -/
def Balance.word (balance : Balance) : Int64 := .ofInt balance.value

theorem Amount.toInt_word (amount : Amount) : amount.word.toInt = amount.value :=
  Int64.toInt_ofInt_of_le (Int.le_trans (by decide) (Int.le_of_lt amount.value_pos))
    (Int.lt_add_one_of_le amount.value_le)

namespace Balance

variable {balance other : Balance} {amount : Amount}

theorem toInt_word (balance : Balance) : balance.word.toInt = balance.value :=
  Int64.toInt_ofInt_of_le balance.le_value (Int.lt_add_one_of_le balance.value_le)

/-- A difference of words wraps exactly where the difference is out of range. -/
theorem toInt_word_sub (balance : Balance) (amount : Amount) :
    (balance.word - amount.word).toInt = balance.value - amount.value ↔
      minMoney ≤ balance.value - amount.value := by
  have hlow := balance.le_value
  have hhigh := balance.value_le
  have hpos := amount.value_pos
  have hle := amount.value_le
  rw [Int64.toInt_sub, toInt_word, Amount.toInt_word]
  simp only [Int.bmod, minMoney, maxMoney] at *
  omega

/-- A sum of words wraps exactly where the sum is out of range. -/
theorem toInt_word_add (balance : Balance) (amount : Amount) :
    (balance.word + amount.word).toInt = balance.value + amount.value ↔
      balance.value + amount.value ≤ maxMoney := by
  have hlow := balance.le_value
  have hhigh := balance.value_le
  have hpos := amount.value_pos
  have hle := amount.value_le
  rw [Int64.toInt_add, toInt_word, Amount.toInt_word]
  simp only [Int.bmod, minMoney, maxMoney] at *
  omega

/-! ## One step -/

theorem covers_iff : balance.covers amount = true ↔ amount.value ≤ balance.value := by
  simp [covers]

theorem debit_eq_ok_iff : balance.debit amount = .ok other ↔
    0 ≤ balance.value - amount.value ∧ other.value = balance.value - amount.value :=
  ofInt_eq_ok_iff

theorem credit_eq_ok_iff : balance.credit amount = .ok other ↔
    0 ≤ balance.value + amount.value ∧ other.value = balance.value + amount.value :=
  ofInt_eq_ok_iff

/-- A number is refused as negative or as out of range, or it is a balance. -/
theorem ofInt_cases (value : Int) :
    value < 0 ∧ ofInt value = .error (.negative value) ∨
      maxMoney < value ∧ ofInt value = .error .overflow ∨
      0 ≤ value ∧ value ≤ maxMoney ∧ ∃ balance, ofInt value = .ok balance ∧ balance.value = value := by
  unfold ofInt
  split
  · rename_i hnonneg
    split
    · rename_i hle
      exact .inr (.inr ⟨hnonneg, hle, _, rfl, rfl⟩)
    · rename_i hlt
      exact .inr (.inl ⟨Int.lt_of_not_ge hlt, rfl⟩)
  · rename_i hneg
    exact .inl ⟨Int.lt_of_not_ge hneg, rfl⟩

/-- What a debit or a credit of the amount comes to: the exact difference and the exact sum, or a
refusal where these are out of range, and each undoes the other. No word wraps that is used. -/
structure Exact (balance : Balance) (amount : Amount) : Prop where
  difference : (balance.word - amount.word).toInt = balance.value - amount.value
  debited : balance.covers amount = true → ∃ left, balance.debit amount = .ok left ∧
    left.value = balance.value - amount.value ∧ left.credit amount = .ok balance
  overdrawn : balance.covers amount = false →
    balance.debit amount = .error (.negative (balance.value - amount.value))
  credited : balance.value + amount.value ≤ maxMoney → ∃ grown, balance.credit amount = .ok grown ∧
    grown.value = balance.value + amount.value ∧
    (balance.word + amount.word).toInt = grown.value ∧ grown.debit amount = .ok balance
  overflown : maxMoney < balance.value + amount.value → balance.credit amount = .error .overflow

theorem exact_of_nonneg (h : 0 ≤ balance.value) (amount : Amount) : balance.Exact amount := by
  have hpos := amount.value_pos
  have hle := amount.value_le
  have hhigh := balance.value_le
  constructor
  case difference =>
    rw [toInt_word_sub]
    simp only [minMoney, maxMoney] at *
    omega
  case debited =>
    intro hcovers
    rw [covers_iff] at hcovers
    rcases ofInt_cases (balance.value - amount.value) with ⟨hneg, -⟩ | ⟨hlt, -⟩ | ⟨-, -, left, hok, hv⟩
    · omega
    · omega
    · exact ⟨left, hok, hv, credit_eq_ok_iff.mpr (by omega)⟩
  case overdrawn =>
    intro hcovers
    rw [← Bool.not_eq_true, covers_iff] at hcovers
    rcases ofInt_cases (balance.value - amount.value) with ⟨-, herror⟩ | ⟨hlt, -⟩ | ⟨hnonneg, -⟩
    · exact herror
    · omega
    · omega
  case credited =>
    intro hfits
    rcases ofInt_cases (balance.value + amount.value) with ⟨hneg, -⟩ | ⟨hlt, -⟩ | ⟨-, -, grown, hok, hv⟩
    · omega
    · omega
    · exact ⟨grown, hok, hv, by rw [hv, (toInt_word_add balance amount).mpr hfits],
        debit_eq_ok_iff.mpr (by omega)⟩
  case overflown =>
    intro hlt
    rcases ofInt_cases (balance.value + amount.value) with ⟨hneg, -⟩ | ⟨-, herror⟩ | ⟨-, hle, -⟩
    · omega
    · exact herror
    · omega

/-! ## Any number of steps -/

/-- What can be done with a balance: money comes in, money goes out, or it is asked whether an amount
is covered. -/
inductive Step
  | credit (amount : Amount)
  | debit (amount : Amount)
  | check (amount : Amount)

/-- The balance after a step, which is the one before it if the step fails. -/
def step (balance : Balance) : Step → Balance
  | .credit amount => (balance.credit amount).toOption.getD balance
  | .debit amount => (balance.debit amount).toOption.getD balance
  | .check _ => balance

/-- The balance after all the steps. -/
def run (balance : Balance) (steps : List Step) : Balance := steps.foldl step balance

/-- What a step brings in, if it is a credit that succeeds. -/
def gain (balance : Balance) : Step → Int
  | .credit amount => if (balance.credit amount).toBool then amount.value else 0
  | .debit _ | .check _ => 0

/-- What a step takes out, if it is a debit that succeeds. -/
def loss (balance : Balance) : Step → Int
  | .debit amount => if (balance.debit amount).toBool then amount.value else 0
  | .credit _ | .check _ => 0

/-- The successful credits among the steps, added up. -/
def gains : Balance → List Step → Int
  | _, [] => 0
  | balance, step :: steps => balance.gain step + (balance.step step).gains steps

/-- The successful debits among the steps, added up. -/
def losses : Balance → List Step → Int
  | _, [] => 0
  | balance, step :: steps => balance.loss step + (balance.step step).losses steps

theorem step_spec (h : 0 ≤ balance.value) (taken : Step) :
    0 ≤ (balance.step taken).value ∧
      (balance.step taken).value = balance.value + balance.gain taken - balance.loss taken := by
  cases taken with
  | credit amount =>
    simp only [step, gain, loss]
    cases hok : balance.credit amount with
    | error => simpa [Except.toOption, Except.toBool] using h
    | ok grown =>
      have hgrown := credit_eq_ok_iff.mp hok
      simp only [Except.toOption, Except.toBool, Option.getD_some, if_true]
      omega
  | debit amount =>
    simp only [step, gain, loss]
    cases hok : balance.debit amount with
    | error => simpa [Except.toOption, Except.toBool] using h
    | ok left =>
      have hleft := debit_eq_ok_iff.mp hok
      simp only [Except.toOption, Except.toBool, Option.getD_some, if_true]
      omega
  | check => simpa [step, gain, loss] using h

theorem run_spec (h : 0 ≤ balance.value) (steps : List Step) :
    0 ≤ (balance.run steps).value ∧
      (balance.run steps).value = balance.value + balance.gains steps - balance.losses steps := by
  induction steps generalizing balance with
  | nil => simpa [run, gains, losses] using h
  | cons taken steps ih =>
    obtain ⟨hnonneg, hvalue⟩ := step_spec h taken
    obtain ⟨hnonneg', hvalue'⟩ := ih hnonneg
    simp only [run, List.foldl_cons, gains, losses] at *
    exact ⟨hnonneg', by omega⟩

/-- A balance that starts at zero or above is at every moment what it was at the start with the
successful credits and without the successful debits. It stays in range, and the next step is exact,
whatever its amount. -/
theorem history_exact {start : Balance} (h : 0 ≤ start.value) (steps : List Step) :
    (start.run steps).value = start.value + start.gains steps - start.losses steps ∧
      0 ≤ (start.run steps).value ∧ (start.run steps).value ≤ maxMoney ∧
      ∀ amount, (start.run steps).Exact amount := by
  obtain ⟨hnonneg, hvalue⟩ := run_spec h steps
  exact ⟨hvalue, hnonneg, (start.run steps).value_le, exact_of_nonneg hnonneg⟩

/-- Steps of each kind, and among them a credit past the range and a debit that is not covered. -/
def mixedSteps : List Step :=
  [.credit ⟨maxMoney, by decide, by decide⟩, .debit ⟨30, by decide, by decide⟩,
    .check ⟨69, by decide, by decide⟩, .debit ⟨71, by decide, by decide⟩,
    .credit ⟨5, by decide, by decide⟩]

/-- Of the five steps two succeed. -/
theorem history_exact_mixed : ∃ start : Balance, 0 ≤ start.value ∧ start.value = 100 ∧
    (start.run mixedSteps).value = 100 + 5 - 30 ∧ ∀ amount, (start.run mixedSteps).Exact amount := by
  have hstart : 0 ≤ Balance.value ⟨100, by decide, by decide⟩ := by decide
  obtain ⟨hvalue, -, -, hexact⟩ := history_exact hstart mixedSteps
  exact ⟨_, by decide, rfl, hvalue.trans (by decide), hexact⟩

end Balance

end Passbook
