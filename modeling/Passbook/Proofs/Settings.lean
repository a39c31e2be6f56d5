import Passbook.Proofs.Text.Trimmed
import Passbook.Settings

/-! # Environments that are accepted

The number that an environment gives for a variable is that of its text, or the default (`Gives`).
From these numbers the settings that an environment states follow (`States`), and the checks that it
must pass, in their order (`checks`). Settings are read exactly so (`ofEnvironment_exact`): an
environment that passes all checks is read as what it states, any other fails with the error of the
first check that it does not pass, and nothing but the documented variables counts. -/

namespace Passbook.Settings

open Text

variable {env : Environment} {settings settings' : Settings} {error error' : SettingsError}
  {key : String} {default limit value : Nat}

theorem number?_eq_some_iff {text : String} :
    number? limit text = some value ↔ IsNumber text.toList value ∧ value ≤ limit := by
  rw [number?, Option.filter_eq_some_iff, decide_eq_true_iff]
  refine and_congr_left fun _ => ⟨fun h => ?_, fun h => ?_⟩
  · split at h
    · rename_i hplus
      exact isNumber_of_trim (.inr hplus) h
    · exact isNumber_of_trim (.inl rfl) h
  · obtain ⟨digits, htrim | htrim, hvalue⟩ := h.exists_digits
    · obtain ⟨-, hdigits, -⟩ := decimal?_eq_some_iff.mp hvalue
      rw [htrim]
      split
      · cases hdigits '+' List.mem_cons_self
      · exact hvalue
    · rw [htrim]
      exact hvalue

/-! ## Numbers -/

/-- The environment gives the number for a variable, by its text or, where it is not set, by the
default. -/
inductive Gives (env : Environment) (key : String) (default limit : Nat) : Nat → Prop
  | unset : env key = none → Gives env key default limit default
  | set {text : String} {value : Nat} : env key = some text → IsNumber text.toList value →
      value ≤ limit → Gives env key default limit value

theorem numberAt_eq_ok_iff :
    numberAt env key default limit = .ok value ↔ Gives env key default limit value := by
  unfold numberAt
  constructor
  · intro h
    split at h
    · rename_i hunset
      cases h
      exact .unset hunset
    · rename_i hset
      split at h
      · rename_i hnumber
        cases h
        obtain ⟨hnumber, hle⟩ := number?_eq_some_iff.mp hnumber
        exact .set hset hnumber hle
      · cases h
  · intro h
    cases h with
    | unset hunset => rw [hunset]
    | set hset hnumber hle => simp only [hset, number?_eq_some_iff.mpr ⟨hnumber, hle⟩]

theorem Gives.unique {value' : Nat} (h : Gives env key default limit value)
    (h' : Gives env key default limit value') : value = value' :=
  Except.ok.inj ((numberAt_eq_ok_iff.mpr h).symm.trans (numberAt_eq_ok_iff.mpr h'))

/-- A variable gives a number, or it is reported. -/
theorem gives_or_invalid (env : Environment) (key : String) (default limit : Nat) :
    (∃ value, numberAt env key default limit = .ok value ∧ Gives env key default limit value) ∨
      numberAt env key default limit = .error (.invalid key) ∧
        ¬ ∃ value, Gives env key default limit value := by
  cases h : numberAt env key default limit with
  | ok value => exact .inl ⟨value, rfl, numberAt_eq_ok_iff.mp h⟩
  | error error =>
    refine .inr ⟨?_, fun ⟨value, hgives⟩ => ?_⟩
    · unfold numberAt at h
      split at h
      · cases h
      · split at h <;> cases h
        rfl
    · cases h.symm.trans (numberAt_eq_ok_iff.mpr hgives)

/-! ## What an environment states -/

/-- The numbers that the environment gives. -/
abbrev GivesMaxConnections (env : Environment) : Nat → Prop :=
  Gives env "DATABASE_MAX_CONNECTIONS" 10 maxCount

abbrev GivesMinConnections (env : Environment) : Nat → Prop :=
  Gives env "DATABASE_MIN_CONNECTIONS" 0 maxCount

abbrev GivesTransferMillis (env : Environment) : Nat → Prop :=
  Gives env "TRANSFER_TIMEOUT_MS" 5000 maxMillis

abbrev GivesLockMillis (env : Environment) : Nat → Prop :=
  Gives env "LOCK_TIMEOUT_MS" 3000 maxMillis

/-- The settings are those that the environment states. -/
structure States (env : Environment) (settings : Settings) : Prop where
  databaseUrl : env "DATABASE_URL" = some settings.databaseUrl
  maxConnections : GivesMaxConnections env settings.maxConnections
  minConnections : GivesMinConnections env settings.minConnections
  one_le_max : 1 ≤ settings.maxConnections
  min_le_max : settings.minConnections ≤ settings.maxConnections
  environment : settings.environment = (env "ENVIRONMENT").getD "development"
  transferTimeout : ∃ millis, GivesTransferMillis env millis ∧ millis ≠ 0 ∧
    settings.transferTimeout = .ofMillis millis
  lockTimeout : ∃ millis, GivesLockMillis env millis ∧
    settings.lockTimeout = if millis = 0 then none else some (.ofMillis millis)

/-- Something that is asked of an environment, and the error if it is not so. -/
structure Check where
  error : SettingsError
  holds : Prop

/-- All that is asked of an environment, in order. -/
def checks (env : Environment) : List Check :=
  [⟨.missing "DATABASE_URL", ∃ url, env "DATABASE_URL" = some url⟩,
    ⟨.invalid "DATABASE_MAX_CONNECTIONS", ∃ max, GivesMaxConnections env max⟩,
    ⟨.invalid "DATABASE_MIN_CONNECTIONS", ∃ min, GivesMinConnections env min⟩,
    ⟨.invalid "DATABASE_MAX_CONNECTIONS", ∃ max min, GivesMaxConnections env max ∧
      GivesMinConnections env min ∧ 1 ≤ max ∧ min ≤ max⟩,
    ⟨.invalid "TRANSFER_TIMEOUT_MS", ∃ millis, GivesTransferMillis env millis⟩,
    ⟨.invalid "TRANSFER_TIMEOUT_MS", ∃ millis, GivesTransferMillis env millis ∧ millis ≠ 0⟩,
    ⟨.invalid "LOCK_TIMEOUT_MS", ∃ millis, GivesLockMillis env millis⟩]

/-- The error is that of the first check that does not hold. -/
inductive FirstFailing : List Check → SettingsError → Prop
  | here {check : Check} {later : List Check} : ¬ check.holds →
      FirstFailing (check :: later) check.error
  | later {check : Check} {later : List Check} {error : SettingsError} : check.holds →
      FirstFailing later error → FirstFailing (check :: later) error

theorem FirstFailing.unique {checks : List Check} (h : FirstFailing checks error)
    (h' : FirstFailing checks error') : error = error' := by
  induction h with
  | here hfails =>
    cases h' with
    | here => rfl
    | later hholds => exact absurd hholds hfails
  | later hholds _ ih =>
    cases h' with
    | here hfails => exact absurd hholds hfails
    | later _ hlater => exact ih hlater

theorem FirstFailing.not_all {checks : List Check} (h : FirstFailing checks error) :
    ¬ ∀ check ∈ checks, check.holds := by
  induction h with
  | here hfails => exact fun hall => hfails (hall _ List.mem_cons_self)
  | later _ _ ih => exact fun hall => ih fun check hmem => hall check (List.mem_cons_of_mem _ hmem)

namespace States

theorem unique (h : States env settings) (h' : States env settings') : settings = settings' := by
  obtain ⟨transfer, htransfer, -, htransferTimeout⟩ := h.transferTimeout
  obtain ⟨transfer', htransfer', -, htransferTimeout'⟩ := h'.transferTimeout
  obtain ⟨lock, hlock, hlockTimeout⟩ := h.lockTimeout
  obtain ⟨lock', hlock', hlockTimeout'⟩ := h'.lockTimeout
  obtain rfl := htransfer.unique htransfer'
  obtain rfl := hlock.unique hlock'
  have hurl := Option.some.inj (h.databaseUrl.symm.trans h'.databaseUrl)
  have hmax := h.maxConnections.unique h'.maxConnections
  have hmin := h.minConnections.unique h'.minConnections
  have henvironment := h.environment.trans h'.environment.symm
  have htimeout := htransferTimeout.trans htransferTimeout'.symm
  have hbound := hlockTimeout.trans hlockTimeout'.symm
  obtain ⟨⟩ := settings
  obtain ⟨⟩ := settings'
  simp_all

/-- An environment that states settings passes all checks. -/
theorem checks (h : States env settings) : ∀ check ∈ checks env, check.holds := by
  obtain ⟨transfer, htransfer, hpositive, -⟩ := h.transferTimeout
  obtain ⟨lock, hlock, -⟩ := h.lockTimeout
  simp only [Settings.checks, List.forall_mem_cons]
  exact ⟨⟨_, h.databaseUrl⟩, ⟨_, h.maxConnections⟩, ⟨_, h.minConnections⟩,
    ⟨_, _, h.maxConnections, h.minConnections, h.one_le_max, h.min_le_max⟩,
    ⟨_, htransfer⟩, ⟨_, htransfer, hpositive⟩, ⟨_, hlock⟩, nofun⟩

end States

/-! ## What is read -/

section

variable {α : Type} {Good : α → Prop} {check : Check} {rest : List Check}

/-- The result is a good one, or it is the error of the first check that does not hold. -/
def Decides (checks : List Check) (Good : α → Prop) (result : Except SettingsError α) : Prop :=
  (∃ value, result = .ok value ∧ Good value) ∨
    ∃ error, result = .error error ∧ FirstFailing checks error

theorem Decides.cons {result : Except SettingsError α} (h : Decides rest Good result)
    (hholds : check.holds) : Decides (check :: rest) Good result :=
  h.imp_right fun ⟨error, hresult, hfails⟩ => ⟨error, hresult, .later hholds hfails⟩

theorem decides_error (hfails : ¬ check.holds) :
    Decides (check :: rest) Good (.error check.error) :=
  .inr ⟨check.error, rfl, .here hfails⟩

/-- A number is read, if there is one. -/
theorem decides_numberAt {f : Nat → Except SettingsError α}
    (h : ∀ value, Gives env key default limit value → Decides rest Good (f value)) :
    Decides (⟨.invalid key, ∃ value, Gives env key default limit value⟩ :: rest) Good
      (numberAt env key default limit >>= f) := by
  rcases gives_or_invalid env key default limit with ⟨value, hnumber, hgives⟩ | ⟨hnumber, hnone⟩
  · rw [hnumber]
    exact (h value hgives).cons ⟨value, hgives⟩
  · rw [hnumber]
    exact decides_error hnone

/-- What was read is refused if a condition is met. -/
theorem decides_unless {p : Prop} [Decidable p] {f : Unit → Except SettingsError α}
    (hcheck : check.holds ↔ ¬ p) (h : ¬ p → Decides rest Good (f ())) :
    Decides (check :: rest) Good (if p then throw check.error >>= f else f ()) := by
  split
  · rename_i hp
    exact decides_error fun hholds => hcheck.mp hholds hp
  · rename_i hp
    exact (h hp).cons (hcheck.mpr hp)

end

theorem holds_pool_iff {max min : Nat} (hmax : GivesMaxConnections env max)
    (hmin : GivesMinConnections env min) :
    (∃ max min, GivesMaxConnections env max ∧ GivesMinConnections env min ∧ 1 ≤ max ∧ min ≤ max) ↔
      ¬ (max = 0 ∨ max < min) := by
  constructor
  · rintro ⟨max', min', hmax', hmin', hone, hle⟩
    obtain rfl := hmax.unique hmax'
    obtain rfl := hmin.unique hmin'
    omega
  · exact fun h => ⟨max, min, hmax, hmin, by omega, by omega⟩

theorem holds_transfer_iff {millis : Nat} (h : GivesTransferMillis env millis) :
    (∃ millis, GivesTransferMillis env millis ∧ millis ≠ 0) ↔ ¬ millis = 0 :=
  ⟨fun ⟨_, hgives, hpositive⟩ => h.unique hgives ▸ hpositive, fun hpositive => ⟨millis, h, hpositive⟩⟩

/-- An environment is read as the settings that it states, or it fails with the first check that it
does not pass. -/
theorem decides_ofEnvironment (env : Environment) :
    Decides (checks env) (States env) (ofEnvironment env) := by
  unfold ofEnvironment checks
  split
  · rename_i url hurl
    refine Decides.cons ?_ ⟨url, hurl⟩
    refine decides_numberAt fun max hmax => decides_numberAt fun min hmin => ?_
    refine decides_unless (holds_pool_iff hmax hmin) fun hpool => ?_
    refine decides_numberAt fun transfer htransfer => ?_
    refine decides_unless (holds_transfer_iff htransfer) fun hpositive => ?_
    refine decides_numberAt fun lock hlock => ?_
    have hone : 1 ≤ max := by omega
    have hle : min ≤ max := by omega
    exact .inl ⟨_, rfl, hurl, hmax, hmin, hone, hle, rfl, ⟨transfer, htransfer, hpositive, rfl⟩,
      ⟨lock, hlock, rfl⟩⟩
  · rename_i hnone
    exact decides_error fun ⟨url, hurl⟩ => hnone url hurl

theorem ofEnvironment_eq_ok_iff : ofEnvironment env = .ok settings ↔ States env settings := by
  rcases decides_ofEnvironment env with ⟨settings', hread, hstates⟩ | ⟨error, hread, hfails⟩
  · rw [hread, Except.ok.injEq]
    exact ⟨fun heq => heq ▸ hstates, hstates.unique⟩
  · rw [hread]
    exact ⟨nofun, fun hstates => absurd hstates.checks hfails.not_all⟩

theorem ofEnvironment_eq_error_iff :
    ofEnvironment env = .error error ↔ FirstFailing (checks env) error := by
  rcases decides_ofEnvironment env with ⟨settings', hread, hstates⟩ | ⟨error', hread, hfails⟩
  · rw [hread]
    exact ⟨nofun, fun hfails => absurd hstates.checks hfails.not_all⟩
  · rw [hread, Except.error.injEq]
    exact ⟨fun heq => heq ▸ hfails, hfails.unique⟩

theorem accepted_iff :
    (∃ settings, ofEnvironment env = .ok settings) ↔ ∀ check ∈ checks env, check.holds := by
  constructor
  · rintro ⟨settings, hread⟩
    exact (ofEnvironment_eq_ok_iff.mp hread).checks
  · intro hall
    rcases decides_ofEnvironment env with ⟨settings, hread, -⟩ | ⟨error, -, hfails⟩
    · exact ⟨settings, hread⟩
    · exact absurd hall hfails.not_all

/-! ## Variables that do not count -/

/-- The variables that decide whether an environment is accepted. -/
def decisiveKeys : List String :=
  ["DATABASE_URL", "DATABASE_MAX_CONNECTIONS", "DATABASE_MIN_CONNECTIONS", "TRANSFER_TIMEOUT_MS",
    "LOCK_TIMEOUT_MS"]

variable {other : Environment}

theorem gives_congr (h : other key = env key) :
    Gives other key default limit value ↔ Gives env key default limit value := by
  rw [← numberAt_eq_ok_iff, ← numberAt_eq_ok_iff, numberAt, numberAt, h]

/-- Nothing else counts, but for the name of the environment. -/
theorem ofEnvironment_of_agree (h : ∀ key ∈ decisiveKeys, other key = env key) :
    ofEnvironment other = (ofEnvironment env).map fun settings =>
      { settings with environment := (other "ENVIRONMENT").getD "development" } := by
  simp only [decisiveKeys, List.forall_mem_cons] at h
  obtain ⟨hurl, hmax, hmin, htransfer, hlock, -⟩ := h
  rcases decides_ofEnvironment env with ⟨settings, hread, hstates⟩ | ⟨error, hread, hfails⟩
  · obtain ⟨transfer, hgivesTransfer, hpositive, htimeout⟩ := hstates.transferTimeout
    obtain ⟨lock, hgivesLock, hbound⟩ := hstates.lockTimeout
    rw [hread]
    exact ofEnvironment_eq_ok_iff.mpr ⟨hurl.trans hstates.databaseUrl,
      (gives_congr hmax).mpr hstates.maxConnections, (gives_congr hmin).mpr hstates.minConnections,
      hstates.one_le_max, hstates.min_le_max, rfl,
      ⟨transfer, (gives_congr htransfer).mpr hgivesTransfer, hpositive, htimeout⟩,
      ⟨lock, (gives_congr hlock).mpr hgivesLock, hbound⟩⟩
  · have hchecks : checks other = checks env := by
      simp only [checks, hurl, gives_congr hmax, gives_congr hmin, gives_congr htransfer,
        gives_congr hlock]
    rw [hread]
    exact ofEnvironment_eq_error_iff.mpr (hchecks ▸ hfails)

/-- An environment is accepted just if it passes all checks, and it is read as the settings that it
states; otherwise the first check that it does not pass is reported. The variables that are checked are
the only ones that count, but for the one that names the environment. -/
theorem ofEnvironment_exact (env : Environment) :
    ((∃ settings, ofEnvironment env = .ok settings) ↔ ∀ check ∈ checks env, check.holds) ∧
    (∀ settings, ofEnvironment env = .ok settings ↔ States env settings) ∧
    (∀ error, ofEnvironment env = .error error ↔ FirstFailing (checks env) error) ∧
    ∀ other : Environment, (∀ key ∈ decisiveKeys, other key = env key) →
      ofEnvironment other = (ofEnvironment env).map fun settings =>
        { settings with environment := (other "ENVIRONMENT").getD "development" } :=
  ⟨accepted_iff, fun _ => ofEnvironment_eq_ok_iff, fun _ => ofEnvironment_eq_error_iff,
    fun _ => ofEnvironment_of_agree⟩

/-- Numbers with blanks, a sign and zeros, and a variable that nobody knows. -/
def paddedEnvironment : Environment := fun key =>
  match key with
  | "DATABASE_URL" => some ""
  | "DATABASE_MAX_CONNECTIONS" => some "\u2003+004294967295\u0085"
  | "DATABASE_MIN_CONNECTIONS" => some "0\n"
  | "LOCK_TIMEOUT_MS" => some "+0"
  | "database_url" => some "x"
  | _ => none

/-- The same environment with a name, and without the unknown variable. -/
def namedEnvironment : Environment := fun key =>
  match key with
  | "ENVIRONMENT" => some "production"
  | "database_url" => none
  | key => paddedEnvironment key

/-- It is accepted, and its name is all that the other variables change. -/
theorem ofEnvironment_exact_padded :
    (∀ key ∈ decisiveKeys, namedEnvironment key = paddedEnvironment key) ∧
    ofEnvironment namedEnvironment =
      .ok ⟨"", 4294967295, 0, "production", .ofMillis 5000, none⟩ := by
  obtain ⟨-, -, -, hothers⟩ := ofEnvironment_exact paddedEnvironment
  have hagree : ∀ key ∈ decisiveKeys, namedEnvironment key = paddedEnvironment key := by decide
  have hread : ofEnvironment paddedEnvironment =
      .ok ⟨"", 4294967295, 0, "development", .ofMillis 5000, none⟩ := by rfl
  exact ⟨hagree, by rw [hothers namedEnvironment hagree, hread]; rfl⟩

end Passbook.Settings
