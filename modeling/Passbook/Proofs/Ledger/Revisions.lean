import Mathlib.Data.List.Induction
import Passbook.Proofs.Constraints.Trades
import Passbook.Proofs.Ledger.Listing
import Passbook.Proofs.System.Waiting

/-! # Revisions of accounts

Nothing changes in the row of an account but the balance and the time of the last update
(`Account.Same`). That time is the one at which the transaction began that has committed the row; the
transaction of a statement that stands alone began when the statement arrived, even if it had to wait
for the row. So the time goes back only if the transaction had begun before the version was committed
that it replaces (`Past.Overtaken`), and a version that is replaced by a transaction that began
afterwards, or by a statement that stands alone and has not waited, is no later
(`revised_by_beginning`). A transaction that begins early and writes late does put it back, although
it has locked the row (`revised_backwards`). -/

namespace Passbook

/-- What never changes in the row of an account. -/
structure Account.Same (row row' : Account) : Prop where
  id : row'.id = row.id
  owner : row'.owner = row.owner
  kind : row'.kind = row.kind
  createdAt : row'.createdAt = row.createdAt

namespace Account

variable {row row' row'' : Account}

theorem Same.refl (row : Account) : row.Same row := ⟨rfl, rfl, rfl, rfl⟩

theorem Same.trans (h : row.Same row') (h' : row'.Same row'') : row.Same row'' :=
  ⟨h'.id.trans h.id, h'.owner.trans h.owner, h'.kind.trans h.kind, h'.createdAt.trans h.createdAt⟩

end Account

namespace Instant

theorem le_refl (a : Instant) : a.le a = true := by simp [le_iff]

theorem le_trans {a b c : Instant} (hab : a.le b = true) (hbc : b.le c = true) : a.le c = true := by
  rw [le_iff] at hab hbc ⊢
  omega

end Instant

namespace Database

variable {Allowed : Twist → Prop} {db db' : Database} {connection : Nat} {statement : Statement}
  {ran : Bool} {answer : statement.Answer} {row old : Account} {till : Instant}
  {former transaction : Transaction}

/-! ## Rows that are written -/

/-- Rows carry the time at which the transaction has begun that writes them. -/
theorem updatedAt_of_written (hmem : row ∈ (db.written connection statement).accounts) :
    row.updatedAt = (db.surroundings connection).now := by
  revert hmem
  refine written_of_effect (P := fun books => row ∈ books.accounts → _) nofun fun effect he hmem => ?_
  cases statement with
  | updateAccount id balance =>
    rcases Statement.of_updateAccount he with ⟨-, rfl⟩ | ⟨former, row', -, rfl, rfl⟩
    · cases hmem
    · rw [List.mem_singleton.mp hmem]
  | insertAccount id owner kind =>
    obtain ⟨row', hrow, rfl⟩ := Statement.of_insertAccount he
    obtain rfl := List.mem_singleton.mp hmem
    unfold Statement.newAccount at hrow
    repeat' split at hrow
    all_goals cases hrow
    rfl
  | insertEntry entry =>
    obtain ⟨row', -, rfl⟩ := Statement.of_insertEntry he
    cases hmem
  | _ => cases he; cases hmem

/-- A row that is written over one that its connection sees is the same. -/
theorem same_of_written (hmem : row ∈ (db.written connection statement).accounts)
    (hold : (db.view connection).account? row.id = some old) : old.Same row := by
  revert hmem
  refine written_of_effect (P := fun books => row ∈ books.accounts → _) nofun fun effect he hmem => ?_
  cases statement with
  | updateAccount id balance =>
    rcases Statement.of_updateAccount he with ⟨-, rfl⟩ | ⟨former, row', hformer, rfl, rfl⟩
    · cases hmem
    · obtain rfl := List.mem_singleton.mp hmem
      have hid : former.id = id := Books.id_of_account? hformer
      rw [← hid] at hformer
      cases hold.symm.trans hformer
      exact ⟨rfl, rfl, rfl, rfl⟩
  | insertAccount id owner kind =>
    obtain ⟨row', hrow, rfl⟩ := Statement.of_insertAccount he
    obtain rfl := List.mem_singleton.mp hmem
    obtain ⟨hid, -, hfree⟩ := Statement.newAccount_ok hrow
    rw [hid, hfree] at hold
    cases hold
  | insertEntry entry =>
    obtain ⟨row', -, rfl⟩ := Statement.of_insertEntry he
    cases hmem
  | _ => cases he; cases hmem

/-! ## Transactions that are not aborted -/

theorem aborted_of_abort (ht : (db.abort connection).transaction? connection = some transaction) :
    transaction.aborted = true := by
  unfold abort at ht
  split at ht
  · simp only [transaction?, session_setTransaction, if_true, Option.some.injEq] at ht
    rw [← ht]
  · rename_i hnone
    cases hnone.symm.trans ht

theorem run_unaborted (hr : db.run connection statement = .answered db' answer)
    (hf : db.transaction? connection = some former)
    (ht : db'.transaction? connection = some transaction) (hopen : transaction.aborted = false) :
    former.aborted = false := by
  cases runs_of_run hr with
  | begun =>
    rw [enter, hf] at ht
    cases hf.symm.trans ht
    exact hopen
  | committed | rolledBack =>
    rw [transaction?_run_end rfl hr] at ht
    cases ht
  | aborted =>
    cases hf.symm.trans ht
    exact hopen
  | outOfRange =>
    rw [aborted_of_abort ht] at hopen
    cases hopen
  | bounded _ hformer hunaborted =>
    cases hf.symm.trans hformer
    exact hunaborted
  | nothingToBound _ hnone => cases hnone.symm.trans hf
  | performed hq hrefuses | rejected hq hrefuses =>
    rwa [refusesAborted_of_open hf (Statement.isEnd_of_isQuery hq)] at hrefuses

/-- What is aborted stays so. -/
theorem Tells.unaborted (h : db.Tells Allowed connection statement db' ran answer)
    (hf : db.transaction? connection = some former)
    (ht : db'.transaction? connection = some transaction) (hopen : transaction.aborted = false) :
    former.aborted = false := by
  cases h with
  | dead =>
    cases hf.symm.trans ht
    exact hopen
  | @living met ended _ _ _ hmet hanswers =>
    have hf' : met.transaction? connection = some former := by
      rcases hmet with rfl | ⟨-, rfl⟩
      · exact hf
      · rwa [transaction?_note]
    have ht' : ended.transaction? connection = some transaction := by
      split at ht
      · rwa [transaction?_note] at ht
      · exact ht
    cases hanswers with
    | dead | aborted =>
      cases hf'.symm.trans ht'
      exact hopen
    | refused rejection =>
      unfold refuse at ht'
      split at ht'
      · simp [transaction?] at ht'
      · rw [aborted_of_abort ht'] at hopen
        cases hopen
    | lost =>
      rw [(disconnect_lost ..).2] at ht'
      cases ht'
    | @ran after answer twist _ hr =>
      rcases twisted_cases after connection twist answer with ⟨hdb, -⟩ | ⟨-, htwisted⟩
      · rw [hdb] at ht'
        exact run_unaborted hr hf' ht' hopen
      · rw [htwisted, (disconnect_lost ..).2] at ht'
        cases ht'

/-! ## The clock -/

theorem clock_abort (db : Database) (connection : Nat) :
    (db.abort connection).clock = db.clock := by
  unfold abort
  split <;> rfl

theorem clock_lockFor (db : Database) (connection : Nat) (statement : Statement) :
    (db.lockFor connection statement).clock = db.clock := by
  unfold lockFor
  split
  · unfold Database.lock
    split <;> rfl
  · rfl
  · rfl

theorem clock_wait (db : Database) (connection : Nat) : (db.wait connection).clock = db.clock := by
  unfold wait
  split <;> rfl

theorem clock_run (hr : db.run connection statement = .answered db' answer) :
    db'.clock = db.clock := by
  have hlocked := clock_lockFor db connection statement
  cases runs_of_run hr with
  | begun =>
    unfold enter
    split <;> rfl
  | committed =>
    unfold publish
    split
    · split <;> rfl
    · rfl
  | rolledBack | aborted | bounded | nothingToBound => rfl
  | outOfRange => exact clock_abort db connection
  | performed =>
    rw [← hlocked]
    unfold change
    dsimp only
    split <;> rfl
  | rejected => exact (clock_abort ..).trans hlocked

/-- No statement moves the clock. -/
theorem Tells.clock (h : db.Tells Allowed connection statement db' ran answer) :
    db'.clock = db.clock := by
  cases h with
  | dead => rfl
  | @living met ended _ answer _ hmet hanswers =>
    have hclock : met.clock = db.clock := by rcases hmet with rfl | ⟨-, rfl⟩ <;> rfl
    have hended : ended.clock = met.clock := by
      cases hanswers with
      | dead | aborted | lost => rfl
      | refused =>
        unfold refuse
        split
        · rfl
        · exact clock_abort ..
      | @ran after own twist _ hr =>
        rcases twisted_cases after connection twist own with ⟨hdb, -⟩ | ⟨-, htwisted⟩
        · rw [hdb, clock_run hr]
        · rw [htwisted]
          show after.clock = met.clock
          exact clock_run hr
    rw [← hclock, ← hended]
    split <;> rfl

/-! ## Invariants -/

/-- No row was updated after the given time, no open transaction has begun and no statement that waits
has arrived after it, and what a transaction has changed carries the time at which it began. -/
structure Stamped (till : Instant) (db : Database) : Prop where
  rows : ∀ row ∈ db.books.accounts, row.updatedAt.le till = true
  began : ∀ connection transaction, db.transaction? connection = some transaction →
    transaction.began.le till = true
  changes : ∀ connection transaction, db.transaction? connection = some transaction →
    ∀ row ∈ transaction.changes.accounts, row.updatedAt = transaction.began
  arrived : ∀ connection time, (db.session connection).waiting = some time → time.le till = true

/-- What an open transaction has changed in the row of an account is no more than may change. -/
def Sparing (db : Database) : Prop :=
  ∀ connection transaction, db.transaction? connection = some transaction →
    transaction.aborted = false → ∀ row ∈ transaction.changes.accounts, ∀ old,
      db.books.account? row.id = some old → old.Same row

theorem Stamped.mono {later : Instant} (h : db.Stamped till) (hle : till.le later = true) :
    db.Stamped later where
  rows row hmem := Instant.le_trans (h.rows row hmem) hle
  began connection transaction ht := Instant.le_trans (h.began connection transaction ht) hle
  changes := h.changes
  arrived connection time hw := Instant.le_trans (h.arrived connection time hw) hle

theorem Stamped.of_sessions (h : db.Stamped till) (hbooks : db'.books = db.books)
    (hsame : ∀ other transaction, db'.transaction? other = some transaction →
      db.transaction? other = some transaction)
    (hwaiting : ∀ other time, (db'.session other).waiting = some time →
      (db.session other).waiting = some time) : db'.Stamped till where
  rows := by
    rw [hbooks]
    exact h.rows
  began other transaction ht := h.began other transaction (hsame other transaction ht)
  changes other transaction ht := h.changes other transaction (hsame other transaction ht)
  arrived other time hw := h.arrived other time (hwaiting other time hw)

theorem Sparing.of_transactions (h : db.Sparing) (hbooks : db'.books = db.books)
    (hsame : ∀ other transaction, db'.transaction? other = some transaction →
      db.transaction? other = some transaction) : db'.Sparing := by
  intro other transaction ht
  rw [hbooks]
  exact h other transaction (hsame other transaction ht)

/-- What becomes public carries the time at which its transaction began. -/
theorem Stamped.published {books : Books} (h : db.Stamped till)
    (hp : db.published? connection statement = some books) :
    ∀ row ∈ books.accounts, row.updatedAt = (db.surroundings connection).now := by
  intro row hmem
  rcases published?_cases hp with ⟨transaction, ht, -, -, rfl⟩ | ⟨-, -, rfl⟩
  · rw [h.changes connection transaction ht row hmem, surroundings, ht]
    rfl
  · exact updatedAt_of_written hmem

theorem Stamped.now_le (h : db.Stamped db.clock) (connection : Nat) :
    (db.surroundings connection).now.le db.clock = true := by
  unfold surroundings
  cases ht : db.transaction? connection with
  | some transaction => exact h.began connection transaction ht
  | none =>
    cases hw : (db.session connection).waiting with
    | some time => exact h.arrived connection time hw
    | none => exact Instant.le_refl _

/-- A statement that waits has arrived by now. -/
theorem Stamped.wait (h : db.Stamped db.clock) (connection : Nat) :
    (db.wait connection).Stamped db.clock := by
  refine ⟨?_, fun other transaction ht => ?_, fun other transaction ht => ?_, fun other time hw => ?_⟩
  · rw [books_wait]
    exact h.rows
  · rw [transaction?_wait] at ht
    exact h.began other transaction ht
  · rw [transaction?_wait] at ht
    exact h.changes other transaction ht
  · rcases of_waiting_wait hw with hbefore | ⟨-, -, rfl⟩
    · exact h.arrived other time hbefore
    · exact Instant.le_refl _

theorem Stamped.tells (h : db.Stamped db.clock)
    (htells : db.Tells Allowed connection statement db' ran answer) : db'.Stamped db.clock := by
  refine ⟨fun row hmem => ?_, fun other transaction ht => ?_, fun other transaction ht row hmem => ?_,
    fun other time hw => h.arrived other time (htells.waiting hw)⟩
  · rw [htells.books] at hmem
    cases hp : (if ran then db.published? connection statement else none) with
    | none =>
      rw [hp] at hmem
      exact h.rows row hmem
    | some books =>
      rw [hp] at hmem
      rcases Books.mem_overlay hmem with hmem | hmem
      · exact h.rows row hmem
      · split at hp
        · rw [h.published hp row hmem]
          exact h.now_le connection
        · cases hp
  · by_cases hc : other = connection
    · subst hc
      cases htells.origin ht with
      | continued former hf hbegan =>
        rw [hbegan]
        exact h.began other former hf
      | begun _ _ _ _ hbegan =>
        rw [hbegan]
        exact Instant.le_refl _
    · rw [(htells.untouched hc).transaction?] at ht
      exact h.began other transaction ht
  · by_cases hc : other = connection
    · subst hc
      cases htells.origin ht with
      | continued former hf hbegan hchanges =>
        rw [hchanges] at hmem
        rw [hbegan]
        rcases Books.mem_overlay hmem with hmem | hmem
        · exact h.changes other former hf row hmem
        · split at hmem
          · rw [updatedAt_of_written hmem, surroundings, hf]
            rfl
          · cases hmem
      | begun _ _ _ _ _ hchanges =>
        rw [hchanges] at hmem
        cases hmem
    · rw [(htells.untouched hc).transaction?] at ht
      exact h.changes other transaction ht row hmem

/-- What is left open has published nothing. -/
theorem Tells.books_of_open (h : db.Tells Allowed connection statement db' ran answer)
    (hf : db.transaction? connection = some former)
    (ht : db'.transaction? connection = some transaction) : db'.books = db.books := by
  have hbooks := h.books
  cases hp : (if ran then db.published? connection statement else none) with
  | none =>
    rw [hbooks, hp]
    rfl
  | some books =>
    split at hp
    · rcases published?_cases hp with ⟨_, -, rfl, -, -⟩ | ⟨hnone, -, -⟩
      · rcases (h.ended rfl).1 with ⟨-, rfl⟩ | hnone
        · rfl
        · cases hnone.symm.trans ht
      · cases hnone.symm.trans hf
    · cases hp

theorem Sparing.tells (h : db.Sparing) (hl : db.LocksSound) (hcustody : db.Custody)
    (hkeys : ran = true → db.KeysFree connection statement)
    (htells : db.Tells Allowed connection statement db' ran answer) : db'.Sparing := by
  intro other transaction ht hopen row hmem old hold
  by_cases hc : other = connection
  · subst hc
    cases htells.origin ht with
    | continued former hf hbegan hchanges =>
      have hformer := h other former hf (htells.unaborted hf ht hopen)
      rw [htells.books_of_open hf ht] at hold
      rw [hchanges] at hmem
      rcases Books.mem_overlay hmem with hmem | hmem
      · exact hformer row hmem old hold
      · split at hmem
        · -- the row that is written over is the transaction's own, or the committed one
          have hview := (hcustody.keeps other).account?_view hf row.id
          cases hown : former.changes.account? row.id with
          | none =>
            rw [hown, hold] at hview
            exact same_of_written hmem hview
          | some own =>
            rw [hown] at hview
            have hid := Books.id_of_account? hown
            have hsame := hformer own (List.mem_of_find?_eq_some hown) old (hid ▸ hold)
            exact hsame.trans (same_of_written hmem hview)
        · cases hmem
    | begun _ _ _ _ _ hchanges =>
      rw [hchanges] at hmem
      cases hmem
  · rw [(htells.untouched hc).transaction?] at ht
    have halters : db.Alters other row.id :=
      ⟨transaction, ht, hopen, List.find?_isSome.mpr ⟨row, hmem, beq_self_eq_true row.id⟩⟩
    rw [htells.steady hcustody hl hkeys hc (.inr halters)] at hold
    exact h other transaction ht hopen row hmem old hold

/-- What becomes public of an account is no more than may change. -/
theorem Sparing.published {books : Books} (h : db.Sparing)
    (hp : db.published? connection statement = some books) (hmem : row ∈ books.accounts)
    (hold : db.books.account? row.id = some old) : old.Same row := by
  rcases published?_cases hp with ⟨transaction, ht, -, hopen, rfl⟩ | ⟨ht, -, rfl⟩
  · exact h connection transaction ht hopen row hmem old hold
  · refine same_of_written hmem ?_
    rw [view, ht]
    exact hold

end Database

/-- The clock never went back. -/
def Past.Forward (past : Past) : Prop :=
  ∀ before clock, (before, Event.tick clock) ∈ past → before.db.clock.le clock = true

namespace System

open Database

variable {system after : System} {event : Event} {id : Int} {row : Account}

theorem clock_step (hu : system.Underway) (hs : system.step event = some after) :
    after.db.clock = system.db.clock ∨ ∃ clock, event = .tick clock ∧ after.db.clock = clock := by
  refine database_step
    (P := fun db => db.clock = system.db.clock ∨ ∃ clock, event = .tick clock ∧ db.clock = clock) hu hs
    (.inl rfl) ?_ ?_ ?_ ?_ ?_ ?_
  · exact fun _ _ _ h => h
  · exact fun connection _ _ => .inl (clock_wait system.db connection)
  · exact fun _ _ h => h
  · exact fun _ _ _ h => h
  · exact fun _ clock htick _ => .inr ⟨clock, htick, rfl⟩
  · exact fun _ _ _ htells => .inl htells.clock

theorem stamped_step (hu : system.Underway) (hs : system.step event = some after)
    (hforward : ∀ clock, event = .tick clock → system.db.clock.le clock = true)
    (h : system.db.Stamped system.db.clock) : after.db.Stamped after.db.clock := by
  have hafter : after.db.Stamped system.db.clock := by
    refine database_step (P := Stamped system.db.clock) hu hs h ?_ ?_ ?_ ?_ ?_ ?_
    · exact fun db connection unended h => h.of_sessions rfl
        (fun other _ ht => by rwa [transaction?_note] at ht) fun other _ hw => by
          rwa [waiting_note] at hw
    · exact fun connection _ _ => h.wait connection
    · exact fun db connection h => h.of_sessions rfl (fun _ _ ht => transaction?_of_close ht)
        fun _ _ hw => waiting_of_close hw
    · exact fun _ _ _ h => ⟨h.rows, h.began, h.changes, h.arrived⟩
    · exact fun _ _ _ h => ⟨h.rows, h.began, h.changes, h.arrived⟩
    · exact fun _ _ _ htells => h.tells htells
  refine hafter.mono ?_
  rcases clock_step hu hs with heq | ⟨clock, htick, heq⟩
  · rw [heq]
    exact Instant.le_refl _
  · rw [heq]
    exact hforward clock htick

theorem sparing_step (hu : system.Underway) (hl : system.db.LocksSound) (hcustody : system.db.Custody)
    (hkeys : system.KeysFree event) (hs : system.step event = some after) (h : system.db.Sparing) :
    after.db.Sparing := by
  refine database_step (P := Sparing) hu hs h ?_ ?_ ?_ ?_ ?_ ?_
  · exact fun db connection unended h => h.of_transactions rfl fun other _ ht => by
      rwa [transaction?_note] at ht
  · exact fun connection _ _ => h.of_transactions (books_wait ..) fun other _ ht => by
      rwa [transaction?_wait] at ht
  · exact fun _ _ h => h.of_transactions rfl fun _ _ ht => transaction?_of_close ht
  · exact fun _ _ _ h => h.of_transactions rfl fun _ _ ht => ht
  · exact fun _ _ _ h => h.of_transactions rfl fun _ _ ht => ht
  · exact fun told _ htold htells => h.tells hl hcustody (hkeys told htold) htells

end System

/-! ## Along a run -/

variable {db : Database} {capacity : Nat} {past : Past} {system after : System} {event : Event}
  {connection : Nat} {began : Instant} {id : Int} {row row' : Account}

/-- What is relied on about the rows that can become public. -/
structure System.Revisable (system : System) : Prop where
  underway : system.Underway
  orderly : System.Orderly [] [] system
  custody : system.db.Custody
  stamped : system.db.Stamped system.db.clock
  sparing : system.db.Sparing

theorem System.revisable_start (hrest : db.AtRest) (capacity : Nat)
    (hstamps : ∀ row ∈ db.books.accounts, row.updatedAt.le db.clock = true) :
    (System.start db capacity).Revisable := by
  have hfresh : ∀ connection, db.session connection = .fresh := fun connection => by
    rw [Database.session, hrest.sessions]
    rfl
  have hnone : ∀ connection, db.transaction? connection = none := fun connection => by
    rw [Database.transaction?, hfresh]
    rfl
  refine ⟨System.underway_start db capacity, System.orderly_start hrest capacity, hrest.custody,
    ⟨hstamps, ?_, ?_, ?_⟩, ?_⟩
  · exact fun connection transaction ht => by cases (hnone connection).symm.trans ht
  · exact fun connection transaction ht => by cases (hnone connection).symm.trans ht
  · intro connection time hw
    have hw : (db.session connection).waiting = some time := hw
    rw [hfresh] at hw
    cases hw
  · exact fun connection transaction ht => by cases (hnone connection).symm.trans ht

theorem Run.revisable (h : Run (.start db capacity) past system) (hrest : db.AtRest)
    (hstamps : ∀ row ∈ db.books.accounts, row.updatedAt.le db.clock = true)
    (hkeys : past.KeysHold) (hforward : past.Forward) : system.Revisable := by
  induction h with
  | refl => exact System.revisable_start hrest capacity hstamps
  | @step past system after event hrun hs ih =>
    have hmem : (system, event) ∈ past ++ [(system, event)] :=
      List.mem_append_right _ List.mem_cons_self
    obtain ⟨hu, ho, hcustody, hstamped, hsparing⟩ := ih hkeys.of_append fun before clock hbefore =>
      hforward before clock (List.mem_append_left _ hbefore)
    have hfree : system.KeysFree event := hkeys system event hmem
    refine ⟨hu.step ho hs, ho.step hs, System.custody_step hu ho.locks hcustody hfree hs, ?_,
      System.sparing_step hu ho.locks hcustody hfree hs hsparing⟩
    refine System.stamped_step hu hs ?_ hstamped
    rintro clock rfl
    exact hforward system clock hmem

namespace Past

/-- The version of a row was not committed yet when the last of the times was shown of the connection,
which is the given one. -/
def Precedes (past : Past) (times : System → Event → Option (Nat × Instant)) (connection : Nat)
    (began : Instant) (row : Account) : Prop :=
  ∃ earlier system event later, past = earlier ++ (system, event) :: later ∧
    times system event = some (connection, began) ∧ Past.last? later times connection = none ∧
    system.db.books.account? row.id ≠ some row

/-- The version of a row was committed while the transaction was open that is open on the connection and
began at the given time, or while the statement waited that waits on it, stands alone and arrived at
that time. -/
def Overtaken (past : Past) (system : System) (connection : Nat) (began : Instant) (row : Account) :
    Prop :=
  (system.db.transaction? connection).isSome = true ∧
      past.Precedes System.beginning? connection began row ∨
    system.WaitsOn connection ∧ past.Precedes System.waiting? connection began row

theorem exists_of_last? {times : System → Event → Option (Nat × Instant)}
    (h : past.last? times connection = some began) :
    ∃ earlier system event later, past = earlier ++ (system, event) :: later ∧
      times system event = some (connection, began) ∧ Past.last? later times connection = none := by
  induction past using List.reverseRecOn with
  | nil => cases h
  | append_singleton past last ih =>
    obtain ⟨system, event⟩ := last
    by_cases hown : times system event = some (connection, began)
    · exact ⟨past, system, event, [], rfl, hown, rfl⟩
    have hother : ∀ time, times system event ≠ some (connection, time) := by
      intro time htime
      rw [last?_of_times htime] at h
      cases h
      exact hown htime
    rw [last?_of_ne hother] at h
    obtain ⟨earlier, middle, shown, later, rfl, htimes, hnone⟩ := ih h
    exact ⟨earlier, middle, shown, later ++ [(system, event)], by simp, htimes,
      (last?_of_ne hother).trans hnone⟩

theorem Forward.of_append {past later : Past} (h : Past.Forward (past ++ later)) : past.Forward :=
  fun before clock hmem => h before clock (List.mem_append_left later hmem)

end Past

/-- Of the system in which a transaction begins, its clock says when it begins. -/
theorem System.clock_of_beginning?
    (h : system.beginning? event = some (connection, began)) : system.db.clock = began := by
  obtain ⟨told, -, hif⟩ := Option.bind_eq_some_iff.mp h
  split at hif <;> cases hif
  rfl

/-- Of the system in which a statement begins to wait, its clock says when it has arrived. -/
theorem System.clock_of_waiting? (h : system.waiting? event = some (connection, began)) :
    system.db.clock = began := by
  cases event with
  | move move =>
    obtain ⟨arrival, -, harrival⟩ := Option.bind_eq_some_iff.mp h
    unfold System.Arrival.waiting? at harrival
    split at harrival
    · dsimp only at harrival
      split at harrival <;> cases harrival
      rfl
    · cases harrival
  | _ => cases h

/-- How the new version of a row stands to the one before it, if an event has committed one. -/
structure Past.Revises (past : Past) (system : System) (event : Event) (row row' : Account) : Prop where
  same : row.Same row'
  committed : row' = row ∨ ∃ connection published,
    system.publication? event = some (connection, published) ∧ row' ∈ published.accounts ∧
      past.present? system.db connection = some row'.updatedAt ∧
      (row.updatedAt.le row'.updatedAt = true ∨
        past.Overtaken system connection row'.updatedAt row)

section

variable (h : Run (.start db capacity) past system) (hrest : db.AtRest)
  (hstamps : ∀ row ∈ db.books.accounts, row.updatedAt.le db.clock = true)
  (hkeys : past.KeysHold) (hforward : past.Forward)
include h hrest hstamps hkeys hforward

/-- A version that was committed at a time of the clock that an event has shown is no later. -/
theorem Run.le_or_precedes {times : System → Event → Option (Nat × Instant)}
    (hclock : ∀ {system event connection time}, times system event = some (connection, time) →
      system.db.clock = time)
    (hlast : past.last? times connection = some began) (row : Account) :
    row.updatedAt.le began = true ∨ past.Precedes times connection began row := by
  obtain ⟨earlier, middle, shown, later, rfl, htimes, hnone⟩ := Past.exists_of_last? hlast
  by_cases hrow : middle.db.books.account? row.id = some row
  · have hmem : (middle, shown) ∈ earlier ++ (middle, shown) :: later :=
      List.mem_append_right _ List.mem_cons_self
    obtain ⟨earlier', next, later', hpast, hearlier, -⟩ := h.of_mem hmem
    rw [hpast, List.append_assoc] at hkeys hforward
    have hstamped := (hearlier.revisable hrest hstamps hkeys.of_append hforward.of_append).stamped
    rw [hclock htimes] at hstamped
    exact .inl (hstamped.rows row (List.mem_of_find?_eq_some hrow))
  · exact .inr ⟨earlier, middle, shown, later, rfl, htimes, hnone, hrow⟩

/-- A version that was committed when the transaction of the next one began is no later than that. -/
theorem Run.le_or_overtaken (hpresent : past.present? system.db connection = some began)
    (hrow : row ∈ system.db.books.accounts) :
    row.updatedAt.le began = true ∨ past.Overtaken system connection began row := by
  unfold Past.present? at hpresent
  split at hpresent
  · rename_i hopen
    exact (h.le_or_precedes hrest hstamps hkeys hforward System.clock_of_beginning? hpresent
      row).imp_right fun hprecedes => .inl ⟨hopen, hprecedes⟩
  · split at hpresent
    · rename_i hwaiting
      exact (h.le_or_precedes hrest hstamps hkeys hforward System.clock_of_waiting? hpresent
        row).imp_right fun hprecedes => .inr ⟨(h.waiting_iff hrest).mp hwaiting, hprecedes⟩
    · cases hpresent
      exact .inl ((h.revisable hrest hstamps hkeys hforward).stamped.rows row hrow)

end

/-- Whatever happens to a ledger whose clock does not go back, nothing changes in the row of an account
but its balance and the time of its last update. The latter is the time at which the transaction began
that has committed the row, which for a statement that stands alone is when the statement arrived; and
it goes back only if the version that is replaced was committed afterwards. -/
theorem revised_by_beginning (hrest : db.AtRest)
    (hstamps : ∀ row ∈ db.books.accounts, row.updatedAt.le db.clock = true)
    (hrun : Run (.start db capacity) past system) (hs : system.step event = some after)
    (hkeys : Past.KeysHold (past ++ [(system, event)]))
    (hforward : Past.Forward (past ++ [(system, event)]))
    (hrow : system.db.books.account? id = some row) :
    ∃ row', after.db.books.account? id = some row' ∧ past.Revises system event row row' := by
  obtain ⟨hu, ho, hcustody, hstamped, hsparing⟩ :=
    hrun.revisable hrest hstamps hkeys.of_append hforward.of_append
  have hbooks := System.books_step hs
  cases hp : system.publication? event with
  | none =>
    rw [hp] at hbooks
    rw [hbooks]
    exact ⟨row, hrow, .refl row, .inl rfl⟩
  | some publication =>
    obtain ⟨connection, published⟩ := publication
    rw [hp] at hbooks
    obtain ⟨told, -, hif⟩ := Option.bind_eq_some_iff.mp hp
    split at hif
    · obtain ⟨_, hpublished, heq⟩ := Option.map_eq_some_iff.mp hif
      cases heq
      rw [hbooks, Option.elim_some, (Database.keyed_published hcustody hpublished).account?_overlay]
      cases hnew : published.account? id with
      | none => exact ⟨row, hrow, .refl row, .inl rfl⟩
      | some row' =>
        have hmem := List.mem_of_find?_eq_some hnew
        have hid : row'.id = id := Books.id_of_account? hnew
        have hpresent : past.present? system.db told.connection = some row'.updatedAt := by
          rw [hstamped.published hpublished row' hmem]
          exact (hrun.dated hrest).present? told.connection
        exact ⟨row', rfl, hsparing.published hpublished hmem (hid ▸ hrow), .inr ⟨_, _, hp, hmem,
          hpresent, hrun.le_or_overtaken hrest hstamps hkeys.of_append hforward.of_append hpresent
            (List.mem_of_find?_eq_some hrow)⟩⟩
    · cases hif

/-- Whether the clock never went back. -/
def Past.isForward (past : Past) : Bool :=
  past.all fun
    | (system, .tick clock) => system.db.clock.le clock
    | _ => true

theorem Past.Forward.of_isForward (h : past.isForward = true) : past.Forward :=
  fun _ _ hmem => List.all_eq_true.mp h _ hmem

theorem forall_stamped_pairLedger : ∀ row ∈ pairLedger.books.accounts,
    row.updatedAt.le pairLedger.clock = true := by
  decide

/-- The commit of a transfer that began after the one before it was committed. -/
theorem revised_by_beginning_ordered : ∃ past system after row row',
    Run (.start pairLedger 2) past system ∧ system.step (.move (.send 1)) = some after ∧
      system.db.books.account? 1000000001 = some row ∧
      after.db.books.account? 1000000001 = some row' ∧
      past.Revises system (.move (.send 1)) row row' ∧
      row.updatedAt = ⟨0, 0⟩ ∧ row'.updatedAt = ⟨1, 0⟩ := by
  have htrace : (System.start pairLedger 2).traces (orderedEvents.take 20) (fun past system =>
      Past.isPlain (past ++ [(system, .move (.send 1))]) ∧
        Past.isForward (past ++ [(system, .move (.send 1))]) ∧
        (system.db.books.account? 1000000001).any (·.updatedAt = ⟨0, 0⟩) ∧
        (system.step (.move (.send 1))).any fun after =>
          (after.db.books.account? 1000000001).any (·.updatedAt = ⟨1, 0⟩)) = true := rfl
  obtain ⟨past, system, htrace, hend⟩ := System.exists_of_traces htrace
  obtain ⟨hplain, hforward, hrow, hs⟩ := of_decide_eq_true hend
  obtain ⟨row, hrow, htime⟩ := (Option.any_eq_true ..).mp hrow
  obtain ⟨after, hs, hafter⟩ := (Option.any_eq_true ..).mp hs
  have hrun := System.run_of_trace? htrace
  obtain ⟨row', hrow', hrevises⟩ := revised_by_beginning ⟨rfl, rfl⟩ forall_stamped_pairLedger hrun hs
    (Past.Faithful.of_isPlain hplain).keys (.of_isForward hforward) hrow
  rw [hrow'] at hafter
  exact ⟨past, system, after, row, row', hrun, hs, hrow, hrow', hrevises, of_decide_eq_true htime,
    of_decide_eq_true hafter⟩

/-- A transaction has locked the row of an account when an update arrives that stands alone. Once the
clock has moved on, the transaction is rolled back and another update is made at once. -/
def lateEvents : List Event :=
  [.spawn [] none (Scenario.opening none), .move (.connect 0), .move (.send 0),
    .spawn [0] none ((Operation.account (.number 1000000001) true).work .default .callers []),
    .move (.send 1), .alone (.setBalance (.number 1000000001) 70), .move (.connect 2),
    .move (.send 2), .tick ⟨1, 0⟩, .spawn [0] none (Scenario.closing .rollback), .move (.send 3),
    .alone (.setBalance (.number 1000000001) 60), .move (.connect 4), .move (.send 4)]

/-- The update that has waited puts the time of the last update back. -/
example : (System.start pairLedger 3).traces lateEvents (fun past system =>
    past.isForward ∧
      (system.db.books.account? 1000000001).any (·.updatedAt = ⟨1, 0⟩) ∧
      (system.step (.move (.wake 2))).any fun after =>
        (after.db.books.account? 1000000001).any fun row =>
          row.updatedAt = ⟨0, 0⟩ ∧ row.balance = 70) = true := rfl

/-- The transfers of `overtakenEvents`, before the last of them is committed. -/
def backwardEvents : List Event := overtakenEvents.take 22

theorem trades_backwardEvents : ∀ event ∈ backwardEvents, event.Trades := by
  intro event hmem
  cases event with
  | spawn connections deadline work =>
    simp only [backwardEvents, overtakenEvents, Event.alone, List.take_succ_cons, List.take_zero,
      List.mem_cons, List.not_mem_nil, reduceCtorEq, or_false, false_or, Event.spawn.injEq] at hmem
    rcases hmem with ⟨rfl, -, rfl⟩ | ⟨rfl, -, rfl⟩ | ⟨rfl, -, rfl⟩ | ⟨rfl, -, rfl⟩
    · exact .opens none
    · exact Operation.trading_work .default [] rfl
    · exact .within 0 (Operation.trades_work .default [] rfl)
    · exact .closes 0 rfl
  | _ => exact trivial

/-- Transfers that lock the rows which they update, and a clock that does not go back; yet the time of
an account's last update goes back by a second when the second one is committed. -/
theorem revised_backwards : ∃ past system after row row',
    Run (.start pairLedger 2) past system ∧
      (∀ before event, (before, event) ∈ past → event.Trades) ∧ past.Forward ∧
      system.step (.move (.send 3)) = some after ∧
      system.db.books.account? 1000000001 = some row ∧
      after.db.books.account? 1000000001 = some row' ∧
      row.updatedAt = ⟨1, 0⟩ ∧ row'.updatedAt = ⟨0, 0⟩ := by
  have htrace : (System.start pairLedger 2).traces backwardEvents (fun past system =>
      past.isForward ∧
        (system.db.books.account? 1000000001).any (·.updatedAt = ⟨1, 0⟩) ∧
        (system.step (.move (.send 3))).any fun after =>
          (after.db.books.account? 1000000001).any (·.updatedAt = ⟨0, 0⟩)) = true := rfl
  obtain ⟨past, system, htrace, hend⟩ := System.exists_of_traces htrace
  obtain ⟨hforward, hrow, hs⟩ := of_decide_eq_true hend
  obtain ⟨row, hrow, htime⟩ := (Option.any_eq_true ..).mp hrow
  obtain ⟨after, hs, hafter⟩ := (Option.any_eq_true ..).mp hs
  obtain ⟨row', hrow', htime'⟩ := (Option.any_eq_true ..).mp hafter
  exact ⟨past, system, after, row, row', System.run_of_trace? htrace,
    System.forall_of_trace? htrace trades_backwardEvents, .of_isForward hforward, hs, hrow, hrow',
    of_decide_eq_true htime, of_decide_eq_true htime'⟩

end Passbook
