import Passbook.Proofs.Database.Keyed

/-! # Rows in custody

A connection owns the rows that it has locked and those that its open transaction has changed or
added (`Owns`). Nobody else can change an owned row in the committed books (`Answers.steady`), whether
or not they lock rows before they write. What makes it so is `Custody`: a changed row that is
committed is locked by its transaction, and no row is changed by two transactions. Rows that are not
committed have no lock; there it takes the key of the table, which makes a statement wait that adds an
account while another transaction has added it (`KeysFree`). -/

namespace Passbook

namespace Database

variable {Allowed : Twist → Prop} {db db' : Database} {connection other : Nat}
  {statement : Statement} {ran : Bool} {answer : statement.Answer} {id : Int}

/-- The open transaction on the connection has changed or added the account's row. -/
def Alters (db : Database) (connection : Nat) (account : Int) : Prop :=
  ∃ transaction, db.transaction? connection = some transaction ∧ transaction.aborted = false ∧
    (transaction.changes.account? account).isSome = true

/-- The connection has locked the account's row, or changed or added it. -/
def Owns (db : Database) (connection : Nat) (account : Int) : Prop :=
  db.Holds connection account ∨ db.Alters connection account

/-- The statement does not add an account that is added by the open transaction on another
connection: the key of the table makes it wait until that transaction has ended. -/
def KeysFree (db : Database) (connection : Nat) : Statement → Prop
  | .insertAccount id _ _ => db.books.account? id = none →
      ∀ other, other ≠ connection → ¬ db.Alters other id
  | _ => True

/-- The transaction on a connection is open on a living one, has one row for each account that it has
changed, and has locked those of them that are committed; only committed rows are locked. -/
structure Keeps (db : Database) (connection : Nat) : Prop where
  living : ∀ transaction, db.transaction? connection = some transaction →
    (db.session connection).alive = true
  keyed : ∀ transaction, db.transaction? connection = some transaction → transaction.changes.Keyed
  exist : ∀ id, db.Holds connection id → (db.books.account? id).isSome = true
  held : ∀ id, db.Alters connection id → (db.books.account? id).isSome = true →
    db.Holds connection id

/-- So it is on every connection, and no row is changed on two. -/
structure Custody (db : Database) : Prop where
  keeps : ∀ connection, db.Keeps connection
  sole : ∀ connection other id, db.Alters connection id → db.Alters other id → connection = other

theorem Untouched.holds (h : Untouched other db db') : db'.Holds other id ↔ db.Holds other id :=
  h.locks id

theorem Untouched.alters (h : Untouched other db db') : db'.Alters other id ↔ db.Alters other id := by
  unfold Alters
  rw [h.transaction?]

theorem Untouched.owns (h : Untouched other db db') : db'.Owns other id ↔ db.Owns other id :=
  or_congr h.holds h.alters

/-- The row that a statement about to run must lock is locked by nobody else. -/
theorem eq_of_unobstructed {holder : Nat} (hl : db.LocksSound)
    (hfree : db.obstacle? connection statement = none)
    (hlock : statement.lockedAccount? db.books = some id) (hheld : db.Holds holder id) :
    holder = connection := by
  have hholder := hl.holder?_iff.mpr hheld
  simpa [obstacle?, hlock, Option.filter, lockable, hholder] using hfree

theorem of_written (h : ((db.written connection statement).account? id).isSome = true) :
    (∃ balance, statement = .updateAccount id balance ∧
      ((db.view connection).account? id).isSome = true) ∨
      ∃ owner kind, statement = .insertAccount id owner kind ∧
        (db.view connection).account? id = none := by
  unfold written at h
  split at h
  · cases h
  · split at h
    · exact Statement.of_changes ‹_› h
    · cases h

theorem keyed_written (db : Database) (connection : Nat) (statement : Statement) :
    (db.written connection statement).Keyed := by
  unfold written
  split
  · exact List.nodup_nil
  · split
    · exact Statement.keyed_changes ‹_›
    · exact List.nodup_nil

/-- What the connection sees of an account: its transaction's row, or the committed one. -/
theorem Keeps.account?_view {transaction : Transaction} (h : db.Keeps connection)
    (ht : db.transaction? connection = some transaction) (id : Int) :
    (db.view connection).account? id =
      (transaction.changes.account? id).or (db.books.account? id) := by
  rw [view, ht, (h.keyed transaction ht).account?_overlay]

theorem run_outside_leaves (hq : statement.isQuery = true)
    (ht : db.transaction? connection = none)
    (hr : db.run connection statement = .answered db' answer) :
    db'.transaction? connection = none ∧ db'.locks = db.locks := by
  have hlocked : (db.lockFor connection statement).transaction? connection = none := by
    rw [transaction?_lockFor, ht]
  have hlocks : (db.lockFor connection statement).locks = db.locks := by
    simp only [lockFor, ht]
    rfl
  cases runs_of_run hr with
  | begun | committed | rolledBack | outOfRange | bounded | nothingToBound => cases hq
  | aborted => exact ⟨ht, rfl⟩
  | performed =>
    rw [locks_change, hlocks]
    refine ⟨?_, rfl⟩
    unfold change
    have hserial : ∀ serial, Database.transaction?
        { db.lockFor connection statement with serial } connection = none := fun _ => hlocked
    simp only [hserial]
    exact hlocked
  | rejected =>
    have habort : (db.lockFor connection statement).abort connection =
        db.lockFor connection statement := by simp [abort, hlocked]
    rw [habort]
    exact ⟨hlocked, hlocks⟩

namespace Custody

theorem owner_unique (h : db.Custody) (hl : db.LocksSound) (hc : db.Owns connection id)
    (ho : db.Owns other id) : connection = other := by
  rcases hc with hc | hc <;> rcases ho with ho | ho
  · exact hl.eq_of_mem hc ho
  · exact hl.eq_of_mem hc ((h.keeps other).held id ho ((h.keeps connection).exist id hc))
  · exact hl.eq_of_mem ((h.keeps connection).held id hc ((h.keeps other).exist id ho)) ho
  · exact h.sole connection other id hc ho

/-- It is enough to look at the connection that something happens to, and at the accounts that become
public. -/
theorem of_untouched (h : db.Custody) (hu : ∀ other, other ≠ connection → Untouched other db db')
    (hexist : ∀ id, (db.books.account? id).isSome = true → (db'.books.account? id).isSome = true)
    (hnew : ∀ id other, other ≠ connection → db.Alters other id →
      (db'.books.account? id).isSome = true → (db.books.account? id).isSome = true)
    (hkeeps : db'.Keeps connection)
    (hsole : ∀ id other, other ≠ connection → db'.Alters connection id → ¬ db.Alters other id) :
    db'.Custody := by
  refine ⟨fun other => ?_, fun first second id hfirst hsecond => ?_⟩
  · by_cases ho : other = connection
    · rw [ho]; exact hkeeps
    · have hother := hu other ho
      have hold := h.keeps other
      refine ⟨?_, ?_, fun id hheld => hexist id (hold.exist id (hother.holds.mp hheld)),
        fun id halters hpublic => ?_⟩
      · rw [hother.transaction?, hother.session]; exact hold.living
      · rw [hother.transaction?]; exact hold.keyed
      · have halters := hother.alters.mp halters
        exact hother.holds.mpr (hold.held id halters (hnew id other ho halters hpublic))
  · by_cases hc : first = connection
    · by_cases hc' : second = connection
      · rw [hc, hc']
      · rw [(hu second hc').alters] at hsecond
        exact absurd hsecond (hsole id second hc' (hc ▸ hfirst))
    · rw [(hu first hc).alters] at hfirst
      by_cases hc' : second = connection
      · exact absurd hfirst (hsole id first hc (hc' ▸ hsecond))
      · rw [(hu second hc').alters] at hsecond
        exact h.sole first second id hfirst hsecond

/-- Nothing becomes public, and the connection changes no more rows than before. -/
theorem of_kept (h : db.Custody) (hu : ∀ other, other ≠ connection → Untouched other db db')
    (hbooks : db'.books = db.books)
    (hopen : ∀ transaction, db'.transaction? connection = some transaction →
      (db'.session connection).alive = true ∧ transaction.changes.Keyed)
    (hholds : ∀ id, db'.Holds connection id → db.Holds connection id)
    (halters : ∀ id, db'.Alters connection id →
      db.Alters connection id ∧ (db.Holds connection id → db'.Holds connection id)) :
    db'.Custody := by
  refine h.of_untouched hu (by rw [hbooks]; exact fun _ hid => hid)
    (by rw [hbooks]; exact fun _ _ _ _ hid => hid) ⟨?_, ?_, ?_, ?_⟩ ?_
  · exact fun transaction ht => (hopen transaction ht).1
  · exact fun transaction ht => (hopen transaction ht).2
  · intro id hheld
    rw [hbooks]
    exact (h.keeps connection).exist id (hholds id hheld)
  · intro id hown hpublic
    rw [hbooks] at hpublic
    obtain ⟨hown, hheld⟩ := halters id hown
    exact hheld ((h.keeps connection).held id hown hpublic)
  · intro id other hne hown hother
    exact hne (h.sole other connection id hother (halters id hown).1)

/-- The connection has no transaction any more, and nothing becomes public. -/
theorem of_ended (h : db.Custody) (hu : ∀ other, other ≠ connection → Untouched other db db')
    (hbooks : db'.books = db.books) (hnone : db'.transaction? connection = none)
    (hholds : ∀ id, db'.Holds connection id → db.Holds connection id) : db'.Custody := by
  refine h.of_kept hu hbooks (fun transaction ht => ?_) hholds ?_
  · cases hnone.symm.trans ht
  · rintro id ⟨transaction, ht, -⟩
    cases hnone.symm.trans ht

theorem forget (h : db.Custody) (connection : Nat) : (db.forget connection).Custody :=
  h.of_ended (fun _ ho => .forget ho db) rfl (by simp [transaction?])
    fun id hheld => ((mem_locks_forget db connection id connection).mp hheld).1

theorem disconnect (h : db.Custody) (connection : Nat) : (db.disconnect connection).Custody :=
  h.of_ended (fun _ ho => .disconnect ho db) rfl (by simp [transaction?])
    fun id hheld => ((mem_locks_disconnect db connection id connection).mp hheld).1

theorem close (h : db.Custody) (connection : Nat) : (db.close connection).Custody :=
  h.of_ended (fun _ ho => .close ho db) rfl (by simp [transaction?, Session.fresh])
    fun id hheld => ((mem_locks_close db connection id connection).mp hheld).1

/-- The locks and the transaction's changes are what counts. -/
theorem of_same (h : db.Custody) (hu : ∀ other, other ≠ connection → Untouched other db db')
    (hbooks : db'.books = db.books)
    (halive : (db'.session connection).alive = (db.session connection).alive)
    (hlocks : db'.locks = db.locks)
    (hopen : ∀ transaction', db'.transaction? connection = some transaction' →
      ∃ transaction, db.transaction? connection = some transaction ∧
        transaction'.changes = transaction.changes ∧
        (transaction'.aborted = false → transaction.aborted = false)) : db'.Custody := by
  refine h.of_kept hu hbooks ?_ ?_ ?_
  · intro transaction' ht'
    obtain ⟨transaction, ht, hchanges, -⟩ := hopen transaction' ht'
    rw [halive, hchanges]
    exact ⟨(h.keeps connection).living transaction ht, (h.keeps connection).keyed transaction ht⟩
  · intro id hheld
    unfold Holds at hheld ⊢
    rwa [hlocks] at hheld
  · rintro id ⟨transaction', ht', haborted, hid⟩
    obtain ⟨transaction, ht, hchanges, hopen⟩ := hopen transaction' ht'
    rw [hchanges] at hid
    refine ⟨⟨transaction, ht, hopen haborted, hid⟩, fun hheld => ?_⟩
    unfold Holds at hheld ⊢
    rwa [hlocks]

theorem note (h : db.Custody) (connection : Nat) (unended : Bool) :
    (db.note connection unended).Custody :=
  h.of_same (fun _ ho => .note ho db unended) rfl (by simp) rfl fun transaction ht =>
    ⟨transaction, by simpa using ht, rfl, id⟩

theorem wait (h : db.Custody) (connection : Nat) : (db.wait connection).Custody :=
  h.of_same (fun _ ho => .wait ho db) (books_wait ..) (by simp) (locks_wait ..) fun transaction ht =>
    ⟨transaction, by simpa using ht, rfl, id⟩

theorem abort (h : db.Custody) (connection : Nat) : (db.abort connection).Custody := by
  cases ht : db.transaction? connection with
  | none =>
    have hsame : db.abort connection = db := by simp [Database.abort, ht]
    rw [hsame]
    exact h
  | some transaction =>
    refine h.of_same (fun _ ho => .abort ho db) (books_abort ..) ?_ (locks_abort ..) ?_
    · rw [session_abort ht]
    · intro transaction' ht'
      rw [transaction?, session_abort ht, Option.some.injEq] at ht'
      subst ht'
      exact ⟨transaction, ht, rfl, by simp⟩

theorem refuse (h : db.Custody) (connection : Nat) (statement : Statement) :
    (db.refuse connection statement).Custody := by
  unfold Database.refuse
  split
  · exact h.forget connection
  · exact h.abort connection

theorem enter (h : db.Custody) (halive : (db.session connection).alive = true) :
    (db.enter connection).Custody := by
  cases ht : db.transaction? connection with
  | some transaction =>
    have hsame : db.enter connection = db := by simp [Database.enter, ht]
    rw [hsame]
    exact h
  | none =>
    have hentered : (db.enter connection).transaction? connection =
        some ⟨db.clock, .empty, 0, false⟩ := by
      unfold Database.enter
      rw [ht]
      simp [transaction?]
    refine h.of_kept (fun _ ho => .enter ho db) (books_enter ..) ?_ ?_ ?_
    · intro transaction ht'
      cases hentered.symm.trans ht'
      exact ⟨by simp [Database.enter, ht, halive], List.nodup_nil⟩
    · intro id hheld
      unfold Holds at hheld ⊢
      rwa [locks_enter] at hheld
    · rintro id ⟨transaction, ht', -, hid⟩
      cases hentered.symm.trans ht'
      cases hid

/-- What a transaction has changed becomes public, and was changed by no other. -/
theorem publish (h : db.Custody) (connection : Nat) : (db.publish connection).Custody := by
  cases ht : db.transaction? connection with
  | none =>
    have hsame : db.publish connection = db := by simp [Database.publish, ht]
    rw [hsame]
    exact h
  | some transaction =>
    cases ha : transaction.aborted with
    | true =>
      have hforget : db.publish connection = db.forget connection := by
        simp [Database.publish, ht, ha]
      rw [hforget]
      exact h.forget connection
    | false =>
      have hbooks : (db.publish connection).books = db.books.overlay transaction.changes := by
        simp [Database.publish, ht, ha]
      have hnone : (db.publish connection).transaction? connection = none := by
        simp [transaction?, session_publish]
      have hlocks : ∀ id, ¬ (db.publish connection).Holds connection id := by
        intro id
        simp [Holds, Database.publish, ht, ha]
      refine h.of_untouched (fun _ ho => .publish ho db) ?_ ?_ ⟨?_, ?_, ?_, ?_⟩ ?_
      · intro id hid
        rw [hbooks]
        exact Books.isSome_overlay _ hid
      · intro id other hne hother hid
        rw [hbooks, ((h.keeps connection).keyed transaction ht).account?_overlay,
          Option.isSome_or, Bool.or_eq_true] at hid
        rcases hid with hid | hid
        · exact absurd (h.sole other connection id hother ⟨transaction, ht, ha, hid⟩) hne
        · exact hid
      · intro transaction' ht'
        cases hnone.symm.trans ht'
      · intro transaction' ht'
        cases hnone.symm.trans ht'
      · exact fun id hheld => absurd hheld (hlocks id)
      · rintro id ⟨transaction', ht', -⟩
        cases hnone.symm.trans ht'
      · rintro id other - ⟨transaction', ht', -⟩
        cases hnone.symm.trans ht'

/-- A row that a transaction changes after a statement is one that it has changed before, newly locked,
or newly added. -/
theorem alters_run {transaction : Transaction} (h : db.Custody) (hq : statement.isQuery = true)
    (ht : db.transaction? connection = some transaction) (ha : transaction.aborted = false)
    (hkeys : db.KeysFree connection statement)
    (hr : db.run connection statement = .answered db' answer) (halters : db'.Alters connection id) :
    db.Alters connection id ∨ (db.books.account? id).isSome = true ∧ db'.Holds connection id ∨
      db.books.account? id = none ∧ ∀ other, other ≠ connection → ¬ db.Alters other id := by
  have hkeeps := h.keeps connection
  obtain ⟨transaction', hsession, -, hchanges, -⟩ := run_query hq ht hr
  obtain ⟨last, hlast, hopen, hid⟩ := halters
  rw [transaction?, hsession] at hlast
  obtain rfl := Option.some.inj hlast
  rw [hchanges, (keyed_written ..).account?_overlay, Option.isSome_or, Bool.or_eq_true] at hid
  rcases hid with hid | hid
  · rcases of_written hid with ⟨balance, rfl, hsome⟩ | ⟨owner, kind, rfl, hnone⟩
    · rw [hkeeps.account?_view ht, Option.isSome_or, Bool.or_eq_true] at hsome
      rcases hsome with hsome | hsome
      · exact .inl ⟨transaction, ht, ha, hsome⟩
      · refine .inr (.inl ⟨hsome, (mem_locks_run hq ht ha hr (id, connection)).mpr (.inr ⟨rfl, ?_⟩)⟩)
        show (db.books.account? id).map (·.id) = some id
        rw [Books.map_id_account?, if_pos hsome]
    · rw [hkeeps.account?_view ht, Option.or_eq_none_iff] at hnone
      exact .inr (.inr ⟨hnone.2, hkeys hnone.2⟩)
  · exact .inl ⟨transaction, ht, ha, hid⟩

/-- A statement about rows in a transaction that is not aborted. -/
theorem run_inside {transaction : Transaction} (h : db.Custody) (hl : db.LocksSound)
    (hq : statement.isQuery = true) (ht : db.transaction? connection = some transaction)
    (ha : transaction.aborted = false) (hkeys : db.KeysFree connection statement)
    (hr : db.run connection statement = .answered db' answer) : db'.Custody := by
  have hu : ∀ other, other ≠ connection → Untouched other db db' := fun other ho => .run ho hr
  have hkeeps := h.keeps connection
  have hl' := hl.run hr
  obtain ⟨transaction', hsession, -, hchanges, -, hbooks⟩ := run_query hq ht hr
  have ht' : db'.transaction? connection = some transaction' := by rw [transaction?, hsession]
  have hholds : ∀ id, db'.Holds connection id ↔
      db.Holds connection id ∨ statement.lockedAccount? db.books = some id := by
    intro id
    simpa [Holds] using mem_locks_run hq ht ha hr (id, connection)
  refine h.of_untouched hu (by rw [hbooks]; exact fun _ hid => hid)
    (by rw [hbooks]; exact fun _ _ _ _ hid => hid) ⟨?_, ?_, ?_, ?_⟩ ?_
  · intro last hlast
    obtain rfl := Option.some.inj (ht'.symm.trans hlast)
    rw [hsession]
    exact hkeeps.living _ ht
  · intro last hlast
    obtain rfl := Option.some.inj (ht'.symm.trans hlast)
    rw [hchanges]
    exact (hkeeps.keyed _ ht).overlay _
  · intro id hheld
    rw [hbooks]
    rcases (hholds id).mp hheld with hheld | hlock
    · exact hkeeps.exist id hheld
    · exact Statement.isSome_of_lockedAccount? hlock
  · intro id hown hpublic
    rw [hbooks] at hpublic
    rcases h.alters_run hq ht ha hkeys hr hown with hown | ⟨-, hheld⟩ | ⟨hnone, -⟩
    · exact (hholds id).mpr (.inl (hkeeps.held id hown hpublic))
    · exact hheld
    · rw [hnone] at hpublic
      cases hpublic
  · intro id other hne hown hother
    rcases h.alters_run hq ht ha hkeys hr hown with hown | ⟨hpublic, hheld⟩ | ⟨-, hfree⟩
    · exact hne (h.sole other connection id hother hown)
    · have hother' := (hu other hne).holds.mpr ((h.keeps other).held id hother hpublic)
      exact hne (hl'.eq_of_mem hother' hheld)
    · exact hfree other hne hother

/-- A statement about rows that stands alone. -/
theorem run_outside (h : db.Custody) (hq : statement.isQuery = true)
    (ht : db.transaction? connection = none) (hkeys : db.KeysFree connection statement)
    (hr : db.run connection statement = .answered db' answer) : db'.Custody := by
  have hbooks : db'.books = db.books.overlay (db.written connection statement) := by
    have hbooks := books_run hr
    cases hw : statement.isWrite with
    | true => simpa [published?, ht, hw] using hbooks
    | false =>
      rw [written_of_not_isWrite db connection hw, Books.overlay_empty]
      simpa [published?, ht, hw] using hbooks
  have hview : db.view connection = db.books := by simp [view, ht]
  obtain ⟨hnone, hlocks⟩ := run_outside_leaves hq ht hr
  refine h.of_untouched (fun _ ho => .run ho hr) ?_ ?_ ⟨?_, ?_, ?_, ?_⟩ ?_
  · intro id hid
    rw [hbooks]
    exact Books.isSome_overlay _ hid
  · intro id other hne hother hid
    rw [hbooks, (keyed_written ..).account?_overlay, Option.isSome_or, Bool.or_eq_true] at hid
    rcases hid with hid | hid
    · rcases of_written hid with ⟨balance, rfl, hsome⟩ | ⟨owner, kind, rfl, hfree⟩
      · rwa [hview] at hsome
      · rw [hview] at hfree
        exact absurd hother (hkeys hfree other hne)
    · exact hid
  · intro transaction ht'
    cases hnone.symm.trans ht'
  · intro transaction ht'
    cases hnone.symm.trans ht'
  · intro id hheld
    rw [hbooks]
    unfold Holds at hheld
    rw [hlocks] at hheld
    exact Books.isSome_overlay _ ((h.keeps connection).exist id hheld)
  · rintro id ⟨transaction, ht', -⟩
    cases hnone.symm.trans ht'
  · rintro id other - ⟨transaction, ht', -⟩
    cases hnone.symm.trans ht'

theorem run (h : db.Custody) (hl : db.LocksSound)
    (halive : (db.session connection).alive = true) (hkeys : db.KeysFree connection statement)
    (hr : db.run connection statement = .answered db' answer) : db'.Custody := by
  have hquery : statement.isQuery = true → db.refusesAborted connection statement = false →
      db'.Custody := by
    intro hq hopen
    cases ht : db.transaction? connection with
    | some transaction =>
      rw [refusesAborted_of_open ht (Statement.isEnd_of_isQuery hq)] at hopen
      exact h.run_inside hl hq ht hopen hkeys hr
    | none => exact h.run_outside hq ht hkeys hr
  cases runs_of_run hr with
  | begun => exact h.enter halive
  | committed => exact h.publish connection
  | rolledBack => exact h.forget connection
  | aborted | nothingToBound => exact h
  | outOfRange => exact h.abort connection
  | @bounded _ transaction _ ht =>
    refine h.of_same (fun _ ho => .setTransaction ho db _) rfl (by simp) rfl ?_
    intro transaction' ht'
    simp only [transaction?, session_setTransaction, if_true, Option.some.injEq] at ht'
    subst ht'
    exact ⟨transaction, ht, rfl, fun ha => ha⟩
  | performed hq hopen | rejected hq hopen => exact hquery hq hopen

theorem twisted (h : db.Custody) (connection : Nat) (twist : Twist) (answer : statement.Answer) :
    (db.twisted connection statement twist answer).1.Custody := by
  unfold Database.twisted
  split
  all_goals first | exact h | exact h.disconnect connection

theorem answers (h : db.Custody) (hl : db.LocksSound)
    (halive : (db.session connection).alive = true)
    (hkeys : ran = true → db.KeysFree connection statement)
    (ha : db.Answers Allowed connection statement db' ran answer) : db'.Custody := by
  cases ha with
  | dead | aborted => exact h
  | refused => exact h.refuse connection statement
  | lost => exact h.disconnect connection
  | ran twist _ hr => exact (h.run hl halive (hkeys rfl) hr).twisted connection twist _

end Custody

theorem keysFree_note (db : Database) (connection : Nat) (unended : Bool) (other : Nat)
    (statement : Statement) :
    (db.note connection unended).KeysFree other statement ↔ db.KeysFree other statement := by
  cases statement <;> simp [KeysFree, Alters]

/-- Rows stay in custody, whatever a client asks for and however it is told. -/
theorem Custody.tells (h : db.Custody) (hl : db.LocksSound)
    (hkeys : ran = true → db.KeysFree connection statement)
    (htells : db.Tells Allowed connection statement db' ran answer) : db'.Custody := by
  cases htells with
  | dead => exact h
  | @living met db' _ _ halive hmet hanswers =>
    have hmeets : met.Custody ∧ met.LocksSound ∧ (met.session connection).alive = true ∧
        (ran = true → met.KeysFree connection statement) := by
      rcases hmet with rfl | ⟨-, rfl⟩
      · exact ⟨h, hl, halive, hkeys⟩
      · refine ⟨h.note .., hl.note .., by simpa using halive, fun hran => ?_⟩
        exact (keysFree_note ..).mpr (hkeys hran)
    obtain ⟨hcustody, hlocks, hliving, hfree⟩ := hmeets
    have hafter := hcustody.answers hlocks hliving hfree hanswers
    split
    · exact hafter.note connection false
    · exact hafter

/-! ## Owned rows -/

/-- What a statement publishes leaves the rows alone that others own. -/
theorem Custody.spares_owned {published : Books} (h : db.Custody) (hl : db.LocksSound)
    (hkeys : db.KeysFree connection statement)
    (hfree : statement.isQuery = true → db.obstacle? connection statement = none)
    (hp : db.published? connection statement = some published) (hne : other ≠ connection)
    (howns : db.Owns other id) : published.account? id = none := by
  by_contra hchanged
  have hchanged : (published.account? id).isSome = true := Option.isSome_iff_ne_none.mpr hchanged
  rcases published?_cases hp with ⟨transaction, ht, -, ha, rfl⟩ | ⟨ht, -, rfl⟩
  · exact hne (h.owner_unique hl howns (.inr ⟨transaction, ht, ha, hchanged⟩))
  · have hview : db.view connection = db.books := by simp [view, ht]
    rcases of_written hchanged with ⟨balance, rfl, hsome⟩ | ⟨owner, kind, rfl, hnone⟩
    · -- the updated row is locked, by its owner if by anybody
      rw [hview] at hsome
      have hheld : db.Holds other id := by
        rcases howns with hheld | halters
        · exact hheld
        · exact (h.keeps other).held id halters hsome
      refine hne (eq_of_unobstructed hl (hfree rfl) ?_ hheld)
      show (db.books.account? id).map (·.id) = some id
      rw [Books.map_id_account?, if_pos hsome]
    · rw [hview] at hnone
      rcases howns with hheld | halters
      · have hexist := (h.keeps other).exist id hheld
        rw [hnone] at hexist
        cases hexist
      · exact hkeys hnone other hne halters

theorem keyed_published {published : Books} (h : db.Custody)
    (hp : db.published? connection statement = some published) : published.Keyed := by
  rcases published?_cases hp with ⟨transaction, ht, -, -, rfl⟩ | ⟨-, -, rfl⟩
  · exact (h.keeps connection).keyed transaction ht
  · exact keyed_written ..

theorem obstacle?_of_run (hq : statement.isQuery = true)
    (ht : db.refusesAborted connection statement = false)
    (hr : db.run connection statement = .answered db' answer) :
    db.obstacle? connection statement = none := by
  cases runs_of_run hr with
  | begun | committed | rolledBack | outOfRange | bounded | nothingToBound => cases hq
  | aborted haborted => cases ht.symm.trans haborted
  | performed _ _ hfree | rejected _ _ hfree => exact hfree

/-- A row that a connection owns is changed on no other, whatever statement is answered there. -/
theorem Answers.steady (h : db.Custody) (hl : db.LocksSound)
    (hkeys : ran = true → db.KeysFree connection statement)
    (ha : db.Answers Allowed connection statement db' ran answer) (hne : other ≠ connection)
    (howns : db.Owns other id) : db'.books.account? id = db.books.account? id := by
  have hbooks := ha.books
  cases ha with
  | dead | aborted | refused | lost => exact congrArg (Books.account? · id) hbooks
  | ran twist _ hr =>
    rw [if_pos rfl] at hbooks
    cases hp : db.published? connection statement with
    | none =>
      rw [hbooks, hp]
      rfl
    | some published =>
      rw [hbooks, hp, Option.elim_some, (keyed_published h hp).account?_overlay,
        h.spares_owned hl (hkeys rfl) ?_ hp hne howns, Option.none_or]
      intro hq
      refine obstacle?_of_run hq ?_ hr
      rcases published?_cases hp with ⟨_, -, rfl, -, -⟩ | ⟨ht, -, -⟩
      · cases hq
      · exact refusesAborted_of_closed ht

/-- The same for statements whose client is told of them. -/
theorem Tells.steady (h : db.Custody) (hl : db.LocksSound)
    (hkeys : ran = true → db.KeysFree connection statement)
    (htells : db.Tells Allowed connection statement db' ran answer) (hne : other ≠ connection)
    (howns : db.Owns other id) : db'.books.account? id = db.books.account? id := by
  cases htells with
  | dead => rfl
  | @living met db' _ _ _ hmet hanswers =>
    have hsteady : db'.books.account? id = met.books.account? id ∧ met.books = db.books := by
      rcases hmet with rfl | ⟨-, rfl⟩
      · exact ⟨hanswers.steady h hl hkeys hne howns, rfl⟩
      · refine ⟨hanswers.steady (h.note ..) (hl.note ..) (fun hran => ?_) hne ?_, rfl⟩
        · exact (keysFree_note ..).mpr (hkeys hran)
        · exact (Untouched.note hne db true).owns.mpr howns
    rw [← hsteady.2, ← hsteady.1]
    split <;> rfl

end Database

end Passbook
