import Passbook.Proofs.Database.Locks

/-! # Answers

How a statement that is sent on a connection can be answered (`Answers`), and what its client then
knows (`Tells`). The statement may be run, with its answer twisted, or refused in its place, or the
connection may be lost. For each kind of statement a lemma says what has become of the transaction on
the connection; what has become of the books is said by `Answers.books`, whatever the statement is. As
long as there is no answer, at most the session of the connection changes (`Waits`), and neither its
transaction nor that it lives. -/

namespace Passbook

/-- Whether an answer is a refusal by the database. -/
def Statement.refuses {statement : Statement} : statement.Answer → Bool
  | .error (.rejected _) => true
  | _ => false

namespace Database

variable {Allowed : Twist → Prop} {db db' : Database} {connection other : Nat}
  {statement : Statement} {ran : Bool} {answer : statement.Answer}

/-- How a statement on a connection is answered: the database afterwards, whether the statement was
run, and the answer. Only the given twists are used. -/
inductive Answers (Allowed : Twist → Prop) (db : Database) (connection : Nat)
    (statement : Statement) : Database → Bool → statement.Answer → Prop
  | dead : (db.session connection).alive = false →
      Answers Allowed db connection statement db false (.error .connectionLost)
  | aborted : db.refusesAborted connection statement = true →
      Answers Allowed db connection statement db false (.error (.rejected .aborted))
  | refused (rejection : Rejection) :
      Answers Allowed db connection statement (db.refuse connection statement) false
        (.error (.rejected rejection))
  | lost : Answers Allowed db connection statement (db.disconnect connection) false
      (.error .connectionLost)
  | ran {db' : Database} {answer : statement.Answer} (twist : Twist) : Allowed twist →
      db.run connection statement = .answered db' answer →
      Answers Allowed db connection statement (db'.twisted connection statement twist answer).1 true
        (db'.twisted connection statement twist answer).2

/-- How the client of a connection is told of its statement, from the moment before it is sent to the
one at which the answer has been noted. Nothing is sent on a dead connection. -/
inductive Tells (Allowed : Twist → Prop) (db : Database) (connection : Nat)
    (statement : Statement) : Database → Bool → statement.Answer → Prop
  | dead : (db.session connection).alive = false →
      Tells Allowed db connection statement db false (.error .connectionLost)
  | living {met db' : Database} {ran : Bool} {answer : statement.Answer} :
      (db.session connection).alive = true →
      met = db ∨ statement = .begin ∧ met = db.note connection true →
      met.Answers Allowed connection statement db' ran answer →
      Tells Allowed db connection statement
        (if statement.isEnd && answer.toBool then db'.note connection false else db') ran answer

/-- What is noted of a statement that is sent on a connection and not answered at once: that it is the
beginning of a transaction, or when it arrived, if it stands alone and must wait for a lock. -/
inductive Waits (db : Database) (connection : Nat) (statement : Statement) : Database → Prop
  | unnoted : Waits db connection statement db
  | begun : statement = .begin → Waits db connection statement (db.note connection true)
  | arrived : statement.isQuery = true → db.transaction? connection = none →
      Waits db connection statement (db.wait connection)

namespace Waits

variable (h : db.Waits connection statement db')
include h

theorem eq : ∃ sessions, db' = { db with sessions } := by
  cases h with
  | unnoted => exact ⟨db.sessions, rfl⟩
  | begun => exact ⟨_, rfl⟩
  | arrived _ hnone =>
    unfold wait
    rw [hnone]
    exact ⟨_, rfl⟩

theorem books : db'.books = db.books := by
  obtain ⟨_, rfl⟩ := h.eq
  rfl

theorem locks : db'.locks = db.locks := by
  obtain ⟨_, rfl⟩ := h.eq
  rfl

theorem transaction? (other : Nat) : db'.transaction? other = db.transaction? other := by
  cases h with
  | unnoted => rfl
  | begun => exact transaction?_note db connection true other
  | arrived => exact transaction?_wait db connection other

theorem alive (other : Nat) : (db'.session other).alive = (db.session other).alive := by
  cases h with
  | unnoted => rfl
  | begun => exact alive_note db connection true other
  | arrived => exact alive_wait db connection other

theorem untouched (hne : other ≠ connection) : Untouched other db db' := by
  cases h with
  | unnoted => exact .refl other db
  | begun => exact .note hne db true
  | arrived => exact .wait hne db

theorem locksSound (hl : db.LocksSound) : db'.LocksSound :=
  hl.of_transactions h.locks h.transaction?

end Waits

/-- A statement that opens no transaction meets the database as it is. -/
theorem Tells.answers_or_noted (h : db.Tells Allowed connection statement db' ran answer)
    (hb : statement ≠ .begin) : ∃ ended, db.Answers Allowed connection statement ended ran answer ∧
      (db' = ended ∨ statement.isEnd = true ∧ db' = ended.note connection false) := by
  cases h with
  | dead hdead => exact ⟨_, .dead hdead, .inl rfl⟩
  | @living met ended _ _ _ hmet hanswers =>
    obtain rfl : met = db := by
      rcases hmet with rfl | ⟨rfl, -⟩
      · rfl
      · exact absurd rfl hb
    refine ⟨ended, hanswers, ?_⟩
    split
    · rename_i hnoted
      exact .inr ⟨(Bool.and_eq_true_iff.mp hnoted).1, rfl⟩
    · exact .inl rfl

/-- The client has nothing to note of a statement that neither opens nor ends a transaction. -/
theorem Tells.answers (h : db.Tells Allowed connection statement db' ran answer)
    (hb : statement ≠ .begin) (hend : statement.isEnd = false) :
    db.Answers Allowed connection statement db' ran answer := by
  obtain ⟨ended, hanswers, rfl | ⟨hnoted, -⟩⟩ := h.answers_or_noted hb
  · exact hanswers
  · cases hend.symm.trans hnoted

/-! ## Other connections -/

namespace Answers

theorem untouched (h : db.Answers Allowed connection statement db' ran answer)
    (hne : other ≠ connection) : Untouched other db db' := by
  cases h with
  | dead | aborted => exact .refl other db
  | refused => exact .refuse hne db statement
  | lost => exact .disconnect hne db
  | ran twist _ hr => exact (Untouched.run hne hr).trans (.twisted hne _ twist _)

theorem locksSound (h : db.Answers Allowed connection statement db' ran answer)
    (hl : db.LocksSound) : db'.LocksSound := by
  cases h with
  | dead | aborted => exact hl
  | refused => exact hl.refuse connection statement
  | lost => exact hl.disconnect connection
  | ran twist _ hr => exact (hl.run hr).twisted connection twist _

end Answers

/-- A statement is answered on one connection, and nothing happens to the others. -/
theorem Tells.untouched {other : Nat} (h : db.Tells Allowed connection statement db' ran answer)
    (hne : other ≠ connection) : Untouched other db db' := by
  cases h with
  | dead => exact .refl other db
  | @living met ended _ _ _ hmet hanswers =>
    have hmeets : Untouched other db met := by
      rcases hmet with rfl | ⟨-, rfl⟩
      · exact .refl other _
      · exact .note hne db true
    have hends := hmeets.trans (hanswers.untouched hne)
    split
    · exact hends.trans (.note hne ended false)
    · exact hends

theorem Tells.draws (h : db.Tells Allowed connection statement db' ran answer) :
    db'.draws = db.draws :=
  (h.untouched (Nat.succ_ne_self connection)).draws

/-! ## Books -/

theorem view_note (db : Database) (connection : Nat) (unended : Bool) (other : Nat) :
    (db.note connection unended).view other = db.view other := by
  simp [view]

theorem surroundings_note (db : Database) (connection : Nat) (unended : Bool) (other : Nat) :
    (db.note connection unended).surroundings other = db.surroundings other := by
  unfold surroundings
  rw [transaction?_note, waiting_note]
  rfl

theorem written_note (db : Database) (connection : Nat) (unended : Bool) (other : Nat)
    (statement : Statement) :
    (db.note connection unended).written other statement = db.written other statement := by
  simp only [written, refusesAborted, surroundings_note, transaction?_note, view_note]
  rfl

theorem published?_note (db : Database) (connection : Nat) (unended : Bool) (other : Nat)
    (statement : Statement) :
    (db.note connection unended).published? other statement = db.published? other statement := by
  simp only [published?, transaction?_note, written_note]

@[simp] theorem books_twisted (db : Database) (connection : Nat) (twist : Twist)
    (answer : statement.Answer) :
    (db.twisted connection statement twist answer).1.books = db.books := by
  unfold twisted
  split <;> simp

theorem Answers.books (h : db.Answers Allowed connection statement db' ran answer) :
    db'.books =
      (if ran then db.published? connection statement else none).elim db.books db.books.overlay := by
  cases h with
  | dead | aborted => rfl
  | refused => exact books_refuse ..
  | lost => exact books_disconnect ..
  | ran twist _ hr => rw [books_twisted]; exact books_run hr

/-! ## Silent statements -/

/-- Running the statement on the connection makes nothing public. -/
def Silent (db : Database) (connection : Nat) (statement : Statement) : Prop :=
  (db.session connection).alive = false ∨ db.published? connection statement = none

theorem published?_eq_none_iff : db.published? connection statement = none ↔
    match db.transaction? connection with
    | some transaction => statement = .commit → transaction.aborted = true
    | none => statement.isWrite = false := by
  unfold published?
  cases db.transaction? connection <;> simp

theorem silent_of_not_isWrite (db : Database) (connection : Nat) (hw : statement.isWrite = false)
    (hc : statement ≠ .commit) : db.Silent connection statement := by
  right
  rw [published?_eq_none_iff]
  cases db.transaction? connection <;> simp [hw, hc]

theorem silent_rollback (db : Database) (connection : Nat) : db.Silent connection .rollback :=
  silent_of_not_isWrite db connection rfl nofun

theorem silent_of_closed (ht : db.transaction? connection = none) (hw : statement.isWrite = false) :
    db.Silent connection statement := by
  right
  rw [published?_eq_none_iff, ht]
  exact hw

theorem silent_of_transaction {transaction : Transaction}
    (ht : db.transaction? connection = some transaction) (hs : statement ≠ .commit) :
    db.Silent connection statement := by
  right
  rw [published?_eq_none_iff, ht]
  exact fun hc => absurd hc hs

namespace Silent

theorem congr (h : db.Silent connection statement)
    (halive : (db'.session connection).alive = (db.session connection).alive)
    (ht : db'.transaction? connection = db.transaction? connection) :
    db'.Silent connection statement := by
  rcases h with h | h
  · exact .inl (by rw [halive, h])
  · right
    rw [published?_eq_none_iff] at h ⊢
    rwa [ht]

theorem of_untouched (h : db.Silent connection statement) (hu : Untouched connection db db') :
    db'.Silent connection statement :=
  h.congr (by rw [hu.session]) hu.transaction?

theorem note (h : db.Silent connection statement) (unended : Bool) :
    (db.note connection unended).Silent connection statement :=
  h.congr (alive_note ..) (transaction?_note ..)

theorem waits {other : Statement} (h : db.Silent connection statement)
    (hw : db.Waits connection other db') : db'.Silent connection statement :=
  h.congr (hw.alive connection) (hw.transaction? connection)

theorem not_published (h : db.Silent connection statement)
    (ht : db.Tells Allowed connection statement db' ran answer) :
    (if ran then db.published? connection statement else none) = none := by
  rcases h with h | h
  · cases ht with
    | dead => rfl
    | living halive => cases h.symm.trans halive
  · rw [h]
    split <;> rfl

end Silent

/-! ## The transaction on the connection -/

/-- The database refuses a statement that it runs, or answers it with rows. -/
theorem run_error {error : StorageError}
    (h : db.run connection statement = .answered db' (.error error)) :
    ∃ rejection, error = .rejected rejection := by
  cases runs_of_run h with
  | aborted | outOfRange | rejected => exact ⟨_, rfl⟩

theorem twisted_cases (db : Database) (connection : Nat) (twist : Twist)
    (answer : statement.Answer) :
    (db.twisted connection statement twist answer).1 = db ∧
        (db.twisted connection statement twist answer).2.toBool = answer.toBool ∧
        (answer.toBool = false → (db.twisted connection statement twist answer).2 = answer) ∨
      answer.toBool = true ∧ db.twisted connection statement twist answer =
        (db.disconnect connection, .error .connectionLost) := by
  unfold twisted
  split
  · exact .inl ⟨rfl, rfl, fun _ => rfl⟩
  · exact .inl ⟨rfl, rfl, fun _ => rfl⟩
  · exact .inl ⟨rfl, rfl, nofun⟩
  · exact .inl ⟨rfl, rfl, nofun⟩
  · exact .inr ⟨rfl, rfl⟩

/-- A client that is told of a success finds the database as its statement has left it. -/
theorem Answers.run_of_ok (h : db.Answers Allowed connection statement db' ran answer)
    (hok : answer.toBool = true) :
    ∃ own, db.run connection statement = .answered db' own ∧ own.toBool = true := by
  cases h with
  | dead | aborted | refused | lost => cases hok
  | @ran ended own twist _ hr =>
    rcases twisted_cases ended connection twist own with ⟨hdb, htold, -⟩ | ⟨-, htwisted⟩
    · rw [htold] at hok
      rw [hdb]
      exact ⟨own, hr, hok⟩
    · rw [htwisted] at hok
      cases hok

theorem transaction?_run_end (hend : statement.isEnd = true)
    (h : db.run connection statement = .answered db' answer) :
    db'.transaction? connection = none := by
  cases statement with
  | commit =>
    cases h
    simp [transaction?, session_publish]
  | rollback =>
    cases h
    simp [transaction?]
  | _ => cases hend

theorem disconnect_lost (db : Database) (connection : Nat) :
    ((db.disconnect connection).session connection).alive = false ∧
      (db.disconnect connection).transaction? connection = none := by
  simp [transaction?]

namespace Tells

theorem of_dead (h : db.Tells Allowed connection statement db' ran answer)
    (hdead : (db.session connection).alive = false) :
    db' = db ∧ ran = false ∧ answer = .error .connectionLost := by
  cases h with
  | dead => exact ⟨rfl, rfl, rfl⟩
  | living halive => cases hdead.symm.trans halive

/-- A statement about rows in a transaction adds to its changes, and aborts it if it is refused; or
the connection is lost. -/
theorem query {transaction : Transaction}
    (h : db.Tells Allowed connection statement db' ran answer) (hq : statement.isQuery = true)
    (ht : db.transaction? connection = some transaction) :
    (∃ transaction', db'.session connection =
        { db.session connection with transaction := some transaction' } ∧
      transaction'.began = transaction.began ∧
      transaction'.changes = transaction.changes.overlay
        (if ran then db.written connection statement else .empty) ∧
      transaction'.aborted = (transaction.aborted || Statement.refuses answer)) ∨
    (db'.session connection).alive = false ∧ db'.transaction? connection = none ∧
      answer = .error .connectionLost := by
  have hend := Statement.isEnd_of_isQuery hq
  have hs : (db.session connection).transaction = some transaction := ht
  have hsame : db.session connection =
      { db.session connection with transaction := some transaction } := by rw [← hs]
  cases h.answers (Statement.ne_begin_of_isQuery hq) hend with
  | dead =>
    exact .inl ⟨transaction, hsame, rfl, by simp [Books.overlay_empty], by simp [Statement.refuses]⟩
  | aborted haborted =>
    have ha : transaction.aborted = true := (refusesAborted_of_open ht hend).symm.trans haborted
    exact .inl ⟨transaction, hsame, rfl, by simp [Books.overlay_empty], by simp [ha]⟩
  | refused rejection =>
    refine .inl ⟨{ transaction with aborted := true }, ?_, rfl, by simp [Books.overlay_empty],
      by simp [Statement.refuses]⟩
    rw [refuse, if_neg (by simp [hend]), session_abort ht]
  | lost => exact .inr ⟨(disconnect_lost ..).1, (disconnect_lost ..).2, rfl⟩
  | @ran db' answer twist _ hr =>
    obtain ⟨transaction', hsession, hbegan, hchanges, haborted, -⟩ := run_query hq ht hr
    rcases twisted_cases db' connection twist answer with ⟨hdb, hok, herror⟩ | ⟨hok, htwisted⟩
    · refine .inl ⟨transaction', by rw [hdb, hsession], hbegan, by rw [hchanges, if_pos rfl], ?_⟩
      rw [haborted]
      cases answer with
      | error error =>
        obtain ⟨rejection, rfl⟩ := run_error hr
        rw [herror rfl]
        rfl
      | ok rows =>
        cases hanswer : (db'.twisted connection statement twist (.ok rows)).2 with
        | error => rw [hanswer] at hok; cases hok
        | ok => rfl
    · rw [htwisted]
      exact .inr ⟨(disconnect_lost ..).1, (disconnect_lost ..).2, rfl⟩

/-- A transaction has begun when the client is told so, and not otherwise. -/
theorem begin {answer : Statement.Answer .begin}
    (h : db.Tells Allowed connection .begin db' ran answer)
    (ht : db.transaction? connection = none) :
    answer.toBool = true ∧ (db'.session connection).alive = true ∧
        db'.transaction? connection = some ⟨db.clock, .empty, 0, false⟩ ∨
      answer.toBool = false ∧ db'.transaction? connection = none := by
  cases h with
  | dead => exact .inr ⟨rfl, ht⟩
  | @living met _ _ _ halive hmet hanswers =>
    have hclock : met.clock = db.clock := by rcases hmet with rfl | ⟨-, rfl⟩ <;> rfl
    have hmt : met.transaction? connection = none := by
      rcases hmet with rfl | ⟨-, rfl⟩ <;> simp [ht]
    have hmalive : (met.session connection).alive = true := by
      rcases hmet with rfl | ⟨-, rfl⟩ <;> simp [halive]
    simp only [Statement.isEnd, Bool.false_and, Bool.false_eq_true, if_false]
    cases hanswers with
    | dead | aborted => exact .inr ⟨rfl, hmt⟩
    | refused rejection =>
      have habort : met.abort connection = met := by simp [abort, hmt]
      refine .inr ⟨rfl, ?_⟩
      rw [refuse, if_neg (by simp [Statement.isEnd]), habort, hmt]
    | lost => exact .inr ⟨rfl, (disconnect_lost ..).2⟩
    | @ran _ _ twist _ hr =>
      cases hr
      have hcases := twisted_cases (met.enter connection) connection twist
        (.ok [] : Statement.Answer .begin)
      rcases hcases with ⟨hdb, hok, -⟩ | ⟨-, htwisted⟩
      · refine .inl ⟨hok, ?_⟩
        rw [hdb, enter, hmt]
        simp [transaction?, hmalive, hclock]
      · rw [htwisted]
        exact .inr ⟨rfl, (disconnect_lost ..).2⟩

/-- A transaction begins without a lock. -/
theorem locks_begin {answer : Statement.Answer .begin}
    (h : db.Tells Allowed connection .begin db' ran answer) (hok : answer.toBool = true) :
    db'.locks = db.locks := by
  cases h with
  | dead => cases hok
  | @living met _ _ _ _ hmet hanswers =>
    have hlocks : met.locks = db.locks := by rcases hmet with rfl | ⟨-, rfl⟩ <;> rfl
    rw [← hlocks]
    obtain ⟨own, hr, -⟩ := hanswers.run_of_ok hok
    cases hr
    exact locks_enter met connection

/-- A bound on lock waits is in range and in force when the client is told so. -/
theorem bounds {millis : Nat} {answer : Statement.Answer (.setLockTimeout millis)}
    (h : db.Tells Allowed connection (.setLockTimeout millis) db' ran answer)
    (hok : answer.toBool = true) : millis ≤ maxLockTimeout ∧
      ((∃ transaction, db.transaction? connection = some transaction ∧
        db' = db.setTransaction connection
          (some { transaction with lockTimeoutMillis := millis })) ∨
      db.transaction? connection = none ∧ db' = db) := by
  obtain ⟨own, hr, hown⟩ := (h.answers nofun rfl).run_of_ok hok
  cases runs_of_run hr with
  | aborted | outOfRange => cases hown
  | bounded hrange ht => exact ⟨hrange, .inl ⟨_, ht, rfl⟩⟩
  | nothingToBound hrange hnone => exact ⟨hrange, .inr ⟨hnone, rfl⟩⟩
  | performed hq | rejected hq => cases hq

theorem setLockTimeout {transaction : Transaction} {millis : Nat}
    {answer : Statement.Answer (.setLockTimeout millis)}
    (h : db.Tells Allowed connection (.setLockTimeout millis) db' ran answer)
    (ht : db.transaction? connection = some transaction) (hok : answer.toBool = true) :
    db'.session connection = { db.session connection with
      transaction := some { transaction with lockTimeoutMillis := millis } } := by
  obtain ⟨-, ⟨former, hformer, rfl⟩ | ⟨hnone, -⟩⟩ := h.bounds hok
  · cases ht.symm.trans hformer
    simp
  · cases hnone.symm.trans ht

/-- It is set without a lock. -/
theorem locks_setLockTimeout {millis : Nat} {answer : Statement.Answer (.setLockTimeout millis)}
    (h : db.Tells Allowed connection (.setLockTimeout millis) db' ran answer)
    (hok : answer.toBool = true) : db'.locks = db.locks := by
  obtain ⟨-, ⟨_, -, rfl⟩ | ⟨-, rfl⟩⟩ := h.bounds hok <;> rfl

theorem books (h : db.Tells Allowed connection statement db' ran answer) :
    db'.books =
      (if ran then db.published? connection statement else none).elim db.books db.books.overlay := by
  cases h with
  | dead => rfl
  | @living met db' _ _ _ hmet hanswers =>
    have hbooks := hanswers.books
    have hsame : met.books = db.books ∧
        met.published? connection statement = db.published? connection statement := by
      rcases hmet with rfl | ⟨-, rfl⟩
      · exact ⟨rfl, rfl⟩
      · exact ⟨rfl, published?_note ..⟩
    rw [hsame.1, hsame.2] at hbooks
    rw [← hbooks]
    split <;> rfl

/-- The client notes the end of its transaction when it is told of it. -/
theorem noted (h : db.Tells Allowed connection statement db' ran answer)
    (hend : statement.isEnd = true) (hok : answer.toBool = true) :
    (db'.session connection).unended = false := by
  cases h with
  | dead => cases hok
  | living =>
    rw [hend, hok]
    simp

/-- No transaction is open any more on a living connection when the end of one has been answered, and
the client is not told of an end that was not run. -/
theorem ended (h : db.Tells Allowed connection statement db' ran answer)
    (hend : statement.isEnd = true) :
    ((db.session connection).alive = false ∧ db' = db ∨ db'.transaction? connection = none) ∧
      (answer.toBool = true → ran = true) := by
  cases h with
  | dead hdead => exact ⟨.inl ⟨hdead, rfl⟩, nofun⟩
  | @living met ended _ answer halive hmet hanswers =>
    obtain rfl : met = db := by
      rcases hmet with rfl | ⟨rfl, -⟩
      · rfl
      · cases hend
    suffices hended : ended.transaction? connection = none by
      refine ⟨.inr ?_, ?_⟩
      · split
        · rw [transaction?_note, hended]
        · exact hended
      · intro hok
        cases hanswers <;> first | rfl | cases hok
    cases hanswers with
    | dead hdead => cases hdead.symm.trans halive
    | aborted haborted => simp [refusesAborted, hend] at haborted
    | refused rejection =>
      rw [refuse, if_pos hend]
      simp [transaction?]
    | lost => exact (disconnect_lost ..).2
    | @ran db' answer twist _ hr =>
      have hrun : db'.transaction? connection = none := transaction?_run_end hend hr
      rcases twisted_cases db' connection twist answer with ⟨hdb, -⟩ | ⟨-, htwisted⟩
      · rw [hdb, hrun]
      · rw [htwisted]
        exact (disconnect_lost ..).2

end Tells

end Database

end Passbook
