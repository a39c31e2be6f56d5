import Passbook.Proofs.System.Custody

/-! # Footings

What a piece of work can rely on between two of its statements, whatever all others do (`Footing`): the
books that it has published, and where it stands on its connection (`Ground`). In an open transaction
it stands on a `Draft`: the committed books and its own changes. Others may change the books under its
feet, but not the rows that it owns (`Draft.Sways`). The answer to a statement takes it from one
footing to the next (`Hears`).

The database bears this out: as long as rows are in custody, a ground that describes a connection goes
on to describe it when others move (`Ground.Of.of_untouched`), and the footing that follows an answer
describes the connection after it (`Ground.Of.lands`). -/

namespace Passbook

/-- An open transaction as its work knows it: the committed books, the changes it has made, the rows
it has locked and what it has drawn. -/
structure Draft where
  books : Books
  changes : Books
  held : Int → Prop
  drawn : List Draw
  keyed : changes.Keyed

namespace Draft

variable {draft draft' draft'' : Draft} {id : Int}

/-- A transaction that has just begun. -/
def opened (books : Books) : Draft := ⟨books, .empty, fun _ => False, [], List.nodup_nil⟩

/-- What the transaction sees. -/
def view (draft : Draft) : Books := draft.books.overlay draft.changes

/-- The rows that nobody else can change. -/
def Owns (draft : Draft) (id : Int) : Prop :=
  draft.held id ∨ (draft.changes.account? id).isSome = true

/-- The transaction has drawn. -/
def drew (draft : Draft) (draw : Draw) : Draft :=
  { draft with drawn := draw :: draft.drawn }

/-- The transaction after a statement that has made changes. -/
def after (draft : Draft) (statement : Statement) (changes : Books) : Draft where
  books := draft.books
  changes := draft.changes.overlay changes
  held id := draft.held id ∨ statement.lockedAccount? draft.books = some id
  drawn := draft.drawn
  keyed := draft.keyed.overlay changes

theorem account?_view (draft : Draft) (id : Int) :
    draft.view.account? id = (draft.changes.account? id).or (draft.books.account? id) :=
  draft.keyed.account?_overlay draft.books id

/-- Others have changed the committed books, but no row that the transaction owns. -/
inductive Sways (draft : Draft) : Draft → Prop
  | swayed {books : Books} :
      (∀ id, draft.Owns id → books.account? id = draft.books.account? id) →
      Sways draft { draft with books }

namespace Sways

theorem refl (draft : Draft) : draft.Sways draft := .swayed fun _ _ => rfl

theorem trans (h : draft.Sways draft') (h' : draft'.Sways draft'') : draft.Sways draft'' := by
  cases h with
  | swayed hrows =>
    cases h' with
    | swayed hrows' => exact .swayed fun id howns => (hrows' id howns).trans (hrows id howns)

theorem changes (h : draft.Sways draft') : draft'.changes = draft.changes := by
  cases h; rfl

theorem drawn (h : draft.Sways draft') : draft'.drawn = draft.drawn := by
  cases h; rfl

theorem owns (h : draft.Sways draft') : draft'.Owns id ↔ draft.Owns id := by
  cases h; exact Iff.rfl

theorem account?_books (h : draft.Sways draft') (howns : draft.Owns id) :
    draft'.books.account? id = draft.books.account? id := by
  cases h with
  | swayed hrows => exact hrows id howns

/-- An owned row is seen as before. -/
theorem account?_view (h : draft.Sways draft') (howns : draft.Owns id) :
    draft'.view.account? id = draft.view.account? id := by
  rw [Draft.account?_view, Draft.account?_view, h.changes, h.account?_books howns]

end Sways

/-- A row that is locked or changed stays so. -/
theorem owns_after (statement : Statement) (changes : Books) (h : draft.Owns id) :
    (draft.after statement changes).Owns id := by
  rcases h with hheld | hchanged
  · exact .inl (.inl hheld)
  · exact .inr (Books.isSome_overlay changes hchanged)

end Draft

/-- Where a piece of work stands on its connection: it has none, no transaction is open on it, one is
open and nothing has gone wrong, or a statement has failed in one. -/
inductive Ground
  | outside
  | closed
  | drafting (draft : Draft)
  | broken

namespace Ground

variable {ground ground' ground'' : Ground}

/-- Others have done something. -/
inductive Sways : Ground → Ground → Prop
  | same (ground : Ground) : Sways ground ground
  | drafting {draft draft' : Draft} : draft.Sways draft' →
      Sways (.drafting draft) (.drafting draft')

theorem Sways.trans (h : ground.Sways ground') (h' : ground'.Sways ground'') :
    ground.Sways ground'' := by
  cases h with
  | same => exact h'
  | drafting hd =>
    cases h' with
    | same => exact .drafting hd
    | drafting hd' => exact .drafting (hd.trans hd')

theorem Sways.of_drafting {draft : Draft} (h : (Ground.drafting draft).Sways ground) :
    ∃ draft', ground = .drafting draft' ∧ draft.Sways draft' := by
  cases h with
  | same => exact ⟨draft, rfl, .refl draft⟩
  | drafting hd => exact ⟨_, rfl, hd⟩

/-- A draw whose serial number none in the transaction has had. -/
def Fresh (draw : Draw) : Ground → Prop
  | drafting draft => draw.serial ∉ draft.drawn.map Draw.serial
  | outside | closed | broken => True

/-- Something has been drawn. -/
def drew (draw : Draw) : Ground → Ground
  | drafting draft => .drafting (draft.drew draw)
  | ground => ground

/-- The open transaction, if there is one and nothing has gone wrong. -/
def draft? : Ground → Option Draft
  | drafting draft => some draft
  | outside | closed | broken => none

@[simp]
theorem draft?_drew (draw : Draw) (ground : Ground) :
    (ground.drew draw).draft? = ground.draft?.map (·.drew draw) := by
  cases ground <;> rfl

end Ground

/-- What a piece of work has published, and where it stands. -/
structure Footing where
  published : List Books
  ground : Ground

/-- How a statement that writes and stands alone is answered, and what it has published by then: its
effect, or nothing of the kind if it is refused. If the connection is lost, it may be either. -/
inductive Statement.Wrote {statement : Statement} : statement.Answer → List Books → Prop
  | done {around : Surroundings} {view : Books} {effect : Effect statement} :
      statement.effect around view = .ok effect →
      Wrote (.ok effect.rows) [effect.changes]
  | refused {rejection : Rejection} {published : List Books} :
      (∀ books ∈ published, books = .empty) → Wrote (.error (.rejected rejection)) published
  | lost : Wrote (.error .connectionLost) []
  | lostAfter {around : Surroundings} {view : Books} {effect : Effect statement} :
      statement.effect around view = .ok effect →
      Wrote (.error .connectionLost) [effect.changes]

/-- The footing after the answer to a statement. -/
inductive Hears : Footing → (statement : Statement) → statement.Answer → Footing → Prop
  | begun {published : List Books} {rows : List Unit} (books : Books) :
      Hears ⟨published, .closed⟩ .begin (.ok rows) ⟨published, .drafting (.opened books)⟩
  | notBegun {published : List Books} {error : StorageError} :
      Hears ⟨published, .closed⟩ .begin (.error error) ⟨published, .closed⟩
  | alone {published : List Books} {statement : Statement} {answer : statement.Answer} :
      statement ≠ .begin → statement.isWrite = false →
      Hears ⟨published, .closed⟩ statement answer ⟨published, .closed⟩
  | wrote {published written : List Books} {statement : Statement} {answer : statement.Answer} :
      statement.isWrite = true → Statement.Wrote answer written →
      Hears ⟨published, .closed⟩ statement answer ⟨published ++ written, .closed⟩
  | performed {published : List Books} {draft : Draft} {statement : Statement}
      {around : Surroundings} {effect : Effect statement} : statement.isQuery = true →
      statement.effect around draft.view = .ok effect →
      Hears ⟨published, .drafting draft⟩ statement (.ok effect.rows)
        ⟨published, .drafting (draft.after statement effect.changes)⟩
  | bounded {published : List Books} {draft : Draft} {millis : Nat} {rows : List Unit} :
      Hears ⟨published, .drafting draft⟩ (.setLockTimeout millis) (.ok rows)
        ⟨published, .drafting draft⟩
  | failed {published : List Books} {draft : Draft} {statement : Statement} {error : StorageError} :
      statement.isEnd = false →
      Hears ⟨published, .drafting draft⟩ statement (.error error) ⟨published, .broken⟩
  | committed {published : List Books} {draft : Draft} {rows : List Unit} :
      Hears ⟨published, .drafting draft⟩ .commit (.ok rows)
        ⟨published ++ [draft.changes], .closed⟩
  | unsure {published written : List Books} {draft : Draft} {error : StorageError} :
      written = [] ∨ written = [draft.changes] →
      Hears ⟨published, .drafting draft⟩ .commit (.error error) ⟨published ++ written, .closed⟩
  | rolledBack {published : List Books} {draft : Draft} {answer : Statement.Answer .rollback} :
      Hears ⟨published, .drafting draft⟩ .rollback answer ⟨published, .closed⟩
  | refused {published : List Books} {statement : Statement} {error : StorageError} :
      statement.isEnd = false →
      Hears ⟨published, .broken⟩ statement (.error error) ⟨published, .broken⟩
  | ended {published : List Books} {statement : Statement} {answer : statement.Answer} :
      statement.isEnd = true → Hears ⟨published, .broken⟩ statement answer ⟨published, .closed⟩

/-- Who has published something has no transaction open. -/
theorem Hears.draft?_of_published {footing after : Footing} {statement : Statement}
    {answer : statement.Answer} (h : Hears footing statement answer after) :
    after.published = footing.published ∨ after.ground.draft? = none := by
  cases h with
  | wrote | committed | unsure => exact .inr rfl
  | _ => exact .inl rfl

/-! ## Connections and their grounds -/

/-- The ground describes the connection. What its transaction has drawn was drawn from the database, and
under serial numbers that it may use. -/
def Ground.Of (Drawn : Nat → Prop) (db : Database) (connection : Nat) : Ground → Prop
  | outside => False
  | closed => db.transaction? connection = none
  | drafting draft => ∃ transaction, db.transaction? connection = some transaction ∧
      transaction.aborted = false ∧ draft.books = db.books ∧ draft.changes = transaction.changes ∧
      (∀ id, draft.held id → db.Holds connection id) ∧
      ∀ draw ∈ draft.drawn, draw.serial < db.serial ∧ db.draws.draw draw.serial = draw ∧
        Drawn draw.serial
  | broken => (db.session connection).alive = false ∨
      ∃ transaction, db.transaction? connection = some transaction ∧ transaction.aborted = true

namespace Database

variable {Allowed : Twist → Prop} {db db' : Database} {connection : Nat} {statement : Statement}
  {ran : Bool} {answer : statement.Answer} {transaction : Transaction}

/-- A statement that fails in a transaction aborts it, unless the connection is lost. -/
theorem Tells.failed {error : StorageError}
    (h : db.Tells Allowed connection statement db' ran (.error error))
    (halive : (db.session connection).alive = true)
    (ht : db.transaction? connection = some transaction) (hend : statement.isEnd = false)
    (hb : statement ≠ .begin) :
    (db'.session connection).alive = false ∨ ∃ transaction',
      db'.transaction? connection = some transaction' ∧ transaction'.aborted = true := by
  have habort : ∀ {db : Database}, db.transaction? connection = some transaction →
      ∃ transaction', (db.abort connection).transaction? connection = some transaction' ∧
        transaction'.aborted = true :=
    fun ht => ⟨{ transaction with aborted := true }, by rw [transaction?, session_abort ht], rfl⟩
  have hrefused : db.refusesAborted connection statement = true → transaction.aborted = true :=
    fun haborted => (refusesAborted_of_open ht hend).symm.trans haborted
  generalize hanswer : (.error error : statement.Answer) = answer at h
  cases h.answers hb hend with
  | dead hdead => cases hdead.symm.trans halive
  | aborted haborted => exact .inr ⟨transaction, ht, hrefused haborted⟩
  | refused rejection =>
    rw [refuse, if_neg (by simp [hend])]
    exact .inr (habort ht)
  | lost => exact .inl (disconnect_lost ..).1
  | @ran ended own twist _ hr =>
    rcases twisted_cases ended connection twist own with ⟨hdb, hok, -⟩ | ⟨-, htwisted⟩
    · rw [← hanswer] at hok
      rw [hdb]
      right
      cases runs_of_run hr with
      | begun => exact absurd rfl hb
      | committed | rolledBack => cases hend
      | bounded | nothingToBound | performed => cases hok
      | aborted haborted => exact ⟨transaction, ht, hrefused haborted⟩
      | outOfRange => exact habort ht
      | rejected => exact habort ((transaction?_lockFor ..).trans ht)
    · rw [htwisted]
      exact .inl (disconnect_lost ..).1

/-- In an aborted transaction, or on a lost connection, every statement fails that is not its end. -/
theorem Tells.refused (h : db.Tells Allowed connection statement db' ran answer)
    (hbroken : (db.session connection).alive = false ∨
      ∃ transaction, db.transaction? connection = some transaction ∧ transaction.aborted = true)
    (hend : statement.isEnd = false) (hb : statement ≠ .begin) : ∃ error, answer = .error error := by
  rcases hbroken with hdead | ⟨transaction, ht, ha⟩
  · exact ⟨_, (h.of_dead hdead).2.2⟩
  · cases hanswer : answer with
    | error error => exact ⟨error, rfl⟩
    | ok rows =>
      subst hanswer
      have hrefuses : db.refusesAborted connection statement = true :=
        (refusesAborted_of_open ht hend).trans ha
      obtain ⟨own, hr, hok⟩ := (h.answers hb hend).run_of_ok rfl
      cases runs_of_run hr with
      | begun => exact absurd rfl hb
      | committed | rolledBack => cases hend
      | bounded _ hsome hopen =>
        cases ht.symm.trans hsome
        cases ha.symm.trans hopen
      | nothingToBound _ hnone => cases hnone.symm.trans ht
      | performed _ hopen => cases hopen.symm.trans hrefuses
      | aborted | outOfRange | rejected => cases hok

/-- A statement outside of a transaction leaves none behind. -/
theorem Tells.outside (h : db.Tells Allowed connection statement db' ran answer)
    (ht : db.transaction? connection = none) (hb : statement ≠ .begin) :
    db'.transaction? connection = none := by
  have habort : db.abort connection = db := by simp [abort, ht]
  obtain ⟨after, hanswers, hnoted⟩ := h.answers_or_noted hb
  have hafter : after.transaction? connection = none := by
    cases hanswers with
    | dead | aborted => exact ht
    | refused =>
      unfold refuse
      split
      · simp [transaction?]
      · rw [habort, ht]
    | lost => exact (disconnect_lost ..).2
    | @ran ended own twist _ hr =>
      have hrun : ended.transaction? connection = none := by
        cases runs_of_run hr with
        | begun => exact absurd rfl hb
        | committed | rolledBack => exact transaction?_run_end rfl hr
        | aborted | nothingToBound => exact ht
        | outOfRange => rw [habort, ht]
        | bounded _ hsome => cases ht.symm.trans hsome
        | performed hq | rejected hq => exact (run_outside_leaves hq ht hr).1
      rcases twisted_cases ended connection twist own with ⟨hdb, -⟩ | ⟨-, htwisted⟩
      · rw [hdb, hrun]
      · rw [htwisted]
        exact (disconnect_lost ..).2
  rcases hnoted with rfl | ⟨-, rfl⟩
  · exact hafter
  · rw [transaction?_note, hafter]

/-- What is told of a statement that stands alone and writes is what has become of it. -/
theorem Tells.wrote
    (h : db.Tells (fun twist => twist.isHonest = true) connection statement db' ran answer)
    (hw : statement.isWrite = true) (ht : db.transaction? connection = none) :
    Statement.Wrote answer
      (if ran then db.published? connection statement else none).toList := by
  have hq := Statement.isQuery_of_isWrite hw
  have hrefuses : db.refusesAborted connection statement = false := refusesAborted_of_closed ht
  cases h.answers (Statement.ne_begin_of_isQuery hq) (Statement.isEnd_of_isQuery hq) with
  | dead | lost => exact .lost
  | aborted haborted => cases hrefuses.symm.trans haborted
  | refused => exact .refused (by simp)
  | @ran ended own twist hhonest hr =>
    have hpublished : (db.published? connection statement).toList =
        [db.written connection statement] := by simp [published?, ht, hw]
    rw [if_pos rfl, hpublished, written, hrefuses]
    simp only [Bool.false_eq_true, if_false]
    cases runs_of_run hr with
    | begun | committed | rolledBack | outOfRange | bounded | nothingToBound => cases hq
    | aborted haborted => cases hrefuses.symm.trans haborted
    | performed _ _ _ he =>
      rw [he]
      cases twist with
      | none => exact .done he
      | disconnect => exact .lostAfter he
      | noRows | setBalance => cases hhonest
    | rejected _ _ _ he =>
      rw [he]
      exact .refused (by simp)

end Database

namespace Ground

open Database

variable {Drawn : Nat → Prop} {db db' : Database} {connection : Nat} {ground : Ground}
  {statement : Statement} {ran : Bool} {answer : statement.Answer} {id : Int}

/-- Every connection has its ground. -/
theorem Of.exists (h : db.Custody) (Drawn : Nat → Prop) (connection : Nat) :
    ∃ ground, Of Drawn db connection ground := by
  cases ht : db.transaction? connection with
  | none => exact ⟨.closed, ht⟩
  | some transaction =>
    cases ha : transaction.aborted with
    | true => exact ⟨.broken, .inr ⟨transaction, ht, ha⟩⟩
    | false =>
      exact ⟨.drafting ⟨db.books, transaction.changes, db.Holds connection, [],
        (h.keeps connection).keyed transaction ht⟩, transaction, ht, ha, rfl, rfl, fun _ hid => hid,
        nofun⟩

/-- What a transaction is said to own, its connection owns. -/
theorem Of.owns {draft : Draft} (h : Of Drawn db connection (.drafting draft))
    (howns : draft.Owns id) : db.Owns connection id := by
  obtain ⟨transaction, ht, ha, -, hchanges, hheld, -⟩ := h
  rcases howns with howns | howns
  · exact .inl (hheld id howns)
  · exact .inr ⟨transaction, ht, ha, by rw [← hchanges]; exact howns⟩

/-- Others move, and the ground sways at most. -/
theorem Of.of_untouched (h : Of Drawn db connection ground) (hu : Untouched connection db db')
    (hsteady : ∀ id, db.Owns connection id → db'.books.account? id = db.books.account? id)
    (hserial : db.serial ≤ db'.serial) :
    ∃ ground', ground.Sways ground' ∧ Of Drawn db' connection ground' := by
  cases ground with
  | outside => cases h
  | closed => exact ⟨_, .same _, hu.transaction?.trans h⟩
  | broken =>
    refine ⟨_, .same _, ?_⟩
    rw [Of, hu.transaction?, hu.session]
    exact h
  | drafting draft =>
    have howns : ∀ id, draft.Owns id → db.Owns connection id := fun _ howns => Of.owns h howns
    obtain ⟨transaction, ht, ha, hbooks, hchanges, hheld, hdrawn⟩ := h
    refine ⟨.drafting { draft with books := db'.books }, .drafting (.swayed fun id hid => ?_),
      transaction, hu.transaction?.trans ht, ha, rfl, hchanges, ?_, ?_⟩
    · rw [hbooks]
      exact hsteady id (howns id hid)
    · exact fun id hid => hu.holds.mpr (hheld id hid)
    · intro draw hmem
      obtain ⟨hlt, hdraw, hown⟩ := hdrawn draw hmem
      exact ⟨Nat.lt_of_lt_of_le hlt hserial, by rw [hu.draws, hdraw], hown⟩

/-- The database has counted, or the clock has gone on. -/
theorem Of.of_eq (h : Of Drawn db connection ground) (hbooks : db'.books = db.books)
    (hsessions : db'.sessions = db.sessions) (hlocks : db'.locks = db.locks)
    (hdraws : db'.draws = db.draws) (hserial : db.serial ≤ db'.serial) :
    Of Drawn db' connection ground := by
  have hu : Untouched connection db db' := .of_eq hsessions hlocks hdraws
  cases ground with
  | outside => cases h
  | closed => exact hu.transaction?.trans h
  | broken =>
    rw [Of, hu.transaction?, hu.session]
    exact h
  | drafting draft =>
    obtain ⟨transaction, ht, ha, hbase, hchanges, hheld, hdrawn⟩ := h
    refine ⟨transaction, hu.transaction?.trans ht, ha, hbase.trans hbooks.symm, hchanges,
      fun id hid => hu.holds.mpr (hheld id hid), fun draw hmem => ?_⟩
    obtain ⟨hlt, hdraw, hown⟩ := hdrawn draw hmem
    exact ⟨Nat.lt_of_lt_of_le hlt hserial, by rw [hdraws, hdraw], hown⟩

/-- What is noted of statements that have no answer yet does not matter. -/
theorem Of.waits {other : Nat} {statement : Statement} (h : Of Drawn db connection ground)
    (hw : db.Waits other statement db') : Of Drawn db' connection ground := by
  have ht := hw.transaction? connection
  have halive := hw.alive connection
  obtain ⟨_, rfl⟩ := hw.eq
  cases ground with
  | outside => cases h
  | closed => exact ht.trans h
  | broken =>
    rw [Of, ht, halive]
    exact h
  | drafting draft =>
    obtain ⟨transaction, hsome, hrest⟩ := h
    exact ⟨transaction, ht.trans hsome, hrest⟩

/-! ## Answers and the grounds that they lead to -/

/-- The answer takes the work from its ground to one that describes the connection afterwards, and what
the statement has made public is published. -/
def Lands (Drawn : Nat → Prop) (db db' : Database) (connection : Nat) (ground : Ground)
    (ran : Bool) (answer : statement.Answer) : Prop :=
  ∀ published, ∃ ground', Of Drawn db' connection ground' ∧
    Hears ⟨published, ground⟩ statement answer
      ⟨published ++ (if ran then db.published? connection statement else none).toList, ground'⟩

/-- Where nothing has become public it is enough that the work hears of nothing published. -/
theorem Lands.of_silent (ground' : Ground) (hsilent : db.Silent connection statement)
    (htells : db.Tells (fun twist => twist.isHonest = true) connection statement db' ran answer)
    (hof : Of Drawn db' connection ground')
    (hhears : ∀ published, Hears ⟨published, ground⟩ statement answer ⟨published, ground'⟩) :
    Lands Drawn db db' connection ground ran answer := by
  intro published
  refine ⟨ground', hof, ?_⟩
  rw [hsilent.not_published htells, Option.toList_none, List.append_nil]
  exact hhears published

section Lands

variable {draft : Draft}
  (htells : db.Tells (fun twist => twist.isHonest = true) connection statement db' ran answer)
include htells

theorem Of.lands_closed (hnone : db.transaction? connection = none) :
    Lands Drawn db db' connection .closed ran answer := by
  by_cases hbegin : statement = .begin
  · subst hbegin
    have hsilent : db.Silent connection .begin := silent_of_closed hnone rfl
    rcases htells.begin hnone with ⟨hok, -, ht⟩ | ⟨hok, ht⟩
    · cases answer with
      | error => cases hok
      | ok rows =>
        refine .of_silent (.drafting (.opened db'.books)) hsilent htells ?_
          fun _ => .begun db'.books
        exact ⟨_, ht, rfl, rfl, rfl, fun _ hheld => hheld.elim, List.forall_mem_nil _⟩
    · cases answer with
      | ok => cases hok
      | error => exact .of_silent .closed hsilent htells ht fun _ => .notBegun
  · have hafter := htells.outside hnone hbegin
    cases hw : statement.isWrite with
    | true => exact fun _ => ⟨.closed, hafter, .wrote hw (htells.wrote hw hnone)⟩
    | false =>
      exact .of_silent .closed (silent_of_closed hnone hw) htells hafter
        fun _ => .alone hbegin hw

theorem Of.lands_broken (h : Of Drawn db connection .broken) (hcustody : db.Custody)
    (hne : statement ≠ .begin) : Lands Drawn db db' connection .broken ran answer := by
  have hsilent : db.Silent connection statement := by
    rcases h with hdead | ⟨transaction, ht, ha⟩
    · exact .inl hdead
    · right
      rw [published?_eq_none_iff, ht]
      exact fun _ => ha
  cases hend : statement.isEnd with
  | true =>
    refine .of_silent .closed hsilent htells ?_ fun _ => .ended hend
    rcases (htells.ended hend).1 with ⟨hdead, rfl⟩ | hnone
    · cases ht : db'.transaction? connection with
      | none => exact ht
      | some transaction =>
        cases hdead.symm.trans ((hcustody.keeps connection).living transaction ht)
    · exact hnone
  | false =>
    obtain ⟨error, rfl⟩ := htells.refused h hend hne
    refine .of_silent .broken hsilent htells ?_ fun _ => .refused hend
    rcases h with hdead | ⟨transaction, ht, ha⟩
    · obtain ⟨rfl, -, -⟩ := htells.of_dead hdead
      exact .inl hdead
    · exact htells.failed ((hcustody.keeps connection).living transaction ht) ht hend hne

theorem Of.lands_ended (h : Of Drawn db connection (.drafting draft)) (hcustody : db.Custody)
    (hend : statement.isEnd = true) : Lands Drawn db db' connection (.drafting draft) ran answer := by
  obtain ⟨transaction, ht, ha, -, hchanges, -⟩ := h
  obtain ⟨⟨hdead, -⟩ | hnone, hran⟩ := htells.ended hend
  · cases hdead.symm.trans ((hcustody.keeps connection).living transaction ht)
  cases statement with
  | commit =>
    intro published
    have hpublished : db.published? connection .commit = some draft.changes := by
      simp [published?, ht, ha, hchanges]
    rw [hpublished]
    cases answer with
    | ok rows =>
      rw [hran rfl]
      exact ⟨.closed, hnone, .committed⟩
    | error error =>
      refine ⟨.closed, hnone, .unsure ?_⟩
      cases ran
      · exact .inl rfl
      · exact .inr rfl
  | rollback =>
    exact .of_silent .closed (silent_rollback db connection) htells hnone
      fun _ => .rolledBack
  | _ => cases hend

theorem Of.lands_drafting (h : Of Drawn db connection (.drafting draft)) (hcustody : db.Custody)
    (hne : statement ≠ .begin) (hend : statement.isEnd = false) :
    Lands Drawn db db' connection (.drafting draft) ran answer := by
  obtain ⟨transaction, ht, ha, hbooks, hchanges, hheld, hdrawn⟩ := h
  have hcommit : statement ≠ .commit := by
    rintro rfl
    cases hend
  have hsilent := silent_of_transaction ht hcommit
  have hbooks' := htells.books
  rw [hsilent.not_published htells, Option.elim_none] at hbooks'
  have hdrawn' : ∀ draw ∈ draft.drawn, draw.serial < db'.serial ∧
      db'.draws.draw draw.serial = draw ∧ Drawn draw.serial := by
    intro draw hmem
    obtain ⟨hlt, hdraw, hown⟩ := hdrawn draw hmem
    exact ⟨Nat.lt_of_lt_of_le hlt htells.serial_le, by rw [htells.draws, hdraw], hown⟩
  cases answer with
  | error error =>
    refine .of_silent .broken hsilent htells ?_ fun _ => .failed hend
    exact htells.failed ((hcustody.keeps connection).living transaction ht) ht hend hne
  | ok rows =>
    cases hq : statement.isQuery with
    | true =>
      obtain ⟨-, effect, transaction', he, rfl, ht', -, ha', hchanges', -, hlocks⟩ :=
        htells.performed hq ht
      have hview : db.view connection = draft.view := by
        rw [Database.view, ht, Draft.view, hbooks, hchanges]
      rw [hview] at he
      refine .of_silent (.drafting (draft.after statement effect.changes)) hsilent htells
        ⟨transaction', ht', ha', hbooks.trans hbooks'.symm, ?_, ?_, hdrawn'⟩
        fun _ => .performed hq he
      · rw [hchanges', ← hchanges]
        rfl
      · intro id hid
        rw [hlocks, ← hbooks]
        exact hid.imp_left (hheld id)
    | false =>
      cases statement with
      | begin => exact absurd rfl hne
      | setLockTimeout millis =>
        have hsession := htells.setLockTimeout ht rfl
        have hlocks := htells.locks_setLockTimeout rfl
        refine .of_silent (.drafting draft) hsilent htells
          ⟨{ transaction with lockTimeoutMillis := millis }, ?_, ha,
            hbooks.trans hbooks'.symm, hchanges, ?_, hdrawn'⟩ fun _ => .bounded
        · rw [transaction?, hsession]
        · intro id hid
          rw [Holds, hlocks]
          exact hheld id hid
      | commit | rollback => cases hend
      | _ => cases hq

/-- An answer takes the work to a footing that describes its connection, and what it publishes has
been published. -/
theorem Of.lands (h : Of Drawn db connection ground) (hcustody : db.Custody)
    (hb : statement = .begin → ground = .closed) : Lands Drawn db db' connection ground ran answer := by
  cases ground with
  | outside => cases h
  | closed => exact Of.lands_closed htells h
  | broken => exact h.lands_broken htells hcustody fun he => by cases hb he
  | drafting draft =>
    have hne : statement ≠ .begin := fun he => by cases hb he
    cases hend : statement.isEnd with
    | true => exact h.lands_ended htells hcustody hend
    | false => exact h.lands_drafting htells hcustody hne hend

end Lands

end Ground

end Passbook
