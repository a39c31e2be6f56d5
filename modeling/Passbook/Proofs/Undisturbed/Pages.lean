import Passbook.Proofs.Database.Generated
import Passbook.Proofs.Database.Keyed
import Passbook.Proofs.System.Living
import Passbook.Proofs.Undisturbed.Serving
import Passbook.Proofs.UnitOfWork.Program

/-! # What a transaction does by itself

Inside a transaction that nothing disturbs, a statement is answered from what the transaction sees and
adds its changes to that, and a refusal aborts it. What work comes to there is a function of this view
and of what else the statements depend on (`Page`, `Work.inside`). A connection on which the
transaction is open shows the page (`Database.Shows`), and goes on showing it (`attains_inside`). -/

namespace Passbook

/-- What a transaction has before it: the books as it sees them, what its statements depend on
besides, and whether it is aborted; with what it was asked and what was reported. -/
structure Page where
  view : Books
  around : Surroundings
  aborted : Bool
  asked : List Statement
  told : List Reply

namespace Page

/-- The page after a statement that changes nothing. -/
def asking (page : Page) (statement : Statement) : Page :=
  { page with asked := page.asked ++ [statement] }

/-- The page after a statement that makes changes. -/
def writing (page : Page) (statement : Statement) (changes : Books) : Page :=
  { page with
    view := page.view.overlay changes
    around.serial := page.around.serial + changes.entries.length
    asked := page.asked ++ [statement] }

/-- The answer to a statement, and the page after it. -/
def ask (page : Page) (statement : Statement) : Page × statement.Answer :=
  if page.aborted then (page.asking statement, .error (.rejected .aborted))
  else match statement.effect page.around page.view with
    | .ok effect => (page.writing statement effect.changes, .ok effect.rows)
    | .error rejection =>
      ({ page.asking statement with aborted := true }, .error (.rejected rejection))

/-- What is drawn next. -/
def draw (page : Page) : Draw := page.around.draws.draw page.around.serial

/-- The page after something has been drawn. -/
def drawn (page : Page) : Page := { page with around.serial := page.around.serial + 1 }

/-- The page after a reply has been reported. -/
def report (page : Page) (reply : Reply) : Page := { page with told := page.told ++ [reply] }

variable {page : Page} {statement : Statement}

theorem writing_empty (page : Page) (statement : Statement) :
    page.writing statement .empty = page.asking statement := by
  rw [writing, Books.overlay_empty]
  rfl

theorem ask_of_aborted (h : page.aborted = true) (statement : Statement) :
    page.ask statement = (page.asking statement, .error (.rejected .aborted)) :=
  if_pos h

theorem ask_of_ok {effect : Effect statement} (h : page.aborted = false)
    (he : statement.effect page.around page.view = .ok effect) :
    page.ask statement = (page.writing statement effect.changes, .ok effect.rows) := by
  rw [ask, if_neg (by simp [h]), he]

theorem ask_of_error {rejection : Rejection} (h : page.aborted = false)
    (he : statement.effect page.around page.view = .error rejection) :
    page.ask statement =
      ({ page.asking statement with aborted := true }, .error (.rejected rejection)) := by
  rw [ask, if_neg (by simp [h]), he]

theorem asked_ask (page : Page) (statement : Statement) :
    (page.ask statement).1.asked = page.asked ++ [statement] := by
  unfold ask
  split
  · rfl
  · split <;> rfl

theorem told_ask (page : Page) (statement : Statement) :
    (page.ask statement).1.told = page.told := by
  unfold ask
  split
  · rfl
  · split <;> rfl

end Page

namespace Work

variable {α β : Type}

/-- What the work comes to inside a transaction. It has its connection already, so the pool has none
for it, and it keeps the one that it has. -/
def inside : Work α → Page → Page × α
  | .done value, page => (page, value)
  | .connect next, page => (next (.error .poolClosed)).inside page
  | .giveBack rest, page => rest.inside page
  | .exec statement next, page => (next (page.ask statement).2).inside (page.ask statement).1
  | .draw next, page => (next page.draw).inside page.drawn
  | .report reply rest, page => rest.inside (page.report reply)

theorem inside_bind (work : Work α) (f : α → Work β) (page : Page) :
    (work.bind f).inside page = (f (work.inside page).2).inside (work.inside page).1 := by
  induction work generalizing page with
  | done => rfl
  | connect next ih => exact ih _ page
  | giveBack rest ih => exact ih page
  | exec statement next ih => exact ih _ _
  | draw next ih => exact ih _ _
  | report reply rest ih => exact ih _

theorem mem_asked_inside {statement : Statement} {page : Page} (work : Work α)
    (h : statement ∈ page.asked) : statement ∈ (work.inside page).1.asked := by
  induction work generalizing page with
  | done => exact h
  | connect next ih => exact ih _ h
  | giveBack rest ih => exact ih h
  | exec asked next ih =>
    refine ih _ ?_
    rw [Page.asked_ask]
    exact List.mem_append_left _ h
  | draw next ih => exact ih _ h
  | report reply rest ih => exact ih h

end Work

namespace Database

variable {db db' db'' : Database} {connection : Nat} {page : Page} {statement : Statement}

/-- Something has been done on the connection that no other connection sees, and that takes no lock
away from it. -/
structure Beside (connection : Nat) (db db' : Database) : Prop where
  books : db'.books = db.books
  users : db'.users = db.users
  tables : db'.tables = db.tables
  draws : db'.draws = db.draws
  others : ∀ other, other ≠ connection → Untouched other db db'
  lockable : ∀ account, db.lockable connection account = true →
    db'.lockable connection account = true

namespace Beside

theorem refl (connection : Nat) (db : Database) : Beside connection db db :=
  ⟨rfl, rfl, rfl, rfl, fun other _ => .refl other db, fun _ => id⟩

theorem trans (h : Beside connection db db') (h' : Beside connection db' db'') :
    Beside connection db db'' where
  books := h'.books.trans h.books
  users := h'.users.trans h.users
  tables := h'.tables.trans h.tables
  draws := h'.draws.trans h.draws
  others other hne := (h.others other hne).trans (h'.others other hne)
  lockable account hfree := h'.lockable account (h.lockable account hfree)

/-- What happens to the clock and to the serial numbers does not count. -/
theorem drift (connection : Nat) (db : Database) (clock : Instant) (serial : Nat) :
    Beside connection db { db with clock, serial } :=
  ⟨rfl, rfl, rfl, rfl, fun _ _ => .of_eq rfl rfl rfl, fun _ => id⟩

theorem setTransaction (db : Database) (connection : Nat) (transaction : Option Transaction) :
    Beside connection db (db.setTransaction connection transaction) :=
  ⟨rfl, rfl, rfl, rfl, fun _ hne => .setTransaction hne db transaction, fun _ => id⟩

theorem lock (db : Database) (connection : Nat) (account : Int) :
    Beside connection db (db.lock connection account) := by
  have hother := fun other (hne : other ≠ connection) => Untouched.lock hne db account
  unfold Database.lock at hother ⊢
  split
  · exact refl connection db
  · rename_i hholder
    rw [if_neg hholder] at hother
    refine ⟨rfl, rfl, rfl, rfl, hother, fun other hfree => ?_⟩
    unfold Database.lockable holder? at hfree ⊢
    rw [List.lookup_append]
    cases hlookup : db.locks.lookup other with
    | some holder => rw [hlookup] at hfree; exact hfree
    | none =>
      rw [Option.none_or]
      by_cases hsame : other = account
      · simp [hsame]
      · have hne : (other == account) = false := by simpa using hsame
        simp [List.lookup_cons, hne]

theorem lockFor (db : Database) (connection : Nat) (statement : Statement) :
    Beside connection db (db.lockFor connection statement) := by
  unfold Database.lockFor
  split
  · exact lock db connection _
  · exact refl connection db
  · exact ⟨rfl, rfl, rfl, rfl, fun _ hne => .setSession hne db _, fun _ => id⟩

end Beside

/-- On the connection a transaction is open that has the page before it. -/
structure Shows (db : Database) (connection : Nat) (page : Page) : Prop where
  alive : (db.session connection).alive = true
  transaction : ∃ transaction, db.transaction? connection = some transaction ∧
    transaction.changes.Keyed ∧ transaction.aborted = page.aborted
  view : db.view connection = page.view
  around : db.surroundings connection = page.around

/-- The page of the transaction that is open on the connection. -/
def openPage (db : Database) (connection : Nat) : Page where
  view := db.view connection
  around := db.surroundings connection
  aborted := (db.transaction? connection).any (·.aborted)
  asked := []
  told := []

theorem Lives.shows (h : db.Lives) {transaction : Transaction}
    (ht : db.transaction? connection = some transaction) :
    db.Shows connection (db.openPage connection) := by
  obtain ⟨halive, hkeyed⟩ := h connection transaction ht
  exact ⟨halive, ⟨transaction, ht, hkeyed, by simp [openPage, ht]⟩, rfl, rfl⟩

/-- Time that passes does not change the page. -/
theorem Shows.later (h : db.Shows connection page) (clock : Instant) :
    Shows { db with clock } connection page := by
  obtain ⟨transaction, ht, hchanges⟩ := h.transaction
  refine ⟨h.alive, ⟨transaction, ht, hchanges⟩, h.view, ?_⟩
  have hopen : Database.transaction? { db with clock } connection = some transaction := ht
  rw [← h.around, surroundings, surroundings, hopen, ht]
  rfl

theorem obstacle?_of_lockable
    (h : ∀ account, statement.lockedAccount? db.books = some account →
      db.lockable connection account = true) : db.obstacle? connection statement = none := by
  unfold obstacle?
  rw [Option.filter_eq_none_iff]
  intro account haccount
  simp [h account haccount]

theorem lockFor_eq {transaction : Transaction}
    (ht : db.transaction? connection = some transaction) (statement : Statement) :
    ∃ locks, db.lockFor connection statement = { db with locks } := by
  unfold lockFor
  rw [ht]
  cases statement.lockedAccount? db.books with
  | none => exact ⟨db.locks, rfl⟩
  | some account =>
    dsimp only
    unfold Database.lock
    split
    · exact ⟨db.locks, rfl⟩
    · exact ⟨_, rfl⟩

/-- A connection shows the page of the transaction that it is given. -/
theorem shows_setTransaction (halive : (db.session connection).alive = true)
    {transaction : Transaction} (hkeyed : transaction.changes.Keyed)
    (haborted : transaction.aborted = page.aborted)
    (hview : db.books.overlay transaction.changes = page.view)
    (haround : ⟨db.users, db.tables, transaction.began, db.serial, db.draws⟩ = page.around) :
    (db.setTransaction connection (some transaction)).Shows connection page := by
  have hopen := transaction?_setTransaction db connection (some transaction)
  refine ⟨by simp [halive], ⟨transaction, hopen, hkeyed, haborted⟩, ?_, ?_⟩
  · rw [view, hopen, ← hview]
    rfl
  · rw [surroundings, hopen, ← haround]
    rfl

/-- A statement about rows that does not have to wait. -/
theorem heed_query (hq : statement.isQuery = true)
    (halive : (db.session connection).alive = true)
    (hfree : db.obstacle? connection statement = none) :
    db.heed connection statement =
      some (if db.refusesAborted connection statement then (db, .error (.rejected .aborted))
        else db.perform connection statement) := by
  have hend := Statement.isEnd_of_isQuery hq
  have hbegin := Statement.ne_begin_of_isQuery hq
  unfold heed
  rw [if_neg (by simp [halive]), if_neg hbegin, run_eq_of_isQuery db connection hq, hfree]
  cases db.refusesAborted connection statement <;> simp [hend]

/-- In a transaction that is not aborted, a statement is performed as the page says. -/
theorem Shows.perform (h : db.Shows connection page) (haborted : page.aborted = false)
    (statement : Statement) :
    (db.perform connection statement).2 = (page.ask statement).2 ∧
      db.Beside connection (db.perform connection statement).1 ∧
      (db.perform connection statement).1.Shows connection (page.ask statement).1 := by
  obtain ⟨transaction, ht, hkeyed, hsame⟩ := h.transaction
  obtain ⟨locks, hlocks⟩ := lockFor_eq ht statement
  have hbeside := Beside.lockFor db connection statement
  have hopen : ∀ serial, Database.transaction? { db with locks, serial } connection =
    some transaction := fun _ => ht
  have hview : db.books.overlay transaction.changes = page.view := by
    rw [← h.view, Database.view, ht]
  have haround : ⟨db.users, db.tables, transaction.began, db.serial, db.draws⟩ = page.around := by
    rw [← h.around, surroundings, ht]
    rfl
  unfold Database.perform
  rw [h.around, h.view]
  rw [hlocks] at hbeside ⊢
  cases he : statement.effect page.around page.view with
  | ok effect =>
    have hserial := Beside.drift connection { db with locks } db.clock
      (db.serial + effect.changes.entries.length)
    rw [Page.ask_of_ok haborted he]
    unfold change
    dsimp only
    rw [hopen]
    dsimp only
    refine ⟨rfl, (hbeside.trans hserial).trans (.setTransaction ..), ?_⟩
    refine shows_setTransaction ?_ ?_ hsame ?_ ?_
    · exact h.alive
    · exact hkeyed.overlay _
    · dsimp only [Page.writing]
      rw [← Books.overlay_assoc hkeyed, hview]
    · dsimp only [Page.writing]
      rw [← haround]
  | error rejection =>
    rw [Page.ask_of_error haborted he]
    unfold abort
    rw [hopen db.serial]
    dsimp only
    refine ⟨rfl, hbeside.trans (.setTransaction ..), ?_⟩
    refine shows_setTransaction ?_ ?_ rfl hview haround
    · exact h.alive
    · exact hkeyed

/-- A statement that does not have to wait is answered as the page says, and the connection shows the
page after it. -/
theorem Shows.heed (h : db.Shows connection page) (hq : statement.isQuery = true)
    (hfree : ∀ account, statement.lockedAccount? db.books = some account →
      db.lockable connection account = true) :
    ∃ db', db.heed connection statement = some (db', (page.ask statement).2) ∧
      db.Beside connection db' ∧ db'.Shows connection (page.ask statement).1 := by
  obtain ⟨transaction, ht, hkeyed, hsame⟩ := h.transaction
  have hrefuses : db.refusesAborted connection statement = page.aborted :=
    (refusesAborted_of_open ht (Statement.isEnd_of_isQuery hq)).trans hsame
  rw [heed_query hq h.alive (obstacle?_of_lockable hfree), hrefuses]
  cases haborted : page.aborted with
  | true =>
    rw [Page.ask_of_aborted haborted]
    exact ⟨db, rfl, .refl connection db, h.alive, h.transaction, h.view, h.around⟩
  | false =>
    obtain ⟨hanswer, hbeside, hshows⟩ := h.perform haborted statement
    refine ⟨_, ?_, hbeside, hshows⟩
    rw [← hanswer]
    rfl

end Database

/-! ## Work in a transaction -/

namespace Work

open Database

variable {α β : Type} {Always : Database → Prop} {Ends : Desk → β → Prop} {Results : α → Prop}
  {work : Work α} {next : α → Work β} {desk : Desk} {connection : Nat} {page : Page}

/-- Work about rows in a transaction comes to what it comes to inside, if it does not have to wait for
a lock. -/
theorem attains_inside (hobeys : work.Obeys (fun statement => statement.isQuery = true) Results)
    (hhands : desk.hands.head? = some connection) (hshows : desk.db.Shows connection page)
    (htold : page.told = desk.told)
    (hfree : ∀ statement ∈ (work.inside page).1.asked, ∀ account,
      statement.lockedAccount? desk.db.books = some account →
        desk.db.lockable connection account = true)
    (halways : ∀ db, desk.db.Beside connection db → Always db)
    (hnext : ∀ db, desk.db.Beside connection db → db.Shows connection (work.inside page).1 →
      (next (work.inside page).2).Attains Always Ends
        { desk with db, told := (work.inside page).1.told }) :
    (work.bind next).Attains Always Ends desk := by
  induction hobeys generalizing desk page with
  | done =>
    have hdone := hnext desk.db (.refl connection desk.db) hshows
    rw [inside, htold] at hdone
    exact hdone
  | @draw next' _ ih =>
    have hdrew := Beside.drift connection desk.db desk.db.clock (desk.db.serial + 1)
    have hdraw : desk.db.draw = page.draw := by
      rw [Page.draw, ← hshows.around]
      rfl
    rw [inside, ← hdraw] at hfree hnext
    refine @ih _ { desk with db.serial := desk.db.serial + 1 } page.drawn hhands
      ⟨hshows.alive, hshows.transaction, hshows.view, ?_⟩ htold hfree
      (fun db hbeside => halways db (hdrew.trans hbeside))
      fun db hbeside => hnext db (hdrew.trans hbeside)
    rw [Page.drawn, ← hshows.around]
    rfl
  | @report reply _ _ ih =>
    refine @ih { desk with told := desk.told ++ [reply] } (page.report reply) hhands
      ⟨hshows.alive, hshows.transaction, hshows.view, hshows.around⟩ ?_ hfree halways hnext
    rw [Page.report, htold]
  | @exec statement next' hq _ ih =>
    have htick := fun clock => Beside.drift connection desk.db clock desk.db.serial
    refine attains_exec hhands (fun clock => halways _ (htick clock)) fun clock => ?_
    have hasked : statement ∈
        ((next' (page.ask statement).2).inside (page.ask statement).1).1.asked := by
      refine mem_asked_inside _ ?_
      rw [Page.asked_ask]
      exact List.mem_append_right _ List.mem_cons_self
    obtain ⟨db, hheed, hbeside, hshown⟩ := (hshows.later clock).heed hq (hfree statement hasked)
    have hbeside' : desk.db.Beside connection db := (htick clock).trans hbeside
    refine ⟨db, _, hheed, @ih _ { desk with db } _ hhands hshown ?_ ?_ ?_ ?_⟩
    · rw [Page.told_ask, htold]
    · intro later hlater account haccount
      refine hbeside'.lockable account (hfree later hlater account ?_)
      rwa [← hbeside'.books]
    · exact fun db' hlater => halways db' (hbeside'.trans hlater)
    · exact fun db' hlater => hnext db' (hbeside'.trans hlater)

end Work

end Passbook
