import Passbook.Proofs.Serial.Alone
import Passbook.Proofs.Undisturbed.Pages
import Passbook.Scenario

/-! # Transactions that nothing disturbs

The beginning and the end of a transaction, and a statement that stands alone, on a connection that
nothing disturbs. From them follows what is attained by whoever opens a transaction and keeps it
(`attains_opening`), ends one (`attains_closing`), has a unit of work done (`UnitOfWork.attains`) or has
something done on a connection of its own (`attains_alone`): what the page says, on a page that starts
with the committed books. -/

namespace Passbook

namespace Database

variable {db db' : Database} {connection : Nat} {page : Page} {statement : Statement}

/-- The page of a transaction that begins at the given time. -/
def freshPage (db : Database) (clock : Instant) : Page :=
  ⟨db.books, ⟨db.users, db.tables, clock, db.serial, db.draws⟩, false, [], []⟩

theorem Beside.note (db : Database) (connection : Nat) (unended : Bool) :
    Beside connection db (db.note connection unended) :=
  ⟨rfl, rfl, rfl, rfl, fun _ hne => .note hne db unended, fun _ => id⟩

/-! ## The beginning -/

theorem heed_begin (h : db.session connection = .fresh) :
    ∃ db', db.heed connection .begin = some (db', .ok []) ∧ db.Beside connection db' ∧
      db'.Shows connection (db.freshPage db.clock) := by
  have ht : db.transaction? connection = none := by rw [transaction?, h]; rfl
  have hnone : (db.note connection true).transaction? connection = none := by
    rw [transaction?_note, ht]
  have halive : ((db.note connection true).session connection).alive = true := by
    rw [alive_note, h]; rfl
  refine ⟨(db.note connection true).enter connection, ?_, ?_, ?_⟩
  · unfold heed
    rw [h, if_neg (by simp [Session.fresh]), if_neg (by simp [refusesAborted, ht])]
    rfl
  · unfold enter
    rw [hnone]
    exact (Beside.note db connection true).trans (.setTransaction ..)
  · unfold enter
    rw [hnone]
    refine shows_setTransaction halive List.nodup_nil rfl ?_ rfl
    exact Books.overlay_empty db.books

theorem heed_setLockTimeout {millis : Nat} (h : db.Shows connection page)
    (ha : page.aborted = false) (hm : millis ≤ maxLockTimeout) :
    ∃ db', db.heed connection (.setLockTimeout millis) = some (db', .ok []) ∧
      db.Beside connection db' ∧ db'.Shows connection page := by
  obtain ⟨transaction, ht, hkeyed, hsame⟩ := h.transaction
  have hopen : transaction.aborted = false := hsame.trans ha
  refine ⟨db.setTransaction connection (some { transaction with lockTimeoutMillis := millis }), ?_,
    .setTransaction .., ?_⟩
  · have hrefuses : db.refusesAborted connection (.setLockTimeout millis) = false :=
      (refusesAborted_of_open ht rfl).trans hopen
    unfold heed
    rw [if_neg (by simp [h.alive]), if_neg (by simp [hrefuses])]
    simp [run, hrefuses, Nat.not_lt_of_le hm, ht, Statement.isEnd]
  · refine shows_setTransaction h.alive hkeyed hsame ?_ ?_
    · rw [← h.view, view, ht]
    · rw [← h.around, surroundings, ht]
      rfl

/-! ## The end -/

/-- The transaction on the connection is over, and the committed books and the serial number are
these. -/
structure Ended (connection : Nat) (books : Books) (serial : Nat) (db db' : Database) : Prop where
  books : db'.books = books
  users : db'.users = db.users
  tables : db'.tables = db.tables
  draws : db'.draws = db.draws
  serial : db'.serial = serial
  unended : (db'.session connection).unended = false

theorem ended_forget (connection : Nat) (db : Database) (books : Books) :
    Ended connection books db.serial db
      (Database.note { db.forget connection with books } connection false) :=
  ⟨rfl, rfl, rfl, rfl, rfl, by simp⟩

/-- A commit publishes what the transaction sees, unless it is aborted. -/
theorem Shows.commit (h : db.Shows connection page) :
    ∃ db', db.heed connection .commit = some (db', .ok []) ∧
      Ended connection (if page.aborted then db.books else page.view) page.around.serial db db' := by
  obtain ⟨transaction, ht, -, hsame⟩ := h.transaction
  have hview : db.books.overlay transaction.changes = page.view := by
    rw [← h.view, Database.view, ht]
  have hheed : db.heed connection .commit =
      some ((db.publish connection).note connection false, .ok []) := by
    unfold Database.heed
    rw [if_neg (by simp [h.alive]), if_neg (by simp [refusesAborted, Statement.isEnd])]
    rfl
  refine ⟨_, hheed, ?_⟩
  unfold publish
  rw [ht, ← hsame, ← hview, ← h.around]
  dsimp only
  cases transaction.aborted with
  | true => exact ended_forget connection db db.books
  | false => exact ended_forget connection db _

/-- A rollback leaves the committed books as they are. -/
theorem Shows.rollback (h : db.Shows connection page) :
    ∃ db', db.heed connection .rollback = some (db', .ok []) ∧
      Ended connection db.books page.around.serial db db' := by
  refine ⟨(db.forget connection).note connection false, ?_, ?_⟩
  · unfold Database.heed
    rw [if_neg (by simp [h.alive]), if_neg (by simp [refusesAborted, Statement.isEnd])]
    rfl
  · rw [← h.around]
    exact ended_forget connection db db.books

/-! ## Statements that stand alone -/

/-- A statement that stands alone is answered as on the page of a transaction of its own, and its
changes are published at once. -/
theorem heed_alone (h : db.session connection = .fresh) (hq : statement.isQuery = true)
    (hfree : ∀ account, statement.lockedAccount? db.books = some account →
      db.lockable connection account = true) :
    ∃ db', db.heed connection statement = some (db', ((db.freshPage db.clock).ask statement).2) ∧
      Ended connection ((db.freshPage db.clock).ask statement).1.view
        ((db.freshPage db.clock).ask statement).1.around.serial db db' := by
  have ht : db.transaction? connection = none := by rw [transaction?, h]; rfl
  have halive : (db.session connection).alive = true := by rw [h]; rfl
  have hrefuses : db.refusesAborted connection statement = false := refusesAborted_of_closed ht
  have hlock : db.lockFor connection statement = db.setSession connection .fresh := by
    simp only [lockFor, ht, h]
    rfl
  have haround : db.surroundings connection = (db.freshPage db.clock).around := by
    rw [surroundings, ht, h]
    rfl
  have hview : db.view connection = (db.freshPage db.clock).view := by rw [view, ht]; rfl
  have hsession : (db.setSession connection .fresh).session connection = .fresh := by simp
  have hunended : ((db.setSession connection .fresh).session connection).unended = false := by
    rw [hsession]
    rfl
  have hnone : (db.setSession connection .fresh).transaction? connection = none := by
    rw [transaction?, hsession]
    rfl
  rw [heed_query hq halive (obstacle?_of_lockable hfree), hrefuses]
  simp only [Bool.false_eq_true, if_false]
  unfold perform
  rw [hlock, haround, hview]
  cases he : statement.effect (db.freshPage db.clock).around (db.freshPage db.clock).view with
  | ok effect =>
    have hcounted : ∀ serial, Database.transaction? { db.setSession connection .fresh with serial }
        connection = none := fun _ => hnone
    rw [Page.ask_of_ok rfl he]
    refine ⟨_, rfl, ?_⟩
    unfold change
    dsimp only
    rw [hcounted]
    exact ⟨rfl, rfl, rfl, rfl, rfl, hunended⟩
  | error rejection =>
    rw [Page.ask_of_error rfl he]
    refine ⟨_, rfl, ?_⟩
    unfold abort
    rw [hnone]
    exact ⟨rfl, rfl, rfl, rfl, rfl, hunended⟩

end Database

/-! ## Rules for the statements about transactions -/

open Database

namespace Work

variable {α : Type} {Always : Database → Prop} {Ends : Desk → α → Prop} {desk : Desk}
  {connection : Nat} {page : Page}

section

variable (hhands : desk.hands.head? = some connection)
  (halways : ∀ db, desk.db.Beside connection db → Always db)
include hhands halways

theorem attains_begin {next : Statement.Answer .begin → Work α}
    (hfresh : desk.db.session connection = .fresh)
    (h : ∀ clock db, desk.db.Beside connection db → db.Shows connection (desk.db.freshPage clock) →
      (next (.ok [])).Attains Always Ends { desk with db }) :
    (exec .begin next).Attains Always Ends desk := by
  have htick := fun clock => Beside.drift connection desk.db clock desk.db.serial
  refine attains_exec hhands (fun clock => halways _ (htick clock)) fun clock => ?_
  obtain ⟨db, hheed, hbeside, hshows⟩ := @heed_begin (desk.later clock).db connection hfresh
  exact ⟨db, _, hheed, h clock db ((htick clock).trans hbeside) hshows⟩

theorem attains_setLockTimeout {millis : Nat} {next : Statement.Answer (.setLockTimeout millis) → Work α}
    (hshows : desk.db.Shows connection page) (ha : page.aborted = false)
    (hm : millis ≤ maxLockTimeout)
    (h : ∀ db, desk.db.Beside connection db → db.Shows connection page →
      (next (.ok [])).Attains Always Ends { desk with db }) :
    (exec (.setLockTimeout millis) next).Attains Always Ends desk := by
  have htick := fun clock => Beside.drift connection desk.db clock desk.db.serial
  refine attains_exec hhands (fun clock => halways _ (htick clock)) fun clock => ?_
  obtain ⟨db, hheed, hbeside, hshown⟩ := heed_setLockTimeout (hshows.later clock) ha hm
  exact ⟨db, _, hheed, h db ((htick clock).trans hbeside) hshown⟩

theorem attains_commit {next : Statement.Answer .commit → Work α}
    (hshows : desk.db.Shows connection page)
    (h : ∀ db, Ended connection (if page.aborted then desk.db.books else page.view)
        page.around.serial desk.db db →
      (next (.ok [])).Attains Always Ends { desk with db }) :
    (exec .commit next).Attains Always Ends desk := by
  have htick := fun clock => Beside.drift connection desk.db clock desk.db.serial
  refine attains_exec hhands (fun clock => halways _ (htick clock)) fun clock => ?_
  obtain ⟨db, hheed, hended⟩ := (hshows.later clock).commit
  exact ⟨db, _, hheed, h db
    ⟨hended.books, hended.users, hended.tables, hended.draws, hended.serial, hended.unended⟩⟩

theorem attains_rollback {next : Statement.Answer .rollback → Work α}
    (hshows : desk.db.Shows connection page)
    (h : ∀ db, Ended connection desk.db.books page.around.serial desk.db db →
      (next (.ok [])).Attains Always Ends { desk with db }) :
    (exec .rollback next).Attains Always Ends desk := by
  have htick := fun clock => Beside.drift connection desk.db clock desk.db.serial
  refine attains_exec hhands (fun clock => halways _ (htick clock)) fun clock => ?_
  obtain ⟨db, hheed, hended⟩ := (hshows.later clock).rollback
  exact ⟨db, _, hheed, h db
    ⟨hended.books, hended.users, hended.tables, hended.draws, hended.serial, hended.unended⟩⟩

end

end Work

/-! ## What is attained -/

/-- The pool has a connection to give, no row is locked for it, and nothing has been reported. -/
structure Desk.Ready (desk : Desk) : Prop extends desk.HasRoom where
  told : desk.told = []
  free : ∀ account, desk.db.lockable desk.nextConnection account = true

/-- Somebody is done: these connections are in use, these are the committed books, and the rest is as
on the page. -/
structure Desk.Leaves (inUse : List Nat) (books : Books) (page : Page) (desk desk' : Desk) : Prop where
  books : desk'.db.books = books
  users : desk'.db.users = desk.db.users
  tables : desk'.db.tables = desk.db.tables
  draws : desk'.db.draws = desk.db.draws
  serial : desk'.db.serial = page.around.serial
  pool : (desk'.capacity, desk'.closed, desk'.inUse) = (desk.capacity, desk.closed, inUse)
  told : desk'.told = page.told

/-- Who has ended a transaction gives the connection back. -/
theorem attains_handBack {desk : Desk} {connection : Nat} {hands : List Nat} {books : Books}
    {page : Page} {db : Database} (hhands : desk.hands = connection :: hands)
    (hended : Ended connection books page.around.serial desk.db db) (htold : page.told = desk.told)
    (reply : Reply) :
    (UnitOfWork.handBack reply).Attains (fun _ => True)
      (fun desk' reply' => reply' = reply ∧ desk'.hands = hands ∧
        Desk.Leaves (desk.inUse.erase connection) books page desk desk') { desk with db } := by
  refine Work.attains_giveBack hhands hended.unended (Work.attains_done (fun _ => trivial) ?_)
  exact fun clock => ⟨rfl, rfl, hended.books, hended.users, hended.tables, hended.draws,
    hended.serial, rfl, htold.symm⟩

namespace Scenario

variable {Always : Database → Prop} {desk : Desk} {lockTimeout : Option Duration}

end Scenario

namespace Work

theorem AttainsWhen.mono {α : Type} {Sent : Statement → Instant → Prop} {Always : Database → Prop}
    {Ends Ends' : Desk → α → Prop} {work : Work α} {desk : Desk}
    (h : work.AttainsWhen Sent Always Ends desk)
    (he : ∀ desk value, Ends desk value → Ends' desk value) :
    work.AttainsWhen Sent Always Ends' desk := by
  induction work generalizing desk with
  | done => exact fun clock => ⟨(h clock).1, he _ _ (h clock).2⟩
  | connect next ih =>
    exact attains_connect h.1 (fun clock => (h.2 clock).1)
      fun clock hfresh => ih _ ((h.2 clock).2 hfresh)
  | giveBack rest ih =>
    unfold AttainsWhen at h ⊢
    cases hhands : desk.hands with
    | nil => rw [hhands] at h; exact ih h
    | cons => rw [hhands] at h; exact ⟨h.1, ih h.2⟩
  | exec statement next ih =>
    obtain ⟨connection, hhands, h⟩ := h
    refine attains_exec_sent hhands (fun clock => (h clock).1) fun clock hsent => ?_
    obtain ⟨db, answer, hheed, hnext⟩ := (h clock).2 hsent
    exact ⟨db, answer, hheed, ih _ hnext⟩
  | draw next ih => exact ih _ h
  | report reply rest ih => exact ih h

/-- Work on a connection taken from the pool for it alone. -/
def alone (work : Work Reply) : Work Reply :=
  .connect fun
    | .error error => .done (.failed (.storage error))
    | .ok () => work.bind UnitOfWork.handBack

/-- A statement on a connection of its own does what it does on a fresh page. -/
theorem attains_alone {desk : Desk} {statement : Statement} (hready : desk.Ready)
    (hq : statement.isQuery = true) (read : statement.Answer → Reply) :
    (alone (.exec statement fun answer => .done (read answer))).Attains (fun _ => True)
      (fun desk' reply => ∃ clock,
        reply = read ((desk.db.freshPage clock).ask statement).2 ∧ desk'.hands = desk.hands ∧
        desk.Leaves desk.inUse ((desk.db.freshPage clock).ask statement).1.view
          ((desk.db.freshPage clock).ask statement).1 desk') desk := by
  refine attains_connect hready.toHasRoom (fun _ => trivial) fun clock hfresh => ?_
  refine attains_exec rfl (fun _ => trivial) fun clock => ?_
  obtain ⟨db, hheed, hended⟩ := @heed_alone (desk.later clock).db desk.nextConnection statement hfresh
    hq fun account _ => hready.free account
  refine ⟨db, _, hheed, ?_⟩
  refine (@attains_handBack desk.connected _ _ _ _ _ rfl ⟨hended.books, hended.users, hended.tables,
    hended.draws, hended.serial, hended.unended⟩ ?_ _).mono fun desk' reply h => ⟨clock, h.1, h.2.1, ?_⟩
  · rw [Page.told_ask]
    exact hready.told.symm
  · have hleaves := h.2.2
    rw [Desk.connected, List.erase_cons_head] at hleaves
    exact ⟨hleaves.books, hleaves.users, hleaves.tables, hleaves.draws, hleaves.serial, hleaves.pool,
      hleaves.told⟩

end Work

namespace UnitOfWork

variable {unit : UnitOfWork} {desk : Desk} {Results : Except Failure Reply → Prop}

/-- The committed books after a unit whose body has come to the result and left the page. -/
def published (books : Books) (page : Page) : Except Failure Reply → Books
  | .ok _ => if page.aborted then books else page.view
  | .error _ => books

theorem attains_ending {connection : Nat} {page : Page} (hhands : desk.hands = [connection])
    (hshows : desk.db.Shows connection page) (htold : page.told = desk.told)
    (result : Except Failure Reply) :
    (unit.ending result).Attains (fun _ => True) (fun desk' reply =>
      reply = .ofResult id result ∧ desk'.hands = [] ∧
      Desk.Leaves (desk.inUse.erase connection) (published desk.db.books page result) page desk desk')
      desk := by
  have hhead : desk.hands.head? = some connection := by rw [hhands]; rfl
  cases result with
  | ok reply =>
    refine Work.attains_commit hhead (fun _ _ => trivial) hshows fun db hended => ?_
    exact attains_handBack hhands hended htold reply
  | error failure =>
    refine Work.attains_rollback hhead (fun _ _ => trivial) hshows fun db hended => ?_
    exact attains_handBack hhands hended htold (.failed failure)

/-- What a unit of work comes to: what its body comes to on a fresh page, which is published if the
body succeeds. -/
def Comes (unit : UnitOfWork) (desk desk' : Desk) (reply : Reply) : Prop :=
  ∃ clock, reply = .ofResult id (unit.body.run.inside (desk.db.freshPage clock)).2 ∧
    desk'.hands = [] ∧
    desk.Leaves desk.inUse
      (published desk.db.books (unit.body.run.inside (desk.db.freshPage clock)).1
        (unit.body.run.inside (desk.db.freshPage clock)).2)
      (unit.body.run.inside (desk.db.freshPage clock)).1 desk'

theorem attains_work (hready : desk.Ready) (hhands : desk.hands = []) (hadmits : unit.Admits)
    (hobeys : unit.body.run.Obeys (fun statement => statement.isQuery = true) Results) :
    unit.work.Attains (fun _ => True) (unit.Comes desk) desk := by
  have hworking : ∀ (clock : Instant) (db : Database), desk.db.Beside desk.nextConnection db →
      db.Shows desk.nextConnection (desk.db.freshPage clock) →
      (unit.working unit.body.run).Attains (fun _ => True) (unit.Comes desk)
        { desk.connected with db } := by
    intro clock db hbeside hshows
    refine @Work.attains_inside _ _ _ _ _ _ _ { desk.connected with db } desk.nextConnection _ hobeys
      rfl hshows hready.told.symm (fun _ _ account _ => hbeside.lockable account (hready.free account))
      (fun _ _ => trivial) fun db' hbeside' hshows' => ?_
    refine (@attains_ending unit { desk.connected with db := db', told := _ } desk.nextConnection _
      ?_ hshows' rfl _).mono fun desk' reply h => ⟨clock, h.1, h.2.1, ?_⟩
    · rw [Desk.connected, hhands]
    · have hleaves := h.2.2
      have hboth := hbeside.trans hbeside'
      rw [hboth.books] at hleaves
      refine ⟨hleaves.books, hleaves.users.trans hboth.users, hleaves.tables.trans hboth.tables,
        hleaves.draws.trans hboth.draws, hleaves.serial, ?_, hleaves.told⟩
      rw [hleaves.pool, Desk.connected, List.erase_cons_head]
  rw [work_eq]
  refine Work.attains_connect hready.toHasRoom (fun _ => trivial) fun clock hfresh => ?_
  refine Work.attains_begin rfl (fun _ _ => trivial) hfresh fun clock' db hbeside hshows => ?_
  have hbeside' := (Beside.drift desk.nextConnection desk.db clock desk.db.serial).trans hbeside
  dsimp only [begun]
  cases hbound : unit.runner.lockTimeout with
  | none => exact hworking clock' db hbeside' hshows
  | some bound =>
    refine Work.attains_setLockTimeout rfl (fun _ _ => trivial) hshows rfl (hadmits bound hbound) ?_
    exact fun db' hlater hshown => hworking clock' db' (hbeside'.trans hlater) hshown

end UnitOfWork

end Passbook
