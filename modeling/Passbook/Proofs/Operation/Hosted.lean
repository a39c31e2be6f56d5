import Passbook.Proofs.Operation.InTurn

/-! # Operations in the transaction of their caller

Somebody opens a transaction, keeps its connection, and has operations done on it in turn
(`System.Hosted`). Each of them is done on the page that those before it have left
(`Operation.inTurn`); nobody else sees any of it (`System.Hides`), and in the end it is committed,
rolled back or dropped. -/

namespace Passbook

/-- The page for the next operation. -/
def Page.turned (page : Page) : Page := { page with asked := [], told := [] }

/-- What operations come to in turn inside a transaction: each is done on the page that those before it
have left. -/
def Operation.inTurn (runner : Runner) :
    List Operation → List Int → Page → Page × List Reply
  | [], _, page => (page, [])
  | operation :: operations, opened, page =>
    let (page, reply) := (operation.work runner .callers opened).inside page.turned
    let (page, replies) := inTurn runner operations (opened ++ reply.opened?.toList) page
    (page, reply :: replies)

namespace System

variable {runner : Runner} {db : Database} {system after : System} {connection : Nat} {page : Page}
  {past : Past} {task : Task} {opened : List Int} {operation : Operation}
  {operations : List Operation} {replies : List Reply}

/-- The connection is kept by its caller, and a transaction is open on it that has the page before it
and began on the given database. -/
structure Hosts (db : Database) (connection : Nat) (page : Page) (system : System) : Prop
    extends Quiet [connection] system where
  shows : system.db.Shows connection page
  beside : db.Beside connection system.db

variable (hfree : ∀ account, db.lockable connection account = true)
include hfree

/-- An operation is done on the page that its transaction has before it. -/
theorem Hosts.serves (h : system.Hosts db connection page) (operation : Operation)
    (opened : List Int) :
    (∃ past after task,
      system.Serves [connection] (operation.work runner .callers opened) past after task) ∧
      ∀ past after task,
        system.Serves [connection] (operation.work runner .callers opened) past after task →
        task.reply = some ((operation.work runner .callers opened).inside page.turned).2 ∧
          after.Hosts db connection ((operation.work runner .callers opened).inside page.turned).1 ∧
          ∀ before event, (before, event) ∈ past → db.Beside connection before.db := by
  have hlockable : ∀ account, system.db.lockable connection account = true :=
    fun account => h.beside.lockable account (hfree account)
  have hattains : (operation.work runner .callers opened).Attains (db.Beside connection)
      (fun desk' reply =>
        reply = ((operation.work runner .callers opened).inside page.turned).2 ∧
          desk'.db.Shows connection ((operation.work runner .callers opened).inside page.turned).1 ∧
          db.Beside connection desk'.db ∧ desk'.inUse = [connection])
      (system.desk [connection] []) := by
    rw [← Work.bind_done (operation.work runner .callers opened)]
    refine @Work.attains_inside _ _ _ _ _ _ _ (system.desk [connection] []) connection page.turned
      (Operation.obeys_work runner opened operation) rfl
      ⟨h.shows.alive, h.shows.transaction, h.shows.view, h.shows.around⟩ rfl
      (fun _ _ account _ => hlockable account) (fun _ hbeside => h.beside.trans hbeside) ?_
    intro db' hbeside hshows
    have hlater := fun clock => (h.beside.trans hbeside).trans (.drift connection db' clock db'.serial)
    rw [Work.bind_done]
    exact Work.attains_done hlater fun clock => ⟨rfl, hshows.later clock, hlater clock, h.inUse⟩
  refine ⟨exists_serves h.orderly h.faults (List.nodup_singleton connection) ?_ hattains, ?_⟩
  · exact fun own hmem => h.isIdle hmem
  intro past after task hserves
  have hserved := hserves.attained h.orderly h.faults h.beside hattains
  obtain ⟨reply, hreply, rfl, hshows, hbeside, hinUse⟩ := hserved.ends
  exact ⟨hreply, ⟨hserved.quiet h.toQuiet hserves hinUse, hshows, hbeside⟩, hserved.always.1⟩

/-- Operations are done in turn, each on the page that those before it have left. -/
theorem Hosts.inTurn (h : system.Hosts db connection page)
    (hturn : system.InTurn runner .callers [connection] opened operations past after replies) :
    after.Hosts db connection (Operation.inTurn runner operations opened page).1 ∧
      replies = (Operation.inTurn runner operations opened page).2 ∧
      ∀ before event, (before, event) ∈ past → db.Beside connection before.db := by
  induction hturn generalizing page with
  | nil => exact ⟨h, rfl, fun _ _ hmem => absurd hmem List.not_mem_nil⟩
  | cons hserves hreply _ ih =>
    obtain ⟨hdone, hafter, hmoments⟩ := (h.serves hfree _ _).2 _ _ _ hserves
    cases hreply.symm.trans hdone
    obtain ⟨hlast, hreplies, hlater⟩ := ih hafter
    refine ⟨hlast, ?_, fun before event hmem => ?_⟩
    · rw [hreplies]
      rfl
    · rcases List.mem_append.mp hmem with hmem | hmem
      · exact hmoments before event hmem
      · exact hlater before event hmem

theorem Hosts.exists_inTurn (h : system.Hosts db connection page) (operations : List Operation)
    (opened : List Int) : ∃ past after replies,
      system.InTurn runner .callers [connection] opened operations past after replies := by
  induction operations generalizing system page opened with
  | nil => exact ⟨[], system, [], .nil⟩
  | cons operation operations ih =>
    obtain ⟨⟨past, middle, task, hserves⟩, hdone⟩ := h.serves hfree operation opened
    obtain ⟨hreply, hmiddle, -⟩ := hdone past middle task hserves
    obtain ⟨later, after, replies, hturn⟩ := ih hmiddle _
    exact ⟨_, after, _, .cons hserves hreply hturn⟩

omit hfree

/-! ## The beginning -/

/-- Nothing is done to the books while there is no task that could do it. -/
theorem books_of_own {others : List Task} (htasks : system.tasks = others)
    (hrun : Run system past after)
    (hown : ∀ before event, (before, event) ∈ past → event.isOwn others.length = true) :
    after.tasks = others ∧ after.db.books = system.db.books := by
  induction hrun with
  | refl => exact ⟨htasks, rfl⟩
  | @step past before after event _ hs ih =>
    obtain ⟨hbefore, hbooks⟩ := ih fun before event hmem => hown before event (List.mem_append_left _ hmem)
    have howns := hown before event (List.mem_append_right _ List.mem_cons_self)
    cases hm : event.mover? with
    | none =>
      cases event with
      | elapse | tick => cases hs; exact ⟨hbefore, hbooks⟩
      | move => cases hm
      | _ => cases howns
    | some index =>
      have hlt := lt_length_of_mover hs hm
      cases event with
      | move move =>
        cases move <;> first
          | cases howns
          | simp_all [Event.mover?, Move.index, Event.isOwn]
      | _ => cases hm

/-- The transaction on a connection that is dropped is rolled back. -/
theorem Hosts.attends_cleanup (h : system.Hosts db connection page)
    (hs : system.step (.release connection) = some after)
    (htasks : after.tasks = system.tasks ++ [.cleanup connection])
    (hdb : after.db = system.db.note connection false) (hfaults : after.faults = []) :
    after.Attends (fun _ _ => True) (fun db' => db'.books = db.books) (fun _ _ => True) (some .done)
      system.tasks := by
  refine ⟨h.orderly.step hs, hfaults, _, htasks, rfl, ?_⟩
  have hshows : after.db.Shows connection page := by
    obtain ⟨transaction, ht, hrest⟩ := h.shows.transaction
    rw [hdb]
    refine ⟨by rw [Database.alive_note, h.shows.alive], ⟨transaction, ?_, hrest⟩, ?_, ?_⟩
    · rw [Database.transaction?_note, ht]
    · rw [Database.view_note, h.shows.view]
    · rw [← h.shows.around, Database.surroundings_note]
  have hbooks : after.db.books = db.books := by
    rw [hdb]
    exact h.beside.books
  refine @Work.attains_rollback _ _ _ (after.desk [connection] []) connection page rfl
    (fun db' hbeside => hbeside.books.trans hbooks) _ hshows fun db' hended => ?_
  refine Work.attains_giveBack rfl hended.unended (Work.attains_done (fun _ => ?_) fun _ => trivial)
  exact hended.books.trans hbooks

/-- A connection that is dropped is given back, and whatever is done then to end the transaction on it
leaves the committed books as they were. -/
theorem Hosts.release (h : system.Hosts db connection page) :
    ∃ released, system.step (.release connection) = some released ∧
      ∀ past after, Run released past after →
        (∀ before event, (before, event) ∈ past → event.isOwn system.tasks.length = true) →
        after.db.books = db.books := by
  have hs : system.step (.release connection) = some (system.giveBack connection) :=
    if_pos (h.isIdle List.mem_cons_self)
  refine ⟨_, hs, fun past after hrun hown => ?_⟩
  by_cases hopen : ((system.db.session connection).alive && (system.db.session connection).unended) = true
  · have hback : system.giveBack connection =
        { system with
          db := system.db.note connection false
          tasks := system.tasks ++ [.cleanup connection] } := if_pos hopen
    have hattends := h.attends_cleanup hs (by rw [hback]) (by rw [hback]) (by rw [hback]; exact h.faults)
    obtain ⟨hlast, -⟩ := hattends.run hrun hown fun _ _ _ => trivial
    obtain ⟨task, -, hawaits⟩ := hlast.task
    exact hawaits.always
  · have hback : system.giveBack connection =
        { system with
          db := system.db.close connection
          inUse := system.inUse.erase connection } := if_neg hopen
    obtain ⟨-, hbooks⟩ := books_of_own (by rw [hback]) hrun hown
    rw [hbooks, hback]
    exact h.beside.books

end System

end Passbook
