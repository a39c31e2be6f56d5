import Passbook.Proofs.Database.Custody
import Passbook.Proofs.UnitOfWork.Course

/-! # Custody throughout a run

Whatever the tasks of a run do, the rows that a connection owns change in the committed books only by
what the task does that works on the connection (`steady_step`). Of the database this takes that the
key of the accounts is kept (`Past.KeysHold`). Serial numbers only grow (`serial_le_step`). All of it
comes from one principle: what an event does with the database is to answer a statement at most, and
then to close connections, to note what their clients know and to count identifiers, or else to note
when a statement has arrived that must wait (`database_step`). -/

namespace Passbook

/-- Every statement of the past that added an account found its number free: no other open transaction
had added or changed a row with it. The key of the table sees to it: it makes an addition wait for such
a transaction until it has ended. The database of the model knows no such wait, and this stands for
it. -/
def Past.KeysHold (past : Past) : Prop :=
  ∀ before event, (before, event) ∈ past → ∀ told, before.told? event = some told →
    told.ran = true → before.db.KeysFree told.connection told.statement

theorem Past.KeysHold.of_append {past later : Past} (h : Past.KeysHold (past ++ later)) :
    past.KeysHold :=
  fun before event hmem => h before event (List.mem_append_left later hmem)

/-- Whether no other connection has changed or added a row with the number of an account that is
added. -/
def Database.keysFree (db : Database) (connection : Nat) : Statement → Bool
  | .insertAccount id _ _ => db.sessions.all fun (other, session) =>
      other == connection ||
        session.transaction.all fun transaction => (transaction.changes.account? id).isNone
  | _ => true

theorem Database.keysFree_sound {db : Database} {connection : Nat} {statement : Statement}
    (h : db.keysFree connection statement = true) : db.KeysFree connection statement := by
  cases statement with
  | insertAccount id owner kind =>
    rintro - other hne ⟨transaction, ht, -, hchanged⟩
    cases hsession : db.sessions.lookup other with
    | none => simp [transaction?, session, hsession, Session.fresh] at ht
    | some session =>
      obtain ⟨before, after, hsessions, -⟩ := List.lookup_eq_some_iff.mp hsession
      have hfree := List.all_eq_true.mp h (other, session) (by simp [hsessions])
      have ht' : session.transaction = some transaction := by
        simpa [transaction?, Database.session, hsession] using ht
      simp [hne, ht'] at hfree
      rw [hfree] at hchanged
      cases hchanged
  | _ => exact trivial

namespace Database

variable {Allowed : Twist → Prop} {db db' : Database} {connection : Nat} {statement : Statement}
  {ran : Bool} {answer : statement.Answer}

theorem AtRest.custody (h : db.AtRest) : db.Custody := by
  have hnone : ∀ connection, db.transaction? connection = none := fun connection => by
    rw [transaction?, session, h.sessions]
    rfl
  refine ⟨fun connection => ⟨?_, ?_, ?_, ?_⟩, ?_⟩
  · intro transaction ht
    cases (hnone connection).symm.trans ht
  · intro transaction ht
    cases (hnone connection).symm.trans ht
  · intro id hheld
    rw [Holds, h.locks] at hheld
    cases hheld
  · rintro id ⟨transaction, ht, -⟩
    cases (hnone connection).symm.trans ht
  · rintro connection other id ⟨transaction, ht, -⟩
    cases (hnone connection).symm.trans ht

/-- What is open when a connection has been closed was open before. -/
theorem transaction?_of_close {other : Nat} {transaction : Transaction}
    (ht : (db.close connection).transaction? other = some transaction) :
    db.transaction? other = some transaction := by
  by_cases hne : other = connection
  · subst hne
    simp [transaction?, Session.fresh] at ht
  · rwa [(Untouched.close hne db).transaction?] at ht

/-- The clock and the serial number do not matter. -/
theorem Custody.of_eq (h : db.Custody) (hbooks : db'.books = db.books)
    (hsessions : db'.sessions = db.sessions) (hlocks : db'.locks = db.locks)
    (hdraws : db'.draws = db.draws) : db'.Custody := by
  have hu : ∀ other, Untouched other db db' := fun _ => .of_eq hsessions hlocks hdraws
  refine ⟨fun connection => ⟨?_, ?_, ?_, ?_⟩, ?_⟩
  · rw [(hu connection).transaction?, (hu connection).session]
    exact (h.keeps connection).living
  · rw [(hu connection).transaction?]
    exact (h.keeps connection).keyed
  · intro id hheld
    rw [hbooks]
    exact (h.keeps connection).exist id ((hu connection).holds.mp hheld)
  · intro id halters hpublic
    rw [hbooks] at hpublic
    exact (hu connection).holds.mpr
      ((h.keeps connection).held id ((hu connection).alters.mp halters) hpublic)
  · intro connection other id hown hother
    exact h.sole connection other id ((hu connection).alters.mp hown) ((hu other).alters.mp hother)

/-! ## Serial numbers -/

theorem serial_abort (db : Database) (connection : Nat) :
    (db.abort connection).serial = db.serial := by
  unfold abort; split <;> rfl

theorem serial_refuse (db : Database) (connection : Nat) (statement : Statement) :
    (db.refuse connection statement).serial = db.serial := by
  unfold refuse
  split
  · rfl
  · exact serial_abort db connection

theorem serial_le_change (db : Database) (connection : Nat) (changes : Books) :
    db.serial ≤ (db.change connection changes).serial := by
  unfold change
  dsimp only
  split <;> exact Nat.le_add_right ..

theorem serial_lockFor (db : Database) (connection : Nat) (statement : Statement) :
    (db.lockFor connection statement).serial = db.serial := by
  unfold lockFor
  split
  · unfold Database.lock; split <;> rfl
  · rfl
  · rfl

theorem serial_le_run (h : db.run connection statement = .answered db' answer) :
    db.serial ≤ db'.serial := by
  cases runs_of_run h with
  | begun => unfold enter; split <;> exact Nat.le_refl _
  | committed =>
    unfold publish
    split
    · split <;> exact Nat.le_refl _
    · exact Nat.le_refl _
  | rolledBack | aborted | bounded | nothingToBound => exact Nat.le_refl _
  | outOfRange => exact Nat.le_of_eq (serial_abort db connection).symm
  | performed =>
    exact (serial_lockFor db connection statement).symm ▸ serial_le_change _ connection _
  | rejected => exact Nat.le_of_eq ((serial_abort ..).trans (serial_lockFor ..)).symm

theorem serial_twisted (db : Database) (connection : Nat) (twist : Twist)
    (answer : statement.Answer) :
    (db.twisted connection statement twist answer).1.serial = db.serial := by
  unfold twisted
  split <;> rfl

theorem Tells.serial_le (h : db.Tells Allowed connection statement db' ran answer) :
    db.serial ≤ db'.serial := by
  cases h with
  | dead => exact Nat.le_refl _
  | @living met db' _ _ _ hmet hanswers =>
    have hserial : met.serial = db.serial := by rcases hmet with rfl | ⟨-, rfl⟩ <;> rfl
    have hanswered : met.serial ≤ db'.serial := by
      cases hanswers with
      | dead | aborted | lost => exact Nat.le_refl _
      | refused => exact Nat.le_of_eq (serial_refuse ..).symm
      | ran _ _ hr =>
        rw [serial_twisted]
        exact serial_le_run hr
    rw [← hserial]
    split <;> exact hanswered

end Database

namespace System

variable {system after : System} {event : Event} {connection index : Nat} {task : Task} {id : Int}

/-- What an event does with the database. -/
theorem database_step {P : Database → Prop} (hu : system.Underway)
    (hs : system.step event = some after) (h : P system.db)
    (hnote : ∀ db connection unended, P db → P (db.note connection unended))
    (hwait : ∀ connection, system.db.transaction? connection = none →
      ((system.db.session connection).waiting = none →
        system.waiting? event = some (connection, system.db.clock)) →
      P (system.db.wait connection))
    (hclose : ∀ db connection, P db → P (db.close connection))
    (hserial : ∀ db serial, db.serial ≤ serial → P db → P { db with serial })
    (htick : ∀ db clock, event = .tick clock → P db → P { db with clock })
    (htold : ∀ told db, system.told? event = some told →
      system.db.Tells (fun _ => True) told.connection told.statement db told.ran told.answer →
      P db) : P after.db := by
  have hback : ∀ (system : System) connection, P system.db →
      P (system.giveBack connection).db := by
    intro system connection h
    unfold giveBack
    dsimp only
    split
    · exact hnote _ _ _ h
    · exact hclose _ _ h
  have hproceed : ∀ (work : Work Reply) (system : System) (task : Task), P system.db →
      P (system.proceed task work).1.db := by
    intro work
    induction work with
    | done | connect | exec => exact fun _ _ h => h
    | giveBack rest ih =>
      intro system task h
      unfold proceed
      split
      · exact ih system task h
      · exact ih _ _ (hback system _ h)
    | draw next ih => exact fun system task h => ih _ _ task (hserial _ _ (Nat.le_succ _) h)
    | report reply rest ih => exact fun system task h => ih system _ h
  cases event with
  | move move =>
    cases System.moves (Twists.any system) hs with
    | connected => exact hproceed _ _ _ h
    | turnedAway => exact hproceed _ _ _ h
    | gaveUp => exact hproceed _ _ _ h
    | leftBehind => exact h
    | @arrived arrival harrival ha =>
      have hheard := heard_of_arrives hu harrival ha ha.task ha.connection ha.stage
      generalize arrival.system.settle arrival.sending arrival.fate = after at hheard ⊢
      cases hheard with
      | held _ _ _ _ _ _ hwaits hwaiting =>
        cases hwaits with
        | unnoted => exact h
        | begun => exact hnote _ _ _ h
        | arrived _ hnone =>
          refine hwait _ hnone fun hfirst => ?_
          rw [hwaiting, hfirst, Database.waiting_wait hnone hfirst]
          rfl
      | told ran answer htold' _ htells => exact hproceed _ _ _ (htold _ _ htold' htells)
  | spawn connections deadline work =>
    obtain ⟨-, -, rfl⟩ := spawned_of_step hs
    exact hproceed work system _ h
  | release connection =>
    obtain ⟨-, rfl⟩ := released_of_step hs
    exact hback system connection h
  | tick clock => cases hs; exact htick _ _ rfl h
  | elapse | arm | unstall | closePool => cases hs; exact h

theorem serial_le_step (hu : system.Underway) (hs : system.step event = some after) :
    system.db.serial ≤ after.db.serial := by
  refine database_step (P := fun db => system.db.serial ≤ db.serial) hu hs (Nat.le_refl _) ?_ ?_ ?_
    ?_ ?_ ?_
  · exact fun _ _ _ h => h
  · exact fun connection _ _ => Nat.le_of_eq (Database.serial_wait ..).symm
  · exact fun _ _ h => h
  · exact fun _ _ hle h => Nat.le_trans h hle
  · exact fun _ _ _ h => h
  · exact fun _ _ _ htells => htells.serial_le

/-- What is drawn does not depend on what happens. -/
theorem draws_step (hu : system.Underway) (hs : system.step event = some after) :
    after.db.draws = system.db.draws := by
  refine database_step (P := fun db => db.draws = system.db.draws) hu hs rfl ?_ ?_ ?_ ?_ ?_ ?_
  · exact fun _ _ _ h => h
  · exact fun connection _ _ => (Database.Untouched.wait (Nat.succ_ne_self connection) system.db).draws
  · exact fun _ _ h => h
  · exact fun _ _ _ h => h
  · exact fun _ _ _ h => h
  · exact fun _ _ _ htells => htells.draws

/-- The numbers of the accounts that an event adds are free. -/
def KeysFree (system : System) (event : Event) : Prop :=
  ∀ told, system.told? event = some told → told.ran = true →
    system.db.KeysFree told.connection told.statement

theorem custody_step (hu : system.Underway) (hl : system.db.LocksSound) (h : system.db.Custody)
    (hkeys : system.KeysFree event) (hs : system.step event = some after) : after.db.Custody := by
  refine database_step (P := Database.Custody) hu hs h ?_ ?_ ?_ ?_ ?_ ?_
  · exact fun _ connection unended h => h.note connection unended
  · exact fun connection _ _ => h.wait connection
  · exact fun _ connection h => h.close connection
  · exact fun _ _ _ h => h.of_eq rfl rfl rfl rfl
  · exact fun _ _ _ h => h.of_eq rfl rfl rfl rfl
  · exact fun told _ htold htells => h.tells hl (hkeys told htold) htells

/-- A row that a connection owns is changed by nobody who does not touch the connection. -/
theorem steady_step (hu : system.Underway) (hl : system.db.LocksSound) (h : system.db.Custody)
    (hkeys : system.KeysFree event) (hs : system.step event = some after)
    (hc : connection ∉ system.touched event) (howns : system.db.Owns connection id) :
    after.db.books.account? id = system.db.books.account? id := by
  refine database_step (P := fun db => db.books.account? id = system.db.books.account? id) hu hs
    rfl ?_ ?_ ?_ ?_ ?_ ?_
  · exact fun _ _ _ h => h
  · exact fun connection _ _ => by rw [Database.books_wait]
  · exact fun _ _ h => h
  · exact fun _ _ _ h => h
  · exact fun _ _ _ h => h
  · intro told db htold htells
    refine htells.steady h hl (hkeys told htold) ?_ howns
    rintro rfl
    exact hc (touched_of_told htold).2

end System

/-- What is relied on throughout: rows are in custody, and no answer is made up. -/
structure System.Sound (system : System) : Prop where
  twists : system.Twists fun twist => twist.isHonest = true
  underway : system.Underway
  orderly : System.Orderly [] [] system
  custody : system.db.Custody

/-- No answers were made up in the past, and no account number was given twice. -/
structure Past.Faithful (past : Past) : Prop where
  honest : ∀ before armed, (before, Event.arm armed) ∈ past → armed.fault.twist.isHonest = true
  keys : past.KeysHold

/-- Whether an event arms no fault that makes answers up. -/
def Event.isHonest : Event → Bool
  | .arm armed => armed.fault.twist.isHonest
  | _ => true

/-- Whether no answers are made up in the past, and no account number is given twice. -/
def Past.isPlain (past : Past) : Bool :=
  past.all fun (system, event) => event.isHonest &&
    (system.told? event).all fun told => system.db.keysFree told.connection told.statement

theorem Past.Faithful.of_isPlain {past : Past} (h : past.isPlain = true) : past.Faithful where
  honest before armed hmem := by
    have hplain := List.all_eq_true.mp h _ hmem
    exact (Bool.and_eq_true_iff.mp hplain).1
  keys := by
    intro before event hmem told htold _
    have hplain := (Bool.and_eq_true_iff.mp (List.all_eq_true.mp h _ hmem)).2
    dsimp only at hplain
    rw [htold] at hplain
    exact Database.keysFree_sound hplain

theorem Past.Faithful.of_append {past later : Past} (h : Past.Faithful (past ++ later)) :
    past.Faithful :=
  ⟨fun before armed hmem => h.honest before armed (List.mem_append_left later hmem),
    h.keys.of_append⟩

namespace System

variable {system after : System} {event : Event}

theorem sound_start {db : Database} (hrest : db.AtRest) (capacity : Nat) :
    Sound (.start db capacity) :=
  ⟨twists_start (fun twist => twist.isHonest = true) rfl db capacity, underway_start db capacity,
    orderly_start hrest capacity, hrest.custody⟩

theorem Sound.step {past : Past} (h : system.Sound)
    (hfaith : Past.Faithful (past ++ [(system, event)])) (hs : system.step event = some after) :
    after.Sound where
  twists := by
    refine h.twists.step hs ?_
    rintro armed rfl
    exact hfaith.honest system armed (List.mem_append_right _ List.mem_cons_self)
  underway := h.underway.step h.orderly hs
  orderly := h.orderly.step hs
  custody := custody_step h.underway h.orderly.locks h.custody
    (hfaith.keys system event (List.mem_append_right _ List.mem_cons_self)) hs

end System

theorem Run.sound {db : Database} {capacity : Nat} {past : Past} {system : System}
    (h : Run (.start db capacity) past system) (hrest : db.AtRest) (hfaith : past.Faithful) :
    system.Sound := by
  induction h with
  | refl => exact System.sound_start hrest capacity
  | step _ hs ih => exact (ih hfaith.of_append).step hfaith hs

end Passbook
