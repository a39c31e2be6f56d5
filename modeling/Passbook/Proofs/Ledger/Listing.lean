import Passbook.Proofs.Database.Origins
import Passbook.Proofs.Ledger.Dealt

/-! # Listings

The listing of an account shows its committed entries by time, and by identifier at equal times
(`Books.Lists`). The time of an entry is that at which its transaction began (`Past.Dates`), while the
order in which entries are applied is that of the commits. The two agree exactly if the applied
entries are in the order of the listing already (`listing_by_beginning`); a transaction that begins
early and transfers late is listed before what was applied while it was open
(`listing_against_application`). -/

namespace Passbook

open Entry

/-! ## The order of entries -/

namespace Instant

theorem le_iff {a b : Instant} : a.le b = true ↔
    a.seconds < b.seconds ∨ a.seconds = b.seconds ∧ a.nanos ≤ b.nanos := by
  simp [le]

theorem ext_iff {a b : Instant} : a = b ↔ a.seconds = b.seconds ∧ a.nanos = b.nanos := by
  cases a
  cases b
  simp

end Instant

namespace Entry

variable {a b c : Entry}

theorem le_iff : a.le b = true ↔ a.createdAt = b.createdAt ∧ a.id.bits ≤ b.id.bits ∨
    a.createdAt ≠ b.createdAt ∧ a.createdAt.le b.createdAt = true := by
  unfold le Uuid.le
  split <;> simp [*]

theorem le_trans (hab : a.le b = true) (hbc : b.le c = true) : a.le c = true := by
  simp only [le_iff, Instant.le_iff, Instant.ext_iff, BitVec.le_def, ne_eq] at hab hbc ⊢
  omega

theorem le_total (a b : Entry) : (a.le b || b.le a) = true := by
  simp only [Bool.or_eq_true, le_iff, Instant.le_iff, Instant.ext_iff, BitVec.le_def, ne_eq]
  omega

end Entry

/-- How the rows of a listing stand to the entries of an account, as these were applied to an opening
balance. -/
structure Books.Lists (opening : Int) (books : Books) (id : Int) (rows : List Entry) : Prop where
  applied : Leads opening (about id books.entries) (books.balance id)
  committed : rows.Perm (about id books.entries)
  sorted : rows.Pairwise fun a b => a.le b = true
  inOrder : rows = about id books.entries ↔
    (about id books.entries).Pairwise fun a b => a.le b = true

theorem Books.Posted.lists {start books : Books} {postings : List Posting}
    (h : start.Posted postings books) (hnone : start.entries = []) (id : Int) :
    books.Lists (start.balance id) id (books.entriesOf id) := by
  have hsorted : (books.entriesOf id).Pairwise fun a b => a.le b = true :=
    @List.pairwise_mergeSort _ Entry.le (fun _ _ _ => Entry.le_trans) Entry.le_total _
  refine ⟨?_, List.mergeSort_perm _ _, hsorted, fun heq => heq ▸ hsorted, List.mergeSort_of_pairwise⟩
  rw [h.entries, hnone, List.nil_append]
  exact h.leads id

/-- Of two entries the one that is earlier by the order of entries is listed first. -/
theorem Books.Lists.eq_of_pair {opening id : Int} {books : Books} {rows : List Entry}
    {first second : Entry} (h : books.Lists opening id rows)
    (hpair : about id books.entries = [first, second]) (hle : first.le second = false) :
    rows = [second, first] := by
  have hperm := h.committed
  rw [hpair] at hperm
  obtain ⟨a, b, rfl⟩ := List.length_eq_two.mp hperm.length_eq
  rcases List.mem_pair.mp (hperm.mem_iff.mp List.mem_cons_self) with rfl | rfl
  · obtain rfl := List.singleton_perm_singleton.mp hperm.cons_inv
    have hsorted := h.sorted
    rw [List.pairwise_pair, hle] at hsorted
    cases hsorted
  · rw [List.singleton_perm_singleton.mp (hperm.trans (.swap ..)).cons_inv]

/-! ## The times of entries -/

/-- The connection on which a transaction begins by an event, and the clock of the database. -/
def System.beginning? (system : System) (event : Event) : Option (Nat × Instant) :=
  (system.told? event).bind fun told =>
    if told.statement = .begin ∧ told.ran = true ∧ told.answer.toBool = true ∧
        (system.db.transaction? told.connection).isNone = true then
      some (told.connection, system.db.clock)
    else none

namespace Past

/-- The last of the times that events have shown of the connection. -/
def last? (past : Past) (times : System → Event → Option (Nat × Instant)) (connection : Nat) :
    Option Instant :=
  (past.filterMap fun (system, event) => times system event).reverse.lookup connection

/-- The time at which a transaction began on the connection for the last time. -/
def begun? (past : Past) (connection : Nat) : Option Instant :=
  past.last? System.beginning? connection

/-- The time at which a statement arrived on the connection for the last time that stood alone and had
to wait. -/
def arrived? (past : Past) (connection : Nat) : Option Instant :=
  past.last? System.waiting? connection

/-- What the connection takes to be the present: the time at which the transaction began that is open
on it. That of a statement that stands alone began when the statement arrived, which is now if it has
not waited. -/
def present? (past : Past) (db : Database) (connection : Nat) : Option Instant :=
  if (db.transaction? connection).isSome then past.begun? connection
  else if (db.session connection).waiting.isSome then past.arrived? connection
  else some db.clock

/-- The entry became public from a connection that took its time to be the present. -/
def Dates (past : Past) (entry : Entry) : Prop :=
  ∃ earlier system event later connection published,
    past = earlier ++ [(system, event)] ++ later ∧
      system.publication? event = some (connection, published) ∧ entry ∈ published.entries ∧
      Past.present? earlier system.db connection = some entry.createdAt

variable {past : Past} {times : System → Event → Option (Nat × Instant)} {system : System}
  {event : Event} {connection : Nat} {time : Instant}

theorem last?_concat (past : Past) (times : System → Event → Option (Nat × Instant))
    (system : System) (event : Event) (connection : Nat) :
    last? (past ++ [(system, event)]) times connection =
      ((times system event).toList.lookup connection).or (past.last? times connection) := by
  rw [last?, List.filterMap_append, List.reverse_append, List.lookup_append]
  cases ht : times system event <;> simp [last?, ht]

theorem last?_of_times (h : times system event = some (connection, time)) :
    last? (past ++ [(system, event)]) times connection = some time := by
  rw [last?_concat, h]
  simp

/-- What is known of a connection is not changed by an event that shows nothing of it. -/
theorem last?_of_ne (h : ∀ time, times system event ≠ some (connection, time)) :
    last? (past ++ [(system, event)]) times connection = past.last? times connection := by
  rw [last?_concat]
  cases ht : times system event with
  | none => rfl
  | some shown =>
    obtain ⟨other, time⟩ := shown
    have hne : connection ≠ other := fun heq => h time (by rw [ht, heq])
    simp [List.lookup_cons, beq_false_of_ne hne]

theorem begun?_of_open {transaction : Transaction}
    (ht : system.db.transaction? connection = some transaction) :
    begun? (past ++ [(system, event)]) connection = past.begun? connection := by
  refine last?_of_ne fun time hbeginning => ?_
  obtain ⟨told, -, hif⟩ := Option.bind_eq_some_iff.mp hbeginning
  split at hif
  · rename_i hbegins
    cases hif
    simpa [ht] using hbegins.2.2.2
  · cases hif

theorem arrived?_of_waiting (hw : (system.db.session connection).waiting = some time) :
    arrived? (past ++ [(system, event)]) connection = past.arrived? connection := by
  refine last?_of_ne fun time hwaiting => ?_
  cases event with
  | move move =>
    obtain ⟨arrival, -, harrival⟩ := Option.bind_eq_some_iff.mp hwaiting
    unfold System.Arrival.waiting? at harrival
    split at harrival
    · dsimp only at harrival
      split at harrival
      · cases harrival
        simp_all
      · cases harrival
    · cases harrival
  | _ => cases hwaiting

end Past

namespace Database

/-- The time at which the open transaction of a connection began is known from the past, and what it
writes carries that time; and it is known when a statement arrived that waits. -/
structure Dated (past : Past) (db : Database) : Prop where
  begun : ∀ connection transaction, db.transaction? connection = some transaction →
    past.begun? connection = some transaction.began
  dates : ∀ connection transaction, db.transaction? connection = some transaction →
    ∀ entry ∈ transaction.changes.entries, entry.createdAt = transaction.began
  arrived : ∀ connection time, (db.session connection).waiting = some time →
    past.arrived? connection = some time

variable {past : Past} {db db' : Database} {connection : Nat} {books : Books}

/-- Nothing is open and nothing waits that did not before. -/
theorem Dated.of_sessions (h : db.Dated past)
    (hsame : ∀ other transaction, db'.transaction? other = some transaction →
      db.transaction? other = some transaction)
    (hwaiting : ∀ other time, (db'.session other).waiting = some time →
      (db.session other).waiting = some time) : db'.Dated past where
  begun other transaction ht := h.begun other transaction (hsame other transaction ht)
  dates other transaction ht := h.dates other transaction (hsame other transaction ht)
  arrived other time hw := h.arrived other time (hwaiting other time hw)

/-- A statement has arrived that waits. -/
theorem Dated.wait (h : db.Dated past)
    (hfirst : (db.session connection).waiting = none → past.arrived? connection = some db.clock) :
    (db.wait connection).Dated past := by
  refine ⟨fun other transaction ht => ?_, fun other transaction ht => ?_, fun other time hw => ?_⟩
  · rw [transaction?_wait] at ht
    exact h.begun other transaction ht
  · rw [transaction?_wait] at ht
    exact h.dates other transaction ht
  · rcases of_waiting_wait hw with hbefore | ⟨rfl, hnone, rfl⟩
    · exact h.arrived other time hbefore
    · exact hfirst hnone

/-- A statement has been answered, and it is known if a transaction has begun by it. -/
theorem Dated.tells {Allowed : Twist → Prop} {statement : Statement} {ran : Bool}
    {answer : statement.Answer} (h : db.Dated past)
    (htells : db.Tells Allowed connection statement db' ran answer)
    (hbegins : statement = .begin → ran = true → answer.toBool = true →
      db.transaction? connection = none → past.begun? connection = some db.clock) :
    db'.Dated past := by
  refine ⟨fun other transaction ht => ?_, fun other transaction ht entry hmem => ?_,
    fun other time hw => h.arrived other time (htells.waiting hw)⟩
  · by_cases hc : other = connection
    · subst hc
      cases htells.origin ht with
      | continued former hformer hbegan =>
        rw [hbegan]
        exact h.begun other former hformer
      | begun hbegin hran hok hnone hbegan =>
        rw [hbegan]
        exact hbegins hbegin hran hok hnone
    · rw [(htells.untouched hc).transaction?] at ht
      exact h.begun other transaction ht
  · by_cases hc : other = connection
    · subst hc
      cases htells.origin ht with
      | continued former hformer hbegan hchanges =>
        rw [hbegan]
        rw [hchanges] at hmem
        rcases List.mem_append.mp hmem with hmem | hmem
        · exact h.dates other former hformer entry hmem
        · split at hmem
          · rw [createdAt_of_written hmem, surroundings, hformer]
            rfl
          · cases hmem
      | begun _ _ _ _ _ hchanges =>
        rw [hchanges] at hmem
        cases hmem
    · rw [(htells.untouched hc).transaction?] at ht
      exact h.dates other transaction ht entry hmem

/-- The time that a statement finds is what its connection takes to be the present. -/
theorem Dated.present? (h : db.Dated past) (connection : Nat) :
    past.present? db connection = some (db.surroundings connection).now := by
  unfold Past.present? surroundings
  cases ht : db.transaction? connection with
  | some transaction => exact h.begun connection transaction ht
  | none =>
    cases hw : (db.session connection).waiting with
    | some time => exact h.arrived connection time hw
    | none => rfl

/-- What becomes public carries what its connection takes to be the present. -/
theorem Dated.published (h : db.Dated past) {statement : Statement}
    (hp : db.published? connection statement = some books) :
    ∀ entry ∈ books.entries, past.present? db connection = some entry.createdAt := by
  intro entry hmem
  rcases published?_cases hp with ⟨transaction, ht, -, -, rfl⟩ | ⟨ht, -, rfl⟩
  · rw [h.present?, h.dates connection transaction ht entry hmem, surroundings, ht]
    rfl
  · rw [h.present?, createdAt_of_written hmem]

end Database

namespace System

open Database

variable {past : Past} {system after : System} {event : Event}

theorem dated_step (hu : system.Underway) (hs : system.step event = some after)
    (h : system.db.Dated past) : after.db.Dated (past ++ [(system, event)]) := by
  have hstill : system.db.Dated (past ++ [(system, event)]) := by
    refine ⟨fun connection transaction ht => ?_, h.dates, fun connection time hw => ?_⟩
    · rw [Past.begun?_of_open ht]
      exact h.begun connection transaction ht
    · rw [Past.arrived?_of_waiting hw]
      exact h.arrived connection time hw
  refine database_step (P := Dated (past ++ [(system, event)])) hu hs hstill ?_ ?_ ?_ ?_ ?_ ?_
  · exact fun db connection unended h => h.of_sessions
      (fun other _ ht => by rwa [transaction?_note] at ht) fun other _ hw => by
        rwa [waiting_note] at hw
  · exact fun connection _ hfirst => hstill.wait fun hw => Past.last?_of_times (hfirst hw)
  · exact fun db connection h => h.of_sessions (fun _ _ ht => transaction?_of_close ht)
      fun _ _ hw => waiting_of_close hw
  · exact fun _ _ _ h => ⟨h.begun, h.dates, h.arrived⟩
  · exact fun _ _ _ h => ⟨h.begun, h.dates, h.arrived⟩
  · intro told db htold htells
    refine hstill.tells htells fun hbegin hran hok hnone => Past.last?_of_times ?_
    simp [beginning?, htold, hbegin, hran, hok, hnone]

end System

variable {db : Database} {capacity : Nat} {past : Past} {system : System}

theorem Run.dated (h : Run (.start db capacity) past system) (hrest : db.AtRest) :
    system.db.Dated past := by
  induction h with
  | refl =>
    have hfresh : ∀ connection, (System.start db capacity).db.session connection = .fresh :=
      fun connection => by simp [System.start, Database.session, hrest.sessions]
    refine ⟨fun connection _ ht => ?_, fun connection _ ht => ?_, fun connection _ hw => ?_⟩
    · simp [Database.transaction?, hfresh, Session.fresh] at ht
    · simp [Database.transaction?, hfresh, Session.fresh] at ht
    · simp [hfresh, Session.fresh] at hw
  | step hrun hs ih =>
    exact System.dated_step (hrun.underway (System.orderly_start hrest capacity)
      (System.underway_start db capacity)) hs ih

/-- Every entry that was committed since the start has its time from the past. -/
theorem Run.dates (h : Run (.start db capacity) past system) (hrest : db.AtRest) :
    ∀ entry ∈ system.db.books.entries, entry ∈ db.books.entries ∨ past.Dates entry := by
  induction h with
  | refl => exact fun entry hmem => .inl hmem
  | @step past system after event hrun hs ih =>
    intro entry hmem
    have hold : entry ∈ system.db.books.entries →
        entry ∈ db.books.entries ∨ Past.Dates (past ++ [(system, event)]) entry := by
      intro hmem
      refine (ih entry hmem).imp_right ?_
      rintro ⟨earlier, middle, applying, later, connection, published, rfl, hdates⟩
      exact ⟨earlier, middle, applying, later ++ [(system, event)], connection, published,
        by simp, hdates⟩
    rw [System.books_step hs] at hmem
    cases hp : system.publication? event with
    | none =>
      rw [hp] at hmem
      exact hold hmem
    | some publication =>
      obtain ⟨connection, published⟩ := publication
      rw [hp] at hmem
      rcases List.mem_append.mp hmem with hmem | hmem
      · exact hold hmem
      · refine .inr ⟨past, system, event, [], connection, published, by simp, hp, hmem, ?_⟩
        obtain ⟨told, -, hif⟩ := Option.bind_eq_some_iff.mp hp
        split at hif
        · obtain ⟨_, hpublished, heq⟩ := Option.map_eq_some_iff.mp hif
          cases heq
          exact (hrun.dated hrest).published hpublished entry hmem
        · cases hif

namespace System

/-- The listing of an account that a task is told of outside of a transaction. -/
def listed? (system : System) (event : Event) : Option (Int × List Entry) :=
  (system.told? event).bind fun
    | ⟨_, connection, .selectEntriesOf account, _, .ok rows⟩ =>
      if (system.db.transaction? connection).isNone then some (account, rows) else none
    | _ => none

variable {event : Event} {Allowed : Twist → Prop}

theorem tells_of_told {told : Told} (hT : system.Twists Allowed) (hu : system.Underway)
    (h : system.told? event = some told) :
    ∃ db, system.db.Tells Allowed told.connection told.statement db told.ran told.answer := by
  cases event with
  | move move =>
    obtain ⟨arrival, harrival, -⟩ := Option.bind_eq_some_iff.mp h
    have ha := arrives hT harrival
    have hheard := heard_of_arrives hu harrival ha ha.task ha.connection ha.stage
    generalize arrival.system.settle arrival.sending arrival.fate = after at hheard
    cases hheard with
    | held _ _ hnone => cases hnone.symm.trans h
    | told ran answer htold _ htells =>
      obtain rfl := Option.some.inj (htold.symm.trans h)
      exact ⟨_, htells⟩
  | _ => cases h

/-- A listing is that of the committed books. -/
theorem Sound.listed {id : Int} {rows : List Entry} (h : system.Sound)
    (hlisted : system.listed? event = some (id, rows)) : rows = system.db.books.entriesOf id := by
  obtain ⟨told, htold, hlisted⟩ := Option.bind_eq_some_iff.mp hlisted
  split at hlisted
  · split at hlisted <;> cases hlisted
    rename_i hnone
    obtain ⟨db, htells⟩ := tells_of_told h.twists h.underway htold
    obtain ⟨effect, he, hrows⟩ := htells.rows rfl
    rw [Database.view, Option.isNone_iff_eq_none.mp hnone] at he
    cases he
    exact hrows
  · cases hlisted

end System

/-- Whenever callers only deal with a ledger that had no entries, a listing shows what was committed
to the account by the times at which the transactions began, and this is the order of application
exactly if the entries were applied in that order. -/
theorem listing_by_beginning (hrest : db.AtRest) (hnone : db.books.entries = [])
    (hrun : Run (.start db capacity) past system) (hfaith : past.Faithful)
    (hdeals : ∀ before event, (before, event) ∈ past → event.Deals) {event : Event} {id : Int}
    {rows : List Entry} (hlisted : system.listed? event = some (id, rows)) :
    system.db.books.Lists (db.books.balance id) id rows ∧ ∀ row ∈ rows, past.Dates row := by
  obtain ⟨postings, owner, hdealt⟩ := hrun.dealt hrest hfaith hdeals
  obtain rfl := (hrun.sound hrest hfaith).listed hlisted
  have hlists := hdealt.posted.lists hnone id
  refine ⟨hlists, fun row hmem => ?_⟩
  have hcommitted := List.mem_of_mem_filter (hlists.committed.mem_iff.mp hmem)
  rcases hrun.dates hrest row hcommitted with hold | hdates
  · rw [hnone] at hold
    cases hold
  · exact hdates

/-- Somebody who has an operation done that stands alone. -/
def Event.alone (operation : Operation) : Event :=
  .spawn [] none (operation.work .default .pooled [])

theorem Event.deals_alone {operation : Operation} (h : operation.isDealing = true) :
    (Event.alone operation).Deals :=
  Operation.dealing_work .default [] h

@[simp] theorem Event.deals_move (move : Move) : (Event.move move).Deals := trivial

@[simp] theorem Event.deals_tick (clock : Instant) : (Event.tick clock).Deals := trivial

/-- A transfer of the amount from the first account of a pair to the second. -/
def pairTransfer (amount : Int) : Operation :=
  .transfer .nil (.number 1000000001) (.number 1000000002) amount

/-- Two transfers, one after the other on the clock, and then a listing. -/
def orderedEvents : List Event :=
  [.alone (pairTransfer 10), .move (.connect 0), .move (.send 0), .move (.send 0), .move (.send 0),
    .move (.send 0), .move (.send 0), .move (.send 0), .move (.send 0), .move (.send 0),
    .tick ⟨1, 0⟩, .alone (pairTransfer 5), .move (.connect 1), .move (.send 1), .move (.send 1),
    .move (.send 1), .move (.send 1), .move (.send 1), .move (.send 1), .move (.send 1),
    .move (.send 1), .alone (.entriesOf (.number 1000000001)), .move (.connect 2)]

theorem deals_orderedEvents : ∀ event ∈ orderedEvents, event.Deals := by
  simp only [orderedEvents, List.forall_mem_cons, Event.deals_move, Event.deals_tick, true_and]
  exact ⟨Event.deals_alone rfl, Event.deals_alone rfl, Event.deals_alone rfl,
    List.forall_mem_nil _⟩

/-- The first transfer is listed before the second. -/
theorem listing_by_beginning_ordered : ∃ past system event rows,
    Run (.start pairLedger 2) past system ∧ system.listed? event = some (1000000001, rows) ∧
      system.db.books.Lists 50 1000000001 rows ∧ (∀ row ∈ rows, past.Dates row) ∧
      rows = about 1000000001 system.db.books.entries ∧ rows.map (·.balanceAfter) = [40, 35] := by
  have htrace : (System.start pairLedger 2).traces orderedEvents (fun past system =>
      past.isPlain ∧ (system.listed? (.move (.send 2))).any (·.1 = 1000000001) ∧
        ((about 1000000001 system.db.books.entries).Pairwise fun a b => a.le b = true) ∧
        (about 1000000001 system.db.books.entries).map (·.balanceAfter) = [40, 35]) = true := rfl
  obtain ⟨past, system, htrace, hend⟩ := System.exists_of_traces htrace
  obtain ⟨hplain, hlisted, hsorted, hbalances⟩ := of_decide_eq_true hend
  obtain ⟨⟨_, rows⟩, hlisted, hid⟩ := (Option.any_eq_true ..).mp hlisted
  obtain rfl := of_decide_eq_true hid
  have hrun := System.run_of_trace? htrace
  have hdeals := System.forall_of_trace? htrace deals_orderedEvents
  obtain ⟨hlists, hdates⟩ :=
    listing_by_beginning ⟨rfl, rfl⟩ rfl hrun (.of_isPlain hplain) hdeals hlisted
  have hrows := hlists.inOrder.mpr hsorted
  exact ⟨past, system, _, rows, hrun, hlisted, hlists, hdates, hrows, by rw [hrows, hbalances]⟩

/-- Somebody opens a transaction and, when the clock has moved on and somebody else has transferred
10, transfers 5 in it. -/
def overtakenEvents : List Event :=
  [.spawn [] none (Scenario.opening none), .move (.connect 0), .move (.send 0), .tick ⟨1, 0⟩,
    .alone (pairTransfer 10), .move (.connect 1), .move (.send 1), .move (.send 1), .move (.send 1),
    .move (.send 1), .move (.send 1), .move (.send 1), .move (.send 1), .move (.send 1),
    .spawn [0] none ((pairTransfer 5).work .default .callers []), .move (.send 2), .move (.send 2),
    .move (.send 2), .move (.send 2), .move (.send 2), .move (.send 2),
    .spawn [0] none (Scenario.closing .commit), .move (.send 3),
    .alone (.entriesOf (.number 1000000001)), .move (.connect 4)]

theorem deals_overtakenEvents : ∀ event ∈ overtakenEvents, event.Deals := by
  simp only [overtakenEvents, List.forall_mem_cons, Event.deals_move, Event.deals_tick, true_and]
  exact ⟨.opens none, Event.deals_alone rfl, .within 0 (Operation.deals_work .default [] rfl),
    .closes 0 rfl, Event.deals_alone rfl, List.forall_mem_nil _⟩

/-- A listing that is not in the order of application, and in which the balances do not follow from
one another: the transfer of 5 left 35 and is listed before that of 10, which left 40. -/
theorem listing_against_application : ∃ past system event rows,
    Run (.start pairLedger 2) past system ∧ past.Faithful ∧
      (∀ before event, (before, event) ∈ past → event.Deals) ∧
      system.listed? event = some (1000000001, rows) ∧
      rows.map (·.balanceAfter) = [35, 40] ∧
      (about 1000000001 system.db.books.entries).map (·.balanceAfter) = [40, 35] ∧
      ∀ balance, ¬ Leads 50 rows balance := by
  have htrace : (System.start pairLedger 2).traces overtakenEvents (fun past system =>
      past.isPlain ∧ (system.listed? (.move (.send 4))).any (·.1 = 1000000001) ∧
        (about 1000000001 system.db.books.entries).map (fun entry =>
          (entry.balanceAfter, entry.signed, entry.createdAt)) =
            [(40, -10, ⟨1, 0⟩), (35, -5, ⟨0, 0⟩)]) = true := rfl
  obtain ⟨past, system, htrace, hend⟩ := System.exists_of_traces htrace
  obtain ⟨hplain, hlisted, happlied⟩ := of_decide_eq_true hend
  obtain ⟨⟨_, rows⟩, hlisted, hid⟩ := (Option.any_eq_true ..).mp hlisted
  obtain rfl := of_decide_eq_true hid
  have hrun := System.run_of_trace? htrace
  have hfaith : past.Faithful := .of_isPlain hplain
  have hdeals := System.forall_of_trace? htrace deals_overtakenEvents
  obtain ⟨postings, owner, hdealt⟩ := hrun.dealt ⟨rfl, rfl⟩ hfaith hdeals
  have hlists := hdealt.posted.lists rfl 1000000001
  rw [← (hrun.sound ⟨rfl, rfl⟩ hfaith).listed hlisted] at hlists
  obtain ⟨ten, five, hpair⟩ : ∃ ten five, about 1000000001 system.db.books.entries = [ten, five] := by
    have hlength := congrArg List.length happlied
    rw [List.length_map] at hlength
    exact List.length_eq_two.mp hlength
  rw [hpair] at happlied
  simp only [List.map_cons, List.map_nil, List.cons.injEq, Prod.mk.injEq, and_true] at happlied
  obtain ⟨⟨hten, -, hlate⟩, hfive, hsigned, hearly⟩ := happlied
  have hrows : rows = [five, ten] := by
    refine hlists.eq_of_pair hpair ?_
    rw [le, hlate, hearly]
    rfl
  refine ⟨past, system, _, rows, hrun, hfaith, hdeals, hlisted, by simp [hrows, hten, hfive],
    by simp [hpair, hten, hfive], fun balance hleads => ?_⟩
  rw [hrows] at hleads
  cases hleads with
  | cons hentry _ => omega

end Passbook
