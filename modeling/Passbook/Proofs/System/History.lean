import Passbook.Proofs.System.Frames

/-! # The past of a run

What the past of a run says about a task or a connection changes only by events that move the task or
touch the connection. A run has laid all that was published over the books that it started with
(`Run.books_eq`). -/

namespace Passbook

namespace Past

variable {past : Past} {system : System} {event : Event} {connection index : Nat}

theorem publications_concat (past : Past) (system : System) (event : Event) :
    Past.publications (past ++ [(system, event)]) =
      past.publications ++ (system.publication? event).toList := by
  unfold publications
  rw [List.filterMap_append]
  cases h : system.publication? event <;> simp [h]

theorem publicationsOf_concat (past : Past) (system : System) (event : Event)
    (connection : Nat) :
    Past.publicationsOf (past ++ [(system, event)]) connection =
      past.publicationsOf connection ++
        ((system.publication? event).toList.filter (·.1 == connection)).map (·.2) := by
  unfold publicationsOf
  rw [publications_concat, List.filter_append, List.map_append]

theorem publicationsOf_of_ne (past : Past)
    (h : ∀ publication, system.publication? event = some publication → publication.1 ≠ connection) :
    Past.publicationsOf (past ++ [(system, event)]) connection = past.publicationsOf connection := by
  rw [publicationsOf_concat]
  cases hp : system.publication? event with
  | none => simp
  | some publication => simp [h publication hp]

theorem publicationsOf_of_not_touched (past : Past) (h : connection ∉ system.touched event) :
    Past.publicationsOf (past ++ [(system, event)]) connection = past.publicationsOf connection :=
  publicationsOf_of_ne past fun _ => System.publication?_of_not_touched h

theorem writes_concat (past : Past) (system : System) (event : Event) (index : Nat) :
    Past.writes (past ++ [(system, event)]) index =
      ((system.written? event).toList.filter (·.1 == index)).foldl
        (fun books written => books.overlay written.2) (past.writes index) := by
  unfold writes
  rw [List.filterMap_append, List.filter_append, List.foldl_append]
  cases h : system.written? event <;> simp [h]

theorem refused_concat (past : Past) (system : System) (event : Event) (index : Nat) :
    Past.refused (past ++ [(system, event)]) index =
      (past.refused index ||
        (system.told? event).any fun told =>
          told.index == index && Statement.refuses told.answer) := by
  unfold refused answers
  rw [List.filterMap_append, List.any_append]
  cases h : system.told? event <;> simp [h]

theorem sent_concat {statement : Statement} :
    Past.Sent (past ++ [(system, event)]) index statement ↔
      past.Sent index statement ∨ system.sent? event = some (index, statement) := by
  unfold Sent
  rw [List.filterMap_append, List.mem_append]
  simp

theorem took_concat :
    Past.Took (past ++ [(system, event)]) index connection ↔
      past.Took index connection ∨ system.taken? event = some (index, connection) := by
  unfold Took
  rw [List.filterMap_append, List.mem_append]
  simp

theorem publicationsOf_of_told_none (past : Past) (h : system.told? event = none)
    (connection : Nat) :
    Past.publicationsOf (past ++ [(system, event)]) connection = past.publicationsOf connection := by
  rw [publicationsOf_concat, System.publication?_of_told_none h]
  simp

theorem publicationsOf_of_told (past : Past) {told : Told} (h : system.told? event = some told) :
    Past.publicationsOf (past ++ [(system, event)]) told.connection =
      past.publicationsOf told.connection ++
        (if told.ran then system.db.published? told.connection told.statement else none).toList := by
  rw [publicationsOf_concat, System.publication?_of_told h]
  split
  · cases system.db.published? told.connection told.statement <;> simp
  · simp

theorem writes_of_told_none (past : Past) (h : system.told? event = none) (index : Nat) :
    Past.writes (past ++ [(system, event)]) index = past.writes index := by
  rw [writes_concat, System.written?_of_told_none h]
  rfl

theorem writes_of_told (past : Past) {told : Told} (h : system.told? event = some told) :
    Past.writes (past ++ [(system, event)]) told.index = (past.writes told.index).overlay
      (if told.ran then system.db.written told.connection told.statement else .empty) := by
  rw [writes_concat, System.written?_of_told h]
  split <;> simp [Books.overlay_empty]

theorem refused_of_told_none (past : Past) (h : system.told? event = none) (index : Nat) :
    Past.refused (past ++ [(system, event)]) index = past.refused index := by
  rw [refused_concat, h]
  simp

theorem refused_of_told (past : Past) {told : Told} (h : system.told? event = some told) :
    Past.refused (past ++ [(system, event)]) told.index =
      (past.refused told.index || Statement.refuses told.answer) := by
  rw [refused_concat, h]
  simp

variable (past) (system) (h : event.mover? ≠ some index)
include h

theorem writes_of_not_moved :
    Past.writes (past ++ [(system, event)]) index = past.writes index := by
  rw [writes_concat]
  cases hw : system.written? event with
  | none => rfl
  | some written =>
    have hne : written.1 ≠ index := by
      rintro rfl
      exact h (System.written?_index hw)
    simp [hne]

theorem refused_of_not_moved :
    Past.refused (past ++ [(system, event)]) index = past.refused index := by
  rw [refused_concat]
  cases ht : system.told? event with
  | none => simp
  | some told =>
    have hne : told.index ≠ index := by
      rintro rfl
      exact h (System.touched_of_told ht).1
    simp [hne]

theorem sent_of_not_moved {statement : Statement} :
    Past.Sent (past ++ [(system, event)]) index statement ↔ past.Sent index statement := by
  rw [sent_concat]
  exact or_iff_left fun hs => h (System.sent?_index hs)

theorem took_of_not_moved :
    Past.Took (past ++ [(system, event)]) index connection ↔ past.Took index connection := by
  rw [took_concat]
  exact or_iff_left fun ht => h (System.taken?_index ht)

end Past

/-- Nothing has come from a task. -/
structure Past.Unmoved (past : Past) (index : Nat) : Prop where
  writes : past.writes index = .empty
  refused : past.refused index = false
  sent : ∀ statement, ¬ past.Sent index statement
  took : ∀ connection, ¬ past.Took index connection

theorem Past.Unmoved.concat {past : Past} {index : Nat} {event : Event} (h : past.Unmoved index)
    (system : System) (hm : event.mover? ≠ some index) :
    Past.Unmoved (past ++ [(system, event)]) index where
  writes := by rw [writes_of_not_moved past system hm, h.writes]
  refused := by rw [refused_of_not_moved past system hm, h.refused]
  sent statement := by rw [sent_of_not_moved past system hm]; exact h.sent statement
  took connection := by rw [took_of_not_moved past system hm]; exact h.took connection

namespace Run

variable {start middle system after last : System} {past later : Past} {event : Event}

theorem unmoved (h : Run start past system) {index : Nat} (hi : system.tasks.length ≤ index) :
    past.Unmoved index := by
  induction h with
  | refl =>
    exact ⟨rfl, rfl, fun _ => List.not_mem_nil, fun _ => List.not_mem_nil⟩
  | step _ hs ih =>
    have hle := System.length_le_step hs
    refine (ih (Nat.le_trans hle hi)).concat _ ?_
    intro hm
    have hlt := System.lt_length_of_mover hs hm
    omega

theorem publicationsOf_of_not_taken (h : Run start past system)
    (ho : System.Orderly [] [] start) {connection : Nat}
    (hc : system.nextConnection ≤ connection) : past.publicationsOf connection = [] := by
  induction h with
  | refl => rfl
  | @step past system _ _ hrun hs ih =>
    have hle := System.nextConnection_le hs
    have hfree : connection ∉ system.inUse := by
      intro hm
      have hlt := (hrun.orderly ho).lt_next connection hm
      omega
    rw [Past.publicationsOf_of_not_touched past
      (System.not_touched_of_free (hrun.orderly ho) hs hfree)]
    exact ih (Nat.le_trans hle hc)

/-- The committed books are those of the start with all that was published laid over them. -/
theorem books_eq (h : Run start past system) :
    system.db.books = (past.publications.map (·.2)).foldl Books.overlay start.db.books := by
  induction h with
  | refl => rfl
  | step hrun hs ih =>
    rw [System.books_step hs, Past.publications_concat, List.map_append, List.foldl_append, ← ih]
    cases System.publication? _ _ <;> rfl

theorem append (h : Run start past middle)
    (h' : Run middle later last) : Run start (past ++ later) last := by
  induction h' with
  | refl => rwa [List.append_nil]
  | step _ hs ih =>
    rw [← List.append_assoc]
    exact ih.step hs

theorem reply?_eq (h : Run start past system) {index : Nat} {reply : Reply}
    (hr : start.reply? index = some reply) : system.reply? index = some reply := by
  induction h with
  | refl => exact hr
  | step _ hs ih => exact System.reply?_step hs ih

theorem cons (hs : start.step event = some middle) (h : Run middle later last) :
    Run start ((start, event) :: later) last :=
  append (Run.step .refl hs) h

/-- A run is empty or has a first event. -/
theorem first (h : Run start past last) : past = [] ∧ last = start ∨
    ∃ event middle later, past = (start, event) :: later ∧ start.step event = some middle ∧
      Run middle later last := by
  induction h with
  | refl => exact .inl ⟨rfl, rfl⟩
  | @step past system after event hrun hs ih =>
    rcases ih with ⟨rfl, rfl⟩ | ⟨first, middle, later, rfl, hfirst, hlater⟩
    · exact .inr ⟨event, after, [], rfl, hs, .refl⟩
    · exact .inr ⟨first, middle, later ++ [(system, event)], rfl, hfirst, hlater.step hs⟩

/-- A run can be cut where one of its events happened. -/
theorem of_mem (h : Run start past system) {middle : System} (hm : (middle, event) ∈ past) :
    ∃ earlier next later, past = earlier ++ [(middle, event)] ++ later ∧
      Run start earlier middle ∧ middle.step event = some next ∧ Run next later system := by
  induction h with
  | refl => cases hm
  | @step past system after last hrun hs ih =>
    rcases List.mem_append.mp hm with hm | hm
    · obtain ⟨earlier, next, later, rfl, hearlier, hnext, hlater⟩ := ih hm
      exact ⟨earlier, next, later ++ [(system, last)], by simp, hearlier, hnext, hlater.step hs⟩
    · obtain ⟨rfl, rfl⟩ := Prod.mk.inj (List.mem_singleton.mp hm)
      exact ⟨past, after, [], by simp, hrun, hs, .refl⟩

end Run

/-- The past that a list of events becomes, and the system at its end, if they can happen in turn. -/
def System.trace? (system : System) : List Event → Option (Past × System)
  | [] => some ([], system)
  | event :: events =>
    (system.step event).bind fun after =>
      (after.trace? events).map fun (past, last) => ((system, event) :: past, last)

/-- Whether the events can happen in turn, and what comes of it passes a test. -/
def System.traces (system : System) (events : List Event) (test : Past → System → Bool) : Bool :=
  (system.trace? events).any fun traced => test traced.1 traced.2

theorem System.exists_of_traces {start : System} {events : List Event} {test : Past → System → Bool}
    (h : start.traces events test = true) :
    ∃ past last, start.trace? events = some (past, last) ∧ test past last = true := by
  obtain ⟨⟨past, last⟩, htrace, htest⟩ := (Option.any_eq_true ..).mp h
  exact ⟨past, last, htrace, htest⟩

theorem System.mem_of_trace? {start last : System} {event : Event} {events : List Event} {past : Past}
    (h : start.trace? (event :: events) = some (past, last)) : (start, event) ∈ past := by
  obtain ⟨_, _, h⟩ := Option.bind_eq_some_iff.mp h
  obtain ⟨_, _, h⟩ := Option.map_eq_some_iff.mp h
  cases h
  exact List.mem_cons_self

theorem System.events_of_trace? {start last : System} {events : List Event} {past : Past}
    (h : start.trace? events = some (past, last)) : past.map (·.2) = events := by
  induction events generalizing start past with
  | nil => cases h; rfl
  | cons event events ih =>
    obtain ⟨after, _, h⟩ := Option.bind_eq_some_iff.mp h
    obtain ⟨⟨later, _⟩, hlater, h⟩ := Option.map_eq_some_iff.mp h
    cases h
    rw [List.map_cons, ih hlater]

/-- What holds of all events of a trace holds of those of its past. -/
theorem System.forall_of_trace? {P : Event → Prop} {start last : System} {events : List Event}
    {past : Past} (h : start.trace? events = some (past, last)) (hevents : ∀ event ∈ events, P event) :
    ∀ before event, (before, event) ∈ past → P event := by
  intro before event hmem
  refine hevents event ?_
  rw [← events_of_trace? h]
  exact List.mem_map_of_mem hmem

theorem System.run_of_trace? {start last : System} {events : List Event} {past : Past}
    (h : start.trace? events = some (past, last)) : Run start past last := by
  induction events generalizing start past with
  | nil => cases h; exact .refl
  | cons event events ih =>
    obtain ⟨after, hs, h⟩ := Option.bind_eq_some_iff.mp h
    obtain ⟨⟨later, _⟩, hlater, h⟩ := Option.map_eq_some_iff.mp h
    cases h
    exact (ih hlater).cons hs

end Passbook
