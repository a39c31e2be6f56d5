import Mathlib.Data.Nat.Basic
import Mathlib.Data.Set.Operations
import Mathlib.Order.Interval.Set.Defs
import Passbook.Proofs.Footing.Follows
import Passbook.Proofs.Footing.Kept
import Passbook.Proofs.Ledger.Dealings

/-! # Dealings throughout a run

However the dealings of any number of callers are interleaved, and whatever fails on the way, every
open transaction balances or can no longer be committed (`System.Dealt`). What is committed has been
drawn under numbers of its own: each number belongs to one connection at most, and to none when it has
been used. One lemma says what an event leaves of this (`Dealt.of_acts`); it is for the task that acts
to show that it deals with the ledger. -/

namespace Passbook

/-- Whoever comes deals with the ledger. -/
def Event.Deals : Event → Prop
  | .spawn connections _ work => Dealing connections work
  | _ => True

/-- A statement that stands alone and adds an account adds one that is empty, or nothing. -/
theorem Database.balances_written {db : Database} {connection : Nat} {statement : Statement}
    (ht : db.transaction? connection = none) (hs : statement.name = .insertAccount) :
    db.books.Balances (db.written connection statement) [] ∧
      (db.written connection statement).Keyed := by
  cases statement with
  | insertAccount id owner kind =>
    have hview : db.view connection = db.books := by simp [view, ht]
    have hrefuses : db.refusesAborted connection (.insertAccount id owner kind) = false :=
      refusesAborted_of_closed ht
    rw [written, hrefuses, hview]
    simp only [Bool.false_eq_true, if_false, Statement.effect]
    cases hrow : Statement.newAccount (db.surroundings connection) db.books id owner kind with
    | error => exact ⟨.empty db.books, List.nodup_nil⟩
    | ok row =>
      obtain ⟨hid, hzero, hfree⟩ := Statement.newAccount_ok hrow
      exact ⟨.created (by rw [hid]; exact hfree) hzero, List.nodup_singleton _⟩
  | selectAccount lookup =>
    rw [Statement.name] at hs
    split at hs <;> cases hs
  | _ => cases hs

namespace System

open Database

variable {start : Database} {postings : List Posting} {owner : Nat → Option Nat}
  {system after : System} {event : Event} {index : Nat} {task : Task}

/-! ## Serial numbers and their owners -/

/-- The serial number belongs to one of the connections. -/
def Owned (owner : Nat → Option Nat) (connections : List Nat) (serial : Nat) : Prop :=
  owner serial ∈ connections.map some

instance (owner : Nat → Option Nat) (connections : List Nat) (serial : Nat) :
    Decidable (Owned owner connections serial) :=
  inferInstanceAs (Decidable (_ ∈ _))

/-- The serial number is one that the task may use that acts: it belongs to one of its connections, or
it has not been drawn yet. -/
def Usable (owner : Nat → Option Nat) (next : Nat) (connections : List Nat) (serial : Nat) : Prop :=
  next ≤ serial ∨ Owned owner connections serial

instance (owner : Nat → Option Nat) (next : Nat) (connections : List Nat) (serial : Nat) :
    Decidable (Usable owner next connections serial) :=
  inferInstanceAs (Decidable (_ ∨ _))

/-- The owners after an event: what the task might use that has acted, it owns on its connection then,
but what was used is spent. -/
def handOn (owner : Nat → Option Nat) (next : Nat) (former : List Nat) (latter : Option Nat)
    (used : List Nat) (serial : Nat) : Option Nat :=
  if serial ∈ used then none
  else if Usable owner next former serial then latter
  else owner serial

section

variable {next serial : Nat} {former connections : List Nat} {latter : Option Nat} {used : List Nat}

theorem Owned.isSome (h : Owned owner connections serial) : (owner serial).isSome = true := by
  obtain ⟨connection, -, hown⟩ := List.mem_map.mp h
  rw [← hown]
  rfl

theorem handOn_used (h : serial ∈ used) : handOn owner next former latter used serial = none :=
  if_pos h

theorem handOn_latter (h : Usable owner next former serial) :
    handOn owner next former latter [] serial = latter := by
  rw [handOn, if_neg List.not_mem_nil, if_pos h]

theorem handOn_kept (hlt : serial < next) (h : ¬ Owned owner former serial)
    (hused : ∀ serial ∈ used, Owned owner former serial) :
    handOn owner next former latter used serial = owner serial := by
  rw [handOn, if_neg fun hmem => h (hused serial hmem), if_neg]
  rintro (hle | hown)
  · exact Nat.not_le.mpr hlt hle
  · exact h hown

/-- What has an owner has been drawn. -/
theorem le_of_handOn {first : Nat} (hnext : first ≤ next)
    (hdrawn : ∀ serial, (owner serial).isSome = true → first ≤ serial)
    (h : (handOn owner next former latter used serial).isSome = true) : first ≤ serial := by
  unfold handOn at h
  split at h
  · cases h
  · split at h
    · rename_i husable
      rcases husable with hle | hown
      · exact Nat.le_trans hnext hle
      · exact hdrawn serial hown.isSome
    · exact hdrawn serial h

/-- What others own they keep. -/
theorem Owned.handOn (h : Owned owner connections serial) (hlt : serial < next)
    (hapart : ∀ connection ∈ connections, connection ∉ former)
    (hused : ∀ serial ∈ used, Owned owner former serial) :
    Owned (handOn owner next former latter used) connections serial := by
  obtain ⟨connection, hmem, hown⟩ := List.mem_map.mp h
  have hnot : ¬ Owned owner former serial := by
    intro hformer
    obtain ⟨other, hother, hsame⟩ := List.mem_map.mp hformer
    obtain rfl := Option.some.inj (hsame.trans hown.symm)
    exact hapart _ hmem hother
  rw [Owned, handOn_kept hlt hnot hused]
  exact h

end

/-! ## The invariant -/

/-- The task deals with the ledger from where it stands, and the serial numbers of its transaction are
its own. -/
def Works (owner : Nat → Option Nat) (system : System) (task : Task) : Prop :=
  ∃ footing : Footing,
    footing.ground.At (Owned owner task.connections) system.db task.connections ∧
      task.stage.work.Upholds dealing Rests footing

/-- What has been posted since the start, and who owns which serial number: the connection whose
transaction has drawn it, but nobody any more when it has been used. -/
structure Dealt (start : Database) (postings : List Posting) (owner : Nat → Option Nat)
    (system : System) : Prop where
  posted : start.books.Posted postings system.db.books
  distinct : (postings.map (·.draw.serial)).Nodup
  draws : system.db.draws = start.draws
  later : start.serial ≤ system.db.serial
  drawn : ∀ serial, (owner serial).isSome = true → start.serial ≤ serial
  spent : ∀ posting ∈ postings, posting.draw.serial ∈ Set.Ico start.serial system.db.serial ∧
    start.draws.draw posting.draw.serial = posting.draw ∧ owner posting.draw.serial = none
  works : ∀ (index : Nat) (task : Task), system.tasks[index]? = some task →
    task.stage.isFinished = false → system.Works owner task
  idle : ∀ connection, system.isIdle connection = true →
    ∃ ground : Ground, ground.Of (Owned owner [connection]) system.db connection ∧ ground.Dealt

theorem dealt_start (db : Database) (capacity : Nat) :
    Dealt db [] (fun _ => none) (.start db capacity) where
  posted := .refl db.books
  distinct := List.nodup_nil
  draws := rfl
  later := Nat.le_refl _
  drawn _ h := by cases h
  spent := List.forall_mem_nil _
  works _ _ ht := by simp [start] at ht
  idle _ hidle := by simp [isIdle, start] at hidle

/-- The rollback of a transaction that was left behind publishes nothing. -/
theorem works_cleanup (h : system.db.Custody) (owner : Nat → Option Nat) (connection : Nat) :
    system.Works owner (.cleanup connection) := by
  obtain ⟨ground, hof⟩ := Ground.Of.exists h (Owned owner [connection]) connection
  refine ⟨⟨[], ground⟩, hof, fun ground' hsways => ?_⟩
  have hallows : dealing.Allows .rollback ground' := by
    cases hsways with
    | same =>
      cases ground with
      | outside => exact hof.elim
      | closed => exact nofun
      | drafting | broken => exact ⟨nofun, nofun⟩
    | drafting => exact ⟨nofun, nofun⟩
  refine ⟨hallows, nofun, fun answer footing hhears => ⟨?_, .inl rfl⟩⟩
  cases hhears <;> exact nofun

/-- Who has ended stands where its caller may go on. -/
theorem Works.ready {connection : Nat} (h : system.Works owner task)
    (hf : task.stage.isFinished = true) (hc : connection ∈ task.connections) :
    ∃ ground : Ground,
      ground.Of (Owned owner [connection]) system.db connection ∧ ground.Dealt := by
  obtain ⟨footing, hat, hup⟩ := h
  have hrests : Rests footing .done := by
    cases hstage : task.stage with
    | finished => rw [hstage] at hup; exact hup
    | _ => rw [hstage] at hf; cases hf
  match hconnections : task.connections, hat with
  | [], _ => rw [hconnections] at hc; cases hc
  | [other], hat =>
    rw [hconnections, List.mem_singleton] at hc
    subst hc
    refine ⟨footing.ground, hat, hrests.resolve_left fun houtside => ?_⟩
    rw [houtside] at hat
    exact hat.elim
  | _ :: _ :: _, hat => exact hat.elim

/-- What is published in this way balances, under numbers that the connection owns. -/
theorem balances_of_publishes {ground : Ground} {connections : List Nat} {connection : Nat}
    {books : Books} (hat : ground.At (Owned owner connections) system.db connections)
    (hmem : connection ∈ connections) (h : dealing.Publishes system.db connection ground books) :
    ∃ used : List Posting, system.db.books.Balances books used ∧ books.Keyed ∧
      (used.map (·.draw.serial)).Nodup ∧
      ∀ posting ∈ used, posting.draw.serial < system.db.serial ∧
        system.db.draws.draw posting.draw.serial = posting.draw ∧
        Owned owner connections posting.draw.serial := by
  have hof : ground.Of (Owned owner connections) system.db connection := by
    match connections, hat with
    | [], _ => cases hmem
    | [_], hat => rw [List.mem_singleton.mp hmem] at *; exact hat
    | _ :: _ :: _, hat => exact hat.elim
  cases h with
  | @draft draft hkeeps =>
    obtain ⟨used, hbalanced⟩ := hkeeps
    obtain ⟨transaction, -, -, hsame, -, -, hdrawn⟩ := hof
    refine ⟨used, ?_, draft.keyed, hbalanced.nodup, fun posting hposting => ?_⟩
    · rw [← hsame]
      exact hbalanced.balances
    · exact hdrawn _ (hbalanced.drawn posting hposting)
  | @alone statement halone =>
    obtain ⟨hbalances, hkeyed⟩ := balances_written hof halone
    exact ⟨[], hbalances, hkeyed, List.nodup_nil, List.forall_mem_nil _⟩

/-- Where the task stands that acts, what is drawn and what it owned goes to its connection. -/
theorem at_handOn {ground : Ground} {db : Database} {next : Nat} {former connections : List Nat}
    {used : List Nat} (hused : used = [] ∨ ground.draft? = none)
    (h : ground.At (Usable owner next former) db connections) :
    ground.At (Owned (handOn owner next former connections.head? used) connections) db
      connections := by
  refine h.mono fun draft hdraft serial _ hmine => ?_
  have hground : ground ≠ .outside := by
    rintro rfl
    cases hdraft
  obtain ⟨connection, rfl, -⟩ := h.connected hground
  rcases hused with rfl | hnone
  · rw [Owned, handOn_latter hmine]
    exact List.mem_cons_self
  · cases hnone.symm.trans hdraft

variable {deadline : Option Deadline} {told : Option Reply} {footing : Footing}

theorem Settles.upholds (h : Settles dealing Rests deadline told footing task) :
    task.stage.work.Upholds dealing Rests footing := by
  cases h with
  | waits _ _ _ hup => exact hup
  | ends reply hf _ hends =>
    cases hstage : task.stage with
    | finished => exact hends
    | _ => rw [hstage] at hf; cases hf

/-- Who leaves has no connection in the end. -/
theorem Settles.of_leaving (h : Settles dealing.leaving Leaves deadline told footing task) :
    Settles dealing Rests deadline told footing task := by
  cases h with
  | waits hf hreply hdeadline hup =>
    exact .waits hf hreply hdeadline (hup.of_leaving.mono fun _ _ => .inl)
  | ends reply hf hreply hends => exact .ends reply hf hreply (.inl hends)

theorem Carries.upholds {published : List Books} {task' : Task}
    (h : Carries dealing Rests task published footing task') :
    task'.stage.work.Upholds dealing Rests footing := by
  cases h with
  | on hsettles => exact hsettles.upholds
  | quit _ _ _ _ hsettles => exact hsettles.of_leaving.upholds

namespace Dealt

section

variable (h : system.Dealt start postings owner) (hsound : system.Sound)
  (hkeys : system.KeysFree event) (hs : system.step event = some after)
include h hsound hkeys hs

/-- A task that neither moves nor comes up goes on as before. -/
theorem works_of_stays {latter : Option Nat} {used : List Nat} {task' : Task}
    (hused : ∀ serial ∈ used, Owned owner (system.touched event) serial)
    (ht : system.tasks[index]? = some task) (hm : event.mover? ≠ some index)
    (ht' : after.tasks[index]? = some task') (hf' : task'.stage.isFinished = false) :
    after.Works (handOn owner system.db.serial (system.touched event) latter used) task' := by
  obtain ⟨_, hsame, hstays⟩ := stays_of_step hs ht hm
  obtain rfl := Option.some.inj (hsame.symm.trans ht')
  have hf : task.stage.isFinished = false := hstays.isFinished.symm.trans hf'
  obtain ⟨footing, hat, hup⟩ := h.works index task ht hf
  have hapart : ∀ connection ∈ task.connections, connection ∉ system.touched event := by
    intro connection hc
    rw [← Task.claims_eq hf] at hc
    exact not_touched_of_claims hsound.orderly hs ht hc hm
  have hkept : footing.ground.At
      (Owned (handOn owner system.db.serial (system.touched event) latter used) task.connections)
      system.db task.connections :=
    hat.mono fun _ _ serial hlt hown => hown.handOn hlt hapart hused
  obtain ⟨ground, hsways, hat'⟩ := hsound.sways_task hkeys hs ht hf hm hkept
  refine ⟨⟨footing.published, ground⟩, ?_, ?_⟩
  · rw [hstays.connections]
    exact hat'
  · rw [hstays.work]
    exact upholds_of_sways hf hup hsways

/-- The invariant after an event, if it holds of the task that goes on or comes up by it, and if what
this task has posted was its own. -/
theorem of_acts (hsound' : after.Sound) (latter : Option Nat) {used : List Posting}
    (hposted : start.books.Posted (postings ++ used) after.db.books)
    (hnodup : (used.map (·.draw.serial)).Nodup)
    (hused : ∀ posting ∈ used, posting.draw.serial < system.db.serial ∧
      system.db.draws.draw posting.draw.serial = posting.draw ∧
      Owned owner (system.touched event) posting.draw.serial)
    (hacts : ∀ (index : Nat) (task : Task), after.tasks[index]? = some task →
      system.Acts event index task →
      after.Works (handOn owner system.db.serial (system.touched event) latter
        (used.map (·.draw.serial))) task) :
    ∃ postings' owner', after.Dealt start postings' owner' := by
  have hserial := serial_le_step hsound.underway hs
  have hmine : ∀ serial ∈ used.map (·.draw.serial),
      Owned owner (system.touched event) serial := by
    intro serial hmem
    obtain ⟨posting, hposting, rfl⟩ := List.mem_map.mp hmem
    exact (hused posting hposting).2.2
  -- what has been spent belongs to nobody
  have hspent : ∀ posting ∈ postings,
      ¬ Owned owner (system.touched event) posting.draw.serial := by
    intro posting hposting hown
    obtain ⟨connection, -, hsame⟩ := List.mem_map.mp hown
    cases hsame.trans (h.spent posting hposting).2.2
  refine ⟨postings ++ used, handOn owner system.db.serial (system.touched event) latter
    (used.map (·.draw.serial)), hposted, ?_,
    (draws_step hsound.underway hs).trans h.draws, Nat.le_trans h.later hserial,
    fun _ => le_of_handOn h.later h.drawn, ?_, ?_, ?_⟩
  · rw [List.map_append, List.nodup_append]
    refine ⟨h.distinct, hnodup, ?_⟩
    rintro _ hold _ hnew rfl
    obtain ⟨posting, hposting, rfl⟩ := List.mem_map.mp hold
    exact hspent posting hposting (hmine _ hnew)
  · intro posting hposting
    rcases List.mem_append.mp hposting with hold | hnew
    · obtain ⟨⟨hle, hlt⟩, hdraw, hnone⟩ := h.spent posting hold
      refine ⟨⟨hle, Nat.lt_of_lt_of_le hlt hserial⟩, hdraw, ?_⟩
      rw [handOn_kept hlt (hspent posting hold) hmine, hnone]
    · obtain ⟨hlt, hdraw, hown⟩ := hused posting hnew
      rw [h.draws] at hdraw
      exact ⟨⟨h.drawn _ hown.isSome, Nat.lt_of_lt_of_le hlt hserial⟩, hdraw,
        handOn_used (List.mem_map_of_mem hnew)⟩
  · intro index task' ht' hf'
    cases hold : system.tasks[index]? with
    | none =>
      rcases new_of_step hs ht' hold with ⟨connection, rfl⟩ | ⟨_, _, _, rfl, hnew⟩
      · exact works_cleanup hsound'.custody _ connection
      · exact hacts index task' ht' hnew
    | some task =>
      by_cases hm : event.mover? = some index
      · obtain ⟨move, rfl, hindex⟩ := mover?_eq_some hm
        exact hacts index task' ht' hindex
      · exact h.works_of_stays hsound hkeys hs hmine hold hm ht' hf'
  · intro connection hidle
    rcases idle_of_step hsound.orderly hs hidle with ⟨hc, hidle⟩ | ⟨index, task, ht, hact, hf, hc⟩
    · obtain ⟨ground, hof, hdealt⟩ := h.idle connection hidle
      have hlt := hsound.orderly.lt_next _ (isIdle_iff.mp hidle).1
      have hkept : ground.At (Owned (handOn owner system.db.serial (system.touched event) latter
          (used.map (·.draw.serial))) [connection]) system.db [connection] := by
        refine Ground.At.mono hof fun _ _ serial hlt hown => hown.handOn hlt ?_ hmine
        intro other hother
        rw [List.mem_singleton.mp hother]
        exact hc
      obtain ⟨ground', hsways, hof'⟩ := hsound.sways hkeys hs hc hlt hkept
      exact ⟨ground', hof', hdealt.sways hsways⟩
    · exact (hacts index task ht hact).ready hf hc

/-- A task moves. What it publishes balances. -/
theorem moved (hsound' : after.Sound) {move : Move} (hevent : event = .move move) :
    ∃ postings' owner', after.Dealt start postings' owner' := by
  subst hevent
  obtain ⟨task, ht⟩ : ∃ task, system.tasks[move.index]? = some task :=
    ⟨_, List.getElem?_eq_getElem (lt_length_of_mover hs rfl)⟩
  have hf : task.stage.isFinished = false := by
    cases hf : task.stage.isFinished with
    | false => rfl
    | true => exact absurd rfl (not_mover_of_finished hs ht hf)
  have htouched : system.touched (.move move) = task.connections := by
    simp [touched, ht, Task.claims_eq hf]
  obtain ⟨footing, hat, hup⟩ := h.works _ task ht hf
  have husable : footing.ground.At (Usable owner system.db.serial task.connections) system.db
      task.connections := hat.mono fun _ _ _ _ => .inr
  obtain ⟨task', ground, ht', hproceeds⟩ :=
    proceeds hsound ht husable (fun _ => .inl) hs hf hup
  obtain ⟨used, hposted, hnodup, hused, hquiet⟩ : ∃ used : List Posting,
      start.books.Posted (postings ++ used) after.db.books ∧ (used.map (·.draw.serial)).Nodup ∧
      (∀ posting ∈ used, posting.draw.serial < system.db.serial ∧
        system.db.draws.draw posting.draw.serial = posting.draw ∧
        Owned owner task.connections posting.draw.serial) ∧
      (used.map (·.draw.serial) = [] ∨ ground.draft? = none) := by
    rw [books_step hs]
    cases hp : system.publication? (.move move) with
    | none =>
      refine ⟨[], ?_, List.nodup_nil, List.forall_mem_nil _, .inl rfl⟩
      rw [List.append_nil]
      exact h.posted
    | some publication =>
      obtain ⟨hmem, hpublishes, hnone⟩ := hproceeds.publishes publication hp
      obtain ⟨used, hbalances, hkeyed, hnodup, hused⟩ := balances_of_publishes hat hmem hpublishes
      exact ⟨used, h.posted.overlay hbalances hkeyed, hnodup, hused, .inr hnone⟩
  refine h.of_acts hsound hkeys hs hsound' task'.connections.head? hposted hnodup
    (by rw [htouched]; exact hused) ?_
  rintro index acting hacting rfl
  obtain rfl := Option.some.inj (ht'.symm.trans hacting)
  rw [htouched]
  exact ⟨_, at_handOn hquiet hproceeds.stands, hproceeds.carries.upholds⟩

/-- Nobody moves, and whoever comes deals with the ledger. -/
theorem unmoved (hsound' : after.Sound) (hdeals : event.Deals) (hm : event.mover? = none) :
    ∃ postings' owner', after.Dealt start postings' owner' := by
  have hposted : start.books.Posted (postings ++ []) after.db.books := by
    have hsilent : system.told? event = none := by
      cases event with
      | move => cases hm
      | _ => rfl
    rw [books_step hs, publication?_of_told_none hsilent, List.append_nil]
    exact h.posted
  have hacts := fun latter =>
    h.of_acts hsound hkeys hs hsound' latter hposted List.nodup_nil (List.forall_mem_nil _)
  cases event with
  | move => cases hm
  | spawn connections deadline work =>
    obtain ⟨-, hidle, rfl⟩ := spawned_of_step hs
    obtain ⟨ground, hat, hready⟩ : ∃ ground : Ground,
        ground.At (Owned owner connections) system.db connections ∧ ground.Ready connections := by
      cases connections with
      | nil => exact ⟨.outside, rfl, rfl⟩
      | cons connection others =>
        cases others with
        | nil => exact h.idle connection (hidle connection List.mem_cons_self)
        | cons => cases hdeals
    have husable : ground.At (Usable owner system.db.serial connections) system.db connections :=
      hat.mono fun _ _ _ _ => .inr
    obtain ⟨ground', hat', -, hsettles⟩ := settles_proceed system (.fresh connections deadline)
      (hdeals.upholds hready) husable fun _ => .inl
    refine hacts (system.proceed (.fresh connections deadline) work).2.connections.head? ?_
    rintro index acting - rfl
    have hat'' := at_handOn (.inl rfl) hat'
    exact ⟨⟨_, ground'⟩, hat'', hsettles.upholds⟩
  | _ => exact hacts none fun _ _ _ hact => hact.elim

end

end Dealt

end System

variable {db : Database} {capacity : Nat} {past : Past} {system : System}

theorem Run.dealt (h : Run (.start db capacity) past system) (hrest : db.AtRest)
    (hfaith : past.Faithful) (hdeals : ∀ before event, (before, event) ∈ past → event.Deals) :
    ∃ postings owner, system.Dealt db postings owner := by
  induction h with
  | refl => exact ⟨[], _, System.dealt_start db capacity⟩
  | @step past system after event hrun hs ih =>
    obtain ⟨postings, owner, hdealt⟩ := ih hfaith.of_append fun before event hmem =>
      hdeals before event (List.mem_append_left _ hmem)
    have hsound := hrun.sound hrest hfaith.of_append
    have hsound' := hsound.step hfaith hs
    have hlast : (system, event) ∈ past ++ [(system, event)] :=
      List.mem_append_right _ List.mem_cons_self
    have hkeys := hfaith.keys system event hlast
    cases hm : event.mover? with
    | none => exact hdealt.unmoved hsound hkeys hs hsound' (hdeals system event hlast) hm
    | some index =>
      obtain ⟨move, hevent, -⟩ := System.mover?_eq_some hm
      exact hdealt.moved hsound hkeys hs hsound' hevent

end Passbook
