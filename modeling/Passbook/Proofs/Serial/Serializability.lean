import Passbook.Proofs.Serial.Determined
import Passbook.Proofs.Serial.Standing
import Passbook.Proofs.System.Custody

/-! # Transfers are serializable

In every run in which all work consists of transfers, the committed books are at every moment those
that the committed units would have made one at a time and alone, in the order of their commits
(`transfers_serializable`). -/

namespace Passbook

/-- Nothing is spawned but the given units of work, each on a connection of its own, and no fault
makes the database answer with what it has not found. -/
def Event.Keeps (Units : UnitOfWork → Prop) : Event → Prop
  | .spawn connections _ work => connections = [] ∧ ∃ unit, Units unit ∧ work = unit.work
  | .arm armed => armed.fault.twist.isHonest = true
  | _ => True

/-- Tasks of a run are done one at a time and alone, each on the database that the one before it has
left, with these replies. -/
inductive Serially (past : Past) (start : Database) : List (Nat × Reply) → Database → Prop
  | nil : Serially past start [] start
  | concat {runs : List (Nat × Reply)} {db db' : Database} {index : Nat} {work : Work Reply}
      {reply : Reply} : Serially past start runs db → past.Spawned index work →
      Alone db work db' reply → Serially past start (runs ++ [(index, reply)]) db'

theorem Serially.concat_past {past : Past} {start db : Database} {runs : List (Nat × Reply)}
    (h : Serially past start runs db) (system : System) (event : Event) :
    Serially (past ++ [(system, event)]) start runs db := by
  induction h with
  | nil => exact .nil
  | concat _ hspawned halone ih => exact ih.concat (hspawned.concat system event) halone

namespace System

open UnitOfWork

/-- The commits of a run so far, with their replies: they are a serial run that has led to the
committed books, and every task stands where it should. -/
structure Serial (start : Database) (past : Past) (system : System) (runs : List (Nat × Reply)) :
    Prop where
  serially : ∃ db, Serially past start runs db ∧ db.AtRest ∧ db.books = system.db.books ∧
    db.draws = system.db.draws
  draws : system.db.draws = start.draws
  commits : runs.map (·.1) = past.commits
  finished : ∀ index ∈ past.commits, ∃ task, system.tasks[index]? = some task ∧
    task.stage.isFinished = true
  nodup : past.commits.Nodup
  standing : ∀ index task, system.tasks[index]? = some task →
    Standing past system runs index task

variable {start : Database} {past : Past} {system after : System} {event : Event}
  {runs runs' : List (Nat × Reply)} {index : Nat} {task : Task}

theorem serial_start (h : start.AtRest) (capacity : Nat) :
    Serial start [] (.start start capacity) [] where
  serially := ⟨start, .nil, h, rfl, rfl⟩
  draws := rfl
  commits := rfl
  finished _ hmem := by cases hmem
  nodup := List.nodup_nil
  standing _ _ ht := by cases ht

/-- A task that comes into being is the rollback of one that has left, or a unit that waits. -/
theorem standing_new (hs : system.step event = some after) (hk : event.Keeps Strict)
    (hspawned : ∀ index work, past.Spawned index work → index < system.tasks.length)
    (ht : after.tasks[index]? = some task) (hnew : system.tasks[index]? = none) :
    Standing (past ++ [(system, event)]) after runs index task := by
  have hle := List.getElem?_eq_none_iff.mp hnew
  by_cases hspawn : ∃ connections deadline work, event = .spawn connections deadline work
  · obtain ⟨connections, deadline, work, rfl⟩ := hspawn
    obtain ⟨rfl, unit, hstrict, rfl⟩ := hk
    obtain ⟨own, rfl, hwait, -⟩ := Waiting.of_spawn hs
    have hlt := (List.getElem?_eq_some_iff.mp ht).1
    have hindex : index = system.tasks.length := by
      simp only [List.length_append, List.length_singleton] at hlt
      omega
    subst hindex
    simp only [List.getElem?_concat_length] at ht
    obtain rfl := Option.some.inj ht
    exact .waiting hstrict ⟨system, [], deadline, List.mem_append_right _ List.mem_cons_self, rfl⟩
      hwait
  · rcases new_of_step hs ht hnew with ⟨connection, rfl⟩ | ⟨_, _, _, rfl, -⟩
    · refine .leaving (.cleanup connection) (Database.silent_rollback _ _) ?_
      intro work hs
      rcases hs.of_concat with hs | ⟨-, _, _, rfl⟩
      · have hlt := hspawned index work hs
        omega
      · exact absurd ⟨_, _, _, rfl⟩ hspawn
    · exact absurd ⟨_, _, _, rfl⟩ hspawn

namespace Serial

/-- It is enough to look at the task that moves. -/
theorem standing_step (h : Serial start past system runs) (ho : Orderly [] [] system)
    (hs : system.step event = some after) (hk : event.Keeps Strict)
    (hspawned : ∀ index work, past.Spawned index work → index < system.tasks.length)
    (hr : ∀ run ∈ runs, run ∈ runs')
    (ha : ∀ index task, system.tasks[index]? = some task → event.mover? ≠ some index →
      ∀ connection ∈ task.claims,
        system.db.books.Agree (system.db.Holds connection) after.db.books)
    (hmover : ∀ index task, event.mover? = some index → after.tasks[index]? = some task →
      Standing (past ++ [(system, event)]) after runs' index task)
    (ht : after.tasks[index]? = some task) :
    Standing (past ++ [(system, event)]) after runs' index task := by
  by_cases hm : event.mover? = some index
  · exact hmover index task hm ht
  · cases hold : system.tasks[index]? with
    | none => exact standing_new hs hk hspawned ht hold
    | some old =>
      obtain ⟨task', ht', hstanding⟩ :=
        (h.standing index old hold).of_step ho hs hold hm (ha index old hold hm) hr
      rwa [← Option.some.inj (ht'.symm.trans ht)]

theorem finished_step (h : Serial start past system runs) (hs : system.step event = some after)
    (hmem : index ∈ past.commits) : ∃ task, after.tasks[index]? = some task ∧
      task.stage.isFinished = true := by
  obtain ⟨task, ht, hf⟩ := h.finished index hmem
  exact ⟨task, finished_of_step hs ht hf, hf⟩

/-- An event by which nothing becomes public. -/
theorem step_quiet (h : Serial start past system runs) (ho : Orderly [] [] system)
    (hu : system.Underway) (hs : system.step event = some after) (hk : event.Keeps Strict)
    (hspawned : ∀ index work, past.Spawned index work → index < system.tasks.length)
    (hp : system.publication? event = none)
    (hmover : ∀ index task, event.mover? = some index → after.tasks[index]? = some task →
      Standing (past ++ [(system, event)]) after runs index task) :
    Serial start (past ++ [(system, event)]) after runs := by
  have hbooks : after.db.books = system.db.books := by
    rw [books_step hs, hp]
    rfl
  have hcommits : Past.commits (past ++ [(system, event)]) = past.commits := by
    rw [Past.commits_concat, committed?_of_silent hp]
    simp
  have hdraws := draws_step hu hs
  refine ⟨?_, hdraws.trans h.draws, h.commits.trans hcommits.symm, ?_, ?_, ?_⟩
  · obtain ⟨db, hserially, hrest, hdb, hdrawn⟩ := h.serially
    exact ⟨db, hserially.concat_past system event, hrest, hdb.trans hbooks.symm,
      hdrawn.trans hdraws.symm⟩
  · intro index hmem
    rw [hcommits] at hmem
    exact h.finished_step hs hmem
  · rw [hcommits]
    exact h.nodup
  · intro index task ht
    refine h.standing_step ho hs hk hspawned (fun _ => id) (fun _ _ _ _ connection _ => ?_) hmover ht
    rw [hbooks]
    exact .refl _ _

/-- The commit of a unit that has done what it would have done alone. -/
theorem step_commit (h : Serial start past system runs) (ho : Orderly [] [] system)
    (hu : system.Underway) (hs : system.step event = some after) (hk : event.Keeps Strict)
    (hspawned : ∀ index work, past.Spawned index work → index < system.tasks.length)
    (hm : event.mover? = some index) (hold : system.tasks[index]? = some task)
    {task' : Task} (ht : after.tasks[index]? = some task') {unit : UnitOfWork} {connection : Nat}
    {began : Instant} {changes : Books} {result : Reply}
    (hp : system.publication? event = some (connection, changes))
    (hc : system.committed? event = some index) (hclaims : connection ∈ task.claims)
    (hunit : past.Spawned index unit.work) (hadmits : unit.Admits)
    (hreplays : unit.body.run.Replays (system.db.Holds connection) system.db.books
      system.db.draws began changes (.done (.ok result)))
    (hf : task'.stage.isFinished = true)
    (hreply : task'.reply = some result ∨ ∃ failure, task'.reply = some (.failed failure)) :
    Serial start (past ++ [(system, event)]) after (runs ++ [(index, result)]) := by
  have hbooks : after.db.books = system.db.books.overlay changes := by
    rw [books_step hs, hp]
    rfl
  have hcommits : Past.commits (past ++ [(system, event)]) = past.commits ++ [index] := by
    rw [Past.commits_concat, hc]
    rfl
  have hfirst : index ∉ past.commits := by
    intro hmem
    obtain ⟨own, hown, hfinished⟩ := h.finished index hmem
    exact not_mover_of_finished hs hown hfinished hm
  have hdraws := draws_step hu hs
  refine ⟨?_, hdraws.trans h.draws, ?_, ?_, ?_, ?_⟩
  · obtain ⟨db, hserially, hrest, hdb, hdrawn⟩ := h.serially
    rw [← hdb, ← hdrawn] at hreplays
    obtain ⟨clock, serial, halone⟩ := alone_of_commits hrest hadmits hreplays
    refine ⟨_, (hserially.concat_past system event).concat (hunit.concat system event) halone,
      ⟨hrest.sessions, hrest.locks⟩, ?_, hdrawn.trans hdraws.symm⟩
    rw [hbooks, ← hdb]
  · rw [hcommits, List.map_append, h.commits]
    rfl
  · intro other hmem
    rw [hcommits] at hmem
    rcases List.mem_append.mp hmem with hmem | hmem
    · exact h.finished_step hs hmem
    · rw [List.mem_singleton.mp hmem]
      exact ⟨task', ht, hf⟩
  · rw [hcommits]
    exact List.Nodup.append h.nodup (List.nodup_singleton index)
      (List.disjoint_singleton.mpr hfirst)
  · intro other otherTask hother
    refine h.standing_step ho hs hk hspawned (fun _ => List.mem_append_left _) ?_ ?_
      hother
    · intro third thirdTask hthird hne own hown
      rw [hbooks]
      refine Books.agree_overlay hreplays.covers ?_
      intro account hheld hlocked
      have hsame := ho.locks.eq_of_mem hheld hlocked
      subst hsame
      obtain rfl := ho.eq_of_claims hold hthird hclaims hown
      exact hne hm
    · intro mover moverTask hmover hmoved
      obtain rfl := Option.some.inj (hm.symm.trans hmover)
      obtain rfl := Option.some.inj (ht.symm.trans hmoved)
      refine .finished hf ?_
      intro _ _
      rcases hreply with hreply | ⟨failure, hreply⟩
      · exact ⟨result, hreply, .inr (by simp)⟩
      · exact ⟨_, hreply, .inl ⟨failure, rfl⟩⟩

/-- Every event keeps the commits a serial run. -/
theorem step (h : Serial start past system runs) (ho : Orderly [] [] system)
    (hu : system.Underway) (hT : system.Twists fun twist => twist.isHonest = true)
    (hs : system.step event = some after) (hk : event.Keeps Strict)
    (hspawned : ∀ index work, past.Spawned index work → index < system.tasks.length) :
    ∃ runs', Serial start (past ++ [(system, event)]) after runs' := by
  cases hm : event.mover? with
  | none =>
    have htold : system.told? event = none := by
      cases event with
      | move move => cases hm
      | _ => rfl
    refine ⟨runs, h.step_quiet ho hu hs hk hspawned (publication?_of_told_none htold) ?_⟩
    intro index task hmover
    cases hm.symm.trans hmover
  | some index =>
    obtain ⟨move, rfl, rfl⟩ := mover?_eq_some hm
    have hlt := lt_length_of_mover hs hm
    have hold := List.getElem?_eq_getElem hlt
    cases (h.standing move.index _ hold).advance hT ho hu hold hs with
    | quiet ht hp hstanding _ =>
      refine ⟨runs, h.step_quiet ho hu hs hk hspawned hp fun index task hmover hmoved => ?_⟩
      obtain rfl := Option.some.inj hmover
      rwa [← Option.some.inj (ht.symm.trans hmoved)]
    | commits ht hp hc hclaims _ hunit hadmits hreplays hf hreply =>
      exact ⟨_, h.step_commit ho hu hs hk hspawned hm hold ht hp hc hclaims hunit hadmits hreplays hf
        (hreply.imp_right fun ⟨failure, hfailure, _⟩ => ⟨failure, hfailure⟩)⟩

/-- A unit whose caller is told of a failure of the ledger would have failed so alone. -/
theorem alone_of_ledger (h : Serial start past system runs) (hrest : start.AtRest)
    (ho : Orderly [] [] system) (hu : system.Underway)
    (hT : system.Twists fun twist => twist.isHonest = true)
    (hs : system.step event = some after) (hk : event.Keeps Strict)
    {error : LedgerError} (hnone : system.reply? index = none)
    (hreply : after.reply? index = some (.failed (.ledger error))) :
    ∃ work clock serial, past.Spawned index work ∧
      Alone { start with books := after.db.books } work
        { start with books := after.db.books, clock, serial } (.failed (.ledger error)) := by
  obtain ⟨task', ht, htold⟩ := Option.bind_eq_some_iff.mp hreply
  cases hold : system.tasks[index]? with
  | none =>
    rcases new_of_step hs ht hold with ⟨connection, rfl⟩ | ⟨_, _, _, rfl, rfl⟩
    · cases htold
    · obtain ⟨-, unit, -, rfl⟩ := hk
      rw [work_eq] at htold
      cases htold
  | some task =>
    rw [reply?, hold, Option.bind_some] at hnone
    by_cases hm : event.mover? = some index
    · obtain ⟨move, rfl, rfl⟩ := mover?_eq_some hm
      cases (h.standing move.index task hold).advance hT ho hu hold hs with
      | quiet ht' hp _ hledger =>
        have hbooks : after.db.books = system.db.books := by
          rw [books_step hs, hp]
          rfl
        have hat : Database.AtRest { start with books := system.db.books } :=
          ⟨hrest.sessions, hrest.locks⟩
        obtain rfl := Option.some.inj (ht.symm.trans ht')
        obtain ⟨unit, connection, began, changes, hspawned, hadmits, hreplays⟩ :=
          hledger error hnone htold
        rw [h.draws] at hreplays
        obtain ⟨clock, serial, halone⟩ := alone_of_fails hat hadmits hreplays
        rw [hbooks]
        exact ⟨unit.work, clock, serial, hspawned, halone⟩
      | commits ht' _ _ _ hstrict _ _ hreplays _ hown =>
        obtain rfl := Option.some.inj (ht.symm.trans ht')
        rcases hown with hown | ⟨failure, hown, hledger⟩
        · obtain rfl := Option.some.inj (htold.symm.trans hown)
          cases hreplays.obeys hstrict.body with | done hhonest => exact absurd rfl (hhonest _)
        · cases hown.symm.trans htold
          exact absurd rfl (hledger error)
    · rcases getElem?_step hs hold hm with ht' | ⟨-, ht'⟩ <;>
        obtain rfl := Option.some.inj (ht.symm.trans ht') <;>
        cases hnone.symm.trans htold

end Serial

end System

namespace Run

variable {db : Database} {capacity : Nat} {past : Past} {system after : System} {event : Event}

section

variable (h : Run (.start db capacity) past system) (hrest : db.AtRest)
  (hk : ∀ before event, (before, event) ∈ past → event.Keeps UnitOfWork.Strict)
include h hk

theorem honest : system.Twists fun twist => twist.isHonest = true :=
  h.twists (System.twists_start (·.isHonest = true) rfl db capacity) fun before _ hmem =>
    hk before _ hmem

include hrest

/-- The commits of a run of strict units are a serial run. -/
theorem serial : ∃ runs, System.Serial db past system runs := by
  have ho := System.orderly_start hrest capacity
  have hu := System.underway_start db capacity
  induction h with
  | refl => exact ⟨[], System.serial_start hrest capacity⟩
  | @step past system after event hrun hs ih =>
    have hk' : ∀ before event, (before, event) ∈ past → event.Keeps UnitOfWork.Strict :=
      fun before event hmem => hk before event (List.mem_append_left _ hmem)
    obtain ⟨runs, hserial⟩ := ih hk'
    exact hserial.step (hrun.orderly ho) (hrun.underway ho hu) (hrun.honest hk') hs
      (hk system event (List.mem_append_right _ List.mem_cons_self)) fun _ _ => hrun.lt_of_spawned

theorem alone_of_ledger (hs : system.step event = some after)
    (he : event.Keeps UnitOfWork.Strict) {index : Nat} {error : LedgerError}
    (hnone : system.reply? index = none)
    (hreply : after.reply? index = some (.failed (.ledger error))) :
    ∃ work clock serial, past.Spawned index work ∧
      Alone { db with books := after.db.books } work
        { db with books := after.db.books, clock, serial } (.failed (.ledger error)) := by
  have ho := System.orderly_start hrest capacity
  have hu := System.underway_start db capacity
  obtain ⟨runs, hserial⟩ := h.serial hrest hk
  exact hserial.alone_of_ledger hrest (h.orderly ho) (h.underway ho hu) (h.honest hk) hs he hnone
    hreply

end

end Run

/-! ## Transfers -/

namespace Serially

variable {past : Past} {start final final' : Database} {runs runs' : List (Nat × Reply)}

/-- A serial run of transfers is determined by the order of its tasks, up to generated values. -/
theorem determined (h : Serially past start runs final) (h' : Serially past start runs' final')
    (hsame : runs.map (·.1) = runs'.map (·.1))
    (hwork : ∀ index work, past.Spawned index work →
      ∃ unit : UnitOfWork, unit.IsTransfer ∧ work = unit.work)
    (hone : ∀ index work work', past.Spawned index work → past.Spawned index work' →
      work = work') :
    Database.Alike 0 final final' ∧
      runs.map (fun run => (run.1, run.2.core)) = runs'.map fun run => (run.1, run.2.core) := by
  induction h generalizing runs' final' with
  | nil =>
    cases h' with
    | nil => exact ⟨.refl 0 start, rfl⟩
    | concat => simp at hsame
  | concat _ hspawned halone ih =>
    cases h' with
    | nil => simp at hsame
    | concat hserially' hspawned' halone' =>
      rw [List.map_append, List.map_append] at hsame
      obtain ⟨hruns, hindex⟩ := List.append_inj' hsame rfl
      obtain rfl := List.singleton_inj.mp hindex
      obtain ⟨unit, htransfer, rfl⟩ := hwork _ _ hspawned
      obtain rfl := hone _ _ _ hspawned hspawned'
      obtain ⟨hdb, hreplies⟩ := ih hserially' hruns
      obtain ⟨hfinal, hreply⟩ := htransfer.determined hdb halone halone'
      refine ⟨hfinal, ?_⟩
      rw [List.map_append, List.map_append, hreplies]
      simp [hreply]

end Serially

/-- What is true of a run of transfers at every moment. The committed books are those of a serial run
of the committed tasks, in the order of their commits and each of them once; the replies of all who
were told of success are those of that serial run, and whatever is generated in a serial run, it comes
to the same (`serial`, `nodup`). A task that ended with a failure of the ledger ends so alone on the
committed books of the moment at which it ended (`ledger`). -/
structure Serializable (db : Database) (past : Past) (system : System) : Prop where
  serial : ∃ runs final, Serially past db runs final ∧ runs.map (·.1) = past.commits ∧
    final.books = system.db.books ∧
    (∀ index work reply, past.Spawned index work → system.reply? index = some reply →
      (∀ failure, reply ≠ .failed failure) → (index, reply) ∈ runs) ∧
    ∀ runs' final', Serially past db runs' final' → runs'.map (·.1) = past.commits →
      final'.books.core = system.db.books.core ∧
        runs'.map (fun run => (run.1, run.2.core)) = runs.map fun run => (run.1, run.2.core)
  nodup : past.commits.Nodup
  ledger : ∀ before event after index work error, (before, event) ∈ past →
    before.step event = some after → past.Spawned index work → before.reply? index = none →
    after.reply? index = some (.failed (.ledger error)) →
    (∃ final, Alone { db with books := after.db.books } work final (.failed (.ledger error)) ∧
      final.books = after.db.books) ∧
    ∀ final reply, Alone { db with books := after.db.books } work final reply →
      reply = .failed (.ledger error) ∧ final.books.core = after.db.books.core

theorem Reply.eq_of_core {reply : Reply} {failure : Failure}
    (h : reply.core = (failed failure).core) : reply = .failed failure := by
  cases reply <;> first | exact h | cases h

/-- The caller of a unit is told of success with the reply of its serial run. -/
theorem System.Standing.reply {past : Past} {system : System} {runs : List (Nat × Reply)}
    {index : Nat} {task : Task} (h : Standing past system runs index task) {work : Work Reply}
    (hspawned : past.Spawned index work) {reply : Reply} (hreply : task.reply = some reply)
    (hok : ∀ failure, reply ≠ .failed failure) : (index, reply) ∈ runs := by
  cases h with
  | waiting _ _ hwait => cases hwait.reply.symm.trans hreply
  | asking _ _ hask => cases hask.reply.symm.trans hreply
  | leaving _ _ hsettled | finished _ hsettled =>
    obtain ⟨own, hown, ⟨failure, rfl⟩ | hmem⟩ := hsettled work hspawned
    · exact absurd (Option.some.inj (hreply.symm.trans hown)) (hok failure)
    · rwa [← Option.some.inj (hown.symm.trans hreply)]

/-- Transfers are serializable: any number of units of work that do transfers, in any interleaving of
their statements, with lock waits that end, deadlines that pass, stalls, lost connections and refusals
at any point. -/
theorem transfers_serializable {db : Database} {capacity : Nat} {past : Past} {system : System}
    (hrest : db.AtRest) (hrun : Run (.start db capacity) past system)
    (hk : ∀ before event, (before, event) ∈ past → event.Keeps UnitOfWork.IsTransfer) :
    Serializable db past system := by
  have hstrict : ∀ before event, (before, event) ∈ past → event.Keeps UnitOfWork.Strict := by
    intro before event hmem
    have hkeeps := hk before event hmem
    cases event with
    | spawn =>
      obtain ⟨hconnections, unit, htransfer, hwork⟩ := hkeeps
      exact ⟨hconnections, unit, htransfer.strict, hwork⟩
    | _ => exact hkeeps
  have hwork : ∀ index work, past.Spawned index work →
      ∃ unit : UnitOfWork, unit.IsTransfer ∧ work = unit.work := by
    rintro index work ⟨before, connections, deadline, hmem, -⟩
    exact (hk before _ hmem).2
  have hone : ∀ index work work', past.Spawned index work → past.Spawned index work' →
      work = work' := fun _ _ _ => hrun.spawned_unique
  obtain ⟨runs, hserial⟩ := hrun.serial hrest hstrict
  obtain ⟨final, hserially, -, hbooks, -⟩ := hserial.serially
  refine ⟨⟨runs, final, hserially, hserial.commits, hbooks, ?_, ?_⟩, hserial.nodup, ?_⟩
  · intro index work reply hspawned hreply hok
    obtain ⟨task, ht, hreply⟩ := Option.bind_eq_some_iff.mp hreply
    exact (hserial.standing index task ht).reply hspawned hreply hok
  · intro runs' final' hserially' hcommits
    obtain ⟨hdb, hreplies⟩ := hserially'.determined hserially
      (hcommits.trans hserial.commits.symm) hwork hone
    exact ⟨hdb.books.trans (congrArg Books.core hbooks), hreplies⟩
  · intro before event after index work error hmem hs hspawned hnone hreply
    obtain ⟨earlier, next, later, rfl, hearlier, -, -⟩ := hrun.of_mem hmem
    have hle : ∀ entry ∈ earlier, entry ∈ earlier ++ [(before, event)] ++ later :=
      fun entry hentry => List.mem_append_left _ (List.mem_append_left _ hentry)
    obtain ⟨own, clock, serial, hown, halone⟩ := hearlier.alone_of_ledger hrest
      (fun before event hentry => hstrict before event (hle _ hentry)) hs
      (hstrict before event hmem) hnone hreply
    obtain rfl : own = work := by
      obtain ⟨former, connections, deadline, hformer, hlen⟩ := hown
      exact hone index _ _ ⟨former, connections, deadline, hle _ hformer, hlen⟩ hspawned
    refine ⟨⟨_, halone, rfl⟩, fun final' reply halone' => ?_⟩
    obtain ⟨unit, htransfer, rfl⟩ := hwork index _ hspawned
    obtain ⟨hdb, hcore⟩ := htransfer.determined (.refl 0 _) halone' halone
    exact ⟨Reply.eq_of_core hcore, hdb.books⟩

/-- A transfer of 30 from the first account to the second, as a unit of work. -/
def outward : UnitOfWork :=
  .ofCall .default Transfer.unitName .entry
    (Transfer.perform ⟨.nil, 1000000001, 1000000002, 30⟩)

/-- A transfer of 20 the other way, which the second account cannot pay by itself. -/
def homeward : UnitOfWork :=
  .ofCall .default "batch" .entries (Transfer.performAll [⟨.nil, 1000000002, 1000000001, 20⟩])

/-- Both at once: the second transfer waits for a row that the first has locked. -/
def crossingEvents : List Event :=
  [.spawn [] none outward.work, .spawn [] none homeward.work, .move (.connect 0),
    .move (.connect 1), .move (.send 0), .move (.send 1), .move (.send 0), .move (.send 1),
    .move (.send 0), .move (.send 0), .move (.send 0), .move (.send 0), .move (.send 0),
    .move (.send 0), .move (.wake 1), .move (.send 1), .move (.send 1), .move (.send 1),
    .move (.send 1), .move (.send 1), .move (.send 1)]

/-- Both transfers commit, one after the other, and the ledger is that of their serial run. -/
theorem transfers_serializable_crossing : ∃ past system,
    Run (.start pairLedger 2) past system ∧ Serializable pairLedger past system ∧
      past.commits = [0, 1] ∧
      system.db.books.accounts.map (·.balance) = [40, 20] ∧
      system.db.books.entries.map (fun entry => (entry.account, entry.amount, entry.balanceAfter)) =
        [(1000000001, 30, 20), (1000000002, 30, 40), (1000000002, 20, 20), (1000000001, 20, 40)] := by
  have htrace : (System.start pairLedger 2).traces crossingEvents (fun past system =>
      past.commits = [0, 1] ∧
        system.db.books.accounts.map (·.balance) = [40, 20] ∧
        system.db.books.entries.map (fun entry => (entry.account, entry.amount, entry.balanceAfter)) =
          [(1000000001, 30, 20), (1000000002, 30, 40), (1000000002, 20, 20),
            (1000000001, 20, 40)]) = true := rfl
  obtain ⟨past, system, htrace, hend⟩ := System.exists_of_traces htrace
  have hkeeps : ∀ event ∈ crossingEvents, event.Keeps UnitOfWork.IsTransfer := by
    simp only [crossingEvents, List.forall_mem_cons, Event.Keeps, true_and]
    exact ⟨⟨_, .single .., rfl⟩, ⟨_, .batch .., rfl⟩, by simp⟩
  have hrun := System.run_of_trace? htrace
  refine ⟨past, system, hrun, transfers_serializable ⟨rfl, rfl⟩ hrun fun before event hmem => ?_,
    of_decide_eq_true hend⟩
  refine hkeeps event ?_
  rw [← System.events_of_trace? htrace]
  exact List.mem_map_of_mem hmem

end Passbook
