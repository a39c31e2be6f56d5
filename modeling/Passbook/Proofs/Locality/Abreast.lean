import Passbook.Proofs.Locality.Walks
import Passbook.Proofs.Serial.Determined
import Passbook.Proofs.Undisturbed.Serving

/-! # Tasks that are abreast

Two tasks in two databases are abreast if each has a connection in hand on which the same has been done,
or neither has one, and if what is left for them to do is alike and about some accounts only
(`Task.Abreast`). When both go on, they are abreast again at the next thing that they have to wait for
(`abreast_proceed`). So are the units of work of two transfers with one command
(`UnitOfWork.abreast_order`), since they walk along the rows of that command. -/

namespace Passbook

/-! ## Works -/

namespace Work

/-- The works do alike, and ask for nothing but what is about the given accounts. The flag says whether
they have a connection in hand; they end without one. -/
inductive Abreast (Mine : Int → Prop) : Bool → Work Reply → Work Reply → Prop
  | done {reply reply' : Reply} : reply.core = reply'.core →
      Abreast Mine false (.done reply) (.done reply')
  | connect {next next' : Except StorageError Unit → Work Reply} :
      Abreast Mine true (next (.ok ())) (next' (.ok ())) →
      (∀ error, Abreast Mine false (next (.error error)) (next' (.error error))) →
      Abreast Mine false (.connect next) (.connect next')
  | giveBack {reply reply' : Reply} : reply.core = reply'.core →
      Abreast Mine true (.giveBack (.done reply)) (.giveBack (.done reply'))
  | exec {statement statement' : Statement} {next : statement.Answer → Work Reply}
      {next' : statement'.Answer → Work Reply} {Answered : statement.Answer → statement'.Answer → Prop} :
      statement.Alike statement' Answered → statement.About Mine →
      (∀ answer answer', Answered answer answer' →
        (∀ found, answer = .ok found → ∀ row ∈ found, statement.Names row) →
        Abreast Mine true (next answer) (next' answer')) →
      Abreast Mine true (.exec statement next) (.exec statement' next')
  | draw {connected : Bool} {next next' : Draw → Work Reply} :
      (∀ drawn drawn', Abreast Mine connected (next drawn) (next' drawn')) →
      Abreast Mine connected (.draw next) (.draw next')

end Work

theorem Statement.about_of_not_isQuery {Mine : Int → Prop} {statement : Statement}
    (h : statement.isQuery = false) : statement.About Mine := by
  cases statement with
  | begin | setLockTimeout | commit | rollback => exact nofun
  | _ => cases h

namespace UnitOfWork

open Call

variable {Mine : Int → Prop} {unit : UnitOfWork} {rows held : List Int}

theorem abreast_handBack {reply reply' : Reply} (h : reply.core = reply'.core) :
    (handBack reply).Abreast Mine true (handBack reply') :=
  .giveBack h

theorem abreast_ending (unit : UnitOfWork) {result result' : Except Failure Reply}
    (h : ResultsAlike (fun reply reply' => reply.core = reply'.core) result result') :
    (unit.ending result).Abreast Mine true (unit.ending result') := by
  cases result with
  | ok reply =>
    cases result' with
    | error => cases h
    | ok reply' =>
      refine .exec (.frame .commit rfl) (Statement.about_of_not_isQuery rfl) ?_
      rintro answer _ rfl -
      cases answer with
      | ok rows => exact abreast_handBack h
      | error error => exact abreast_handBack rfl
  | error failure =>
    cases result' with
    | ok => cases h
    | error failure' =>
      obtain rfl : failure = failure' := h
      exact .exec (.frame .rollback rfl) (Statement.about_of_not_isQuery rfl)
        fun _ _ _ _ => abreast_handBack rfl

/-- Bodies that do alike and walk along the rows of the given accounts. -/
theorem abreast_working {work work' : Work (Except Failure Reply)}
    (h : work.Alike (ResultsAlike fun reply reply' => reply.core = reply'.core) work')
    (hw : work.Walks rows held) (hmine : ∀ id ∈ rows, Mine id) :
    (unit.working work).Abreast Mine true (unit.working work') := by
  induction h generalizing held with
  | done hr => exact unit.abreast_ending hr
  | connect | giveBack | report => cases hw
  | exec hs _ ih =>
    refine .exec hs ?_ fun answer answer' hanswered hnames => ?_
    · cases hw with | exec hsteps
      exact fun id hid => hmine id (hsteps.within id hid)
    · obtain ⟨held', hnext⟩ := hw.next hnames
      exact ih answer answer' hanswered hnext
  | draw _ ih =>
    cases hw with | draw hnext
    exact .draw fun drawn drawn' => ih drawn drawn' (hnext drawn)

theorem abreast_work
    (h : unit.body.Alike (fun reply reply' => reply.core = reply'.core) unit.body)
    (hw : unit.body.run.Walks rows []) (hmine : ∀ id ∈ rows, Mine id) :
    unit.work.Abreast Mine false unit.work := by
  have hworking : (unit.working unit.body.run).Abreast Mine true (unit.working unit.body.run) :=
    abreast_working h hw hmine
  have hbegun : unit.begun.Abreast Mine true unit.begun := by
    unfold begun
    split
    · refine .exec (.frame _ rfl) (Statement.about_of_not_isQuery rfl) ?_
      rintro answer _ rfl -
      cases answer with
      | ok rows => exact hworking
      | error error => exact abreast_handBack rfl
    · exact hworking
  rw [work_eq]
  refine .connect ?_ fun error => .done rfl
  refine .exec (.frame .begin rfl) (Statement.about_of_not_isQuery rfl) ?_
  rintro answer _ rfl -
  cases answer with
  | ok rows => exact hbegun
  | error error => exact abreast_handBack rfl

/-- A transfer does the same whatever is generated, and it does it to its two accounts. -/
theorem abreast_order (runner : Runner) (command : Command) :
    (Call.replying .entry (Transfer.execute runner command)).Abreast (· ∈ command.accounts) false
      (Call.replying .entry (Transfer.execute runner command)) := by
  rw [← work_execute]
  refine abreast_work ?_ ?_ fun id => Command.accounts_of_rows
  · exact (Transfer.alike_perform command).bind fun _ _ hentry =>
      alike_pure (congrArg Reply.entry hentry)
  · rw [ofCall, Call.run_map]
    exact (Transfer.walks_perform command).map _

end UnitOfWork

/-! ## Answers -/

namespace Database

variable {Mine : Int → Prop} {db db' ended ended' : Database} {connection connection' : Nat}
  {statement statement' : Statement} {Related : statement.Answer → statement'.Answer → Prop}

/-- What a client heeds it is told. -/
theorem tells_of_heed {answer : statement.Answer}
    (h : db.heed connection statement = some (ended, answer)) :
    ∃ ran, db.Tells (fun twist => twist = .none) connection statement ended ran answer := by
  unfold heed at h
  by_cases hdead : (db.session connection).alive = false
  · rw [if_pos hdead] at h
    cases h
    exact ⟨false, .dead hdead⟩
  have halive : (db.session connection).alive = true := by simpa using hdead
  rw [if_neg hdead] at h
  by_cases haborted : db.refusesAborted connection statement = true
  · rw [if_pos haborted] at h
    cases h
    refine ⟨false, ?_⟩
    have htells := @Tells.living (fun twist => twist = .none) _ _ _ _ _ _ _ halive (.inl rfl)
      (.aborted haborted)
    simpa [Except.toBool] using htells
  rw [if_neg haborted] at h
  split at h
  · cases h
  · rename_i met own hr
    cases h
    refine ⟨true, ?_⟩
    have hanswers := @Answers.ran (fun twist => twist = .none) _ _ _ _ _ .none rfl hr
    rw [twisted_none] at hanswers
    refine .living halive ?_ hanswers
    split
    · exact .inr ⟨‹_›, rfl⟩
    · exact .inl rfl

theorem Concurs.note (h : Concurs Mine [connection] [connection'] db db') (unended : Bool) :
    Concurs Mine [connection] [connection'] (db.note connection unended)
      (db'.note connection' unended) :=
  ⟨h.rows, h.rivals⟩

namespace Mirrors

section

variable (h : Mirrors Mine connection connection' db db')
  (hs : statement.Alike statement' Related) (hm : statement.About Mine)
  (hc : Concurs Mine [connection] [connection'] db db') (hl : db.LocksSound) (hl' : db'.LocksSound)
include h hs hm hc hl hl'

/-- Statements that are run both have to wait, or they are answered alike and noted alike. -/
theorem heed_run :
    (db.run connection statement = .blocked ∧ db'.run connection' statement' = .blocked ∧
        statement.isQuery = true) ∨
      ∃ ended answer ended' answer', db.run connection statement = .answered ended answer ∧
        db'.run connection' statement' = .answered ended' answer' ∧ Related answer answer' ∧
        (∀ noted noted',
          noted = (if statement.isEnd && answer.toBool then ended.note connection false else ended) →
          noted' = (if statement'.isEnd && answer'.toBool then ended'.note connection' false
            else ended') →
          ChangeAlike Mine db db' noted noted' ∧ Mirrors Mine connection connection' noted noted') := by
  rcases h.run hs hm hc hl hl' with ⟨hblocked, hblocked'⟩ |
    ⟨ended, answer, ended', answer', hr, hr', hended, hanswers⟩
  · refine .inl ⟨hblocked, hblocked', ?_⟩
    by_contra hq
    obtain ⟨_, _, hr⟩ := run_of_not_isQuery db connection (by simpa using hq)
    cases hr.symm.trans hblocked
  · have hchanges := h.run_changes hs hm hc hr hr'
    refine .inr ⟨ended, answer, ended', answer', hr, hr', hanswers, ?_⟩
    rintro noted noted' rfl rfl
    rw [hs.isEnd, hs.toBool hanswers]
    split
    · exact ⟨hchanges, hended.note false⟩
    · exact ⟨hchanges, hended⟩

/-- Statements that are sent both have to wait, or they are answered alike. -/
theorem heed :
    (db.heed connection statement = none ∧ db'.heed connection' statement' = none ∧
        statement.isQuery = true) ∨
      ∃ ended answer ended' answer', db.heed connection statement = some (ended, answer) ∧
        db'.heed connection' statement' = some (ended', answer') ∧ Related answer answer' ∧
        ChangeAlike Mine db db' ended ended' ∧ Mirrors Mine connection connection' ended ended' := by
  have hbegin : statement' = .begin ↔ statement = .begin := by
    cases hs <;> simp
  unfold Database.heed
  rw [h.alive, h.transaction.refusesAborted hs.isEnd]
  by_cases hdead : (db.session connection).alive = false
  · rw [if_pos hdead, if_pos hdead]
    exact .inr ⟨_, _, _, _, rfl, rfl, hs.error _, ChangeAlike.refl Mine rfl rfl, h⟩
  rw [if_neg hdead, if_neg hdead]
  by_cases haborted : db.refusesAborted connection statement = true
  · rw [if_pos haborted, if_pos haborted]
    exact .inr ⟨_, _, _, _, rfl, rfl, hs.error _, ChangeAlike.refl Mine rfl rfl, h⟩
  rw [if_neg haborted, if_neg haborted]
  simp only [hbegin]
  by_cases hfirst : statement = .begin
  · rw [if_pos hfirst, if_pos hfirst]
    rcases (h.note true).heed_run hs hm (hc.note true) (hl.note ..) (hl'.note ..) with
      ⟨-, -, hq⟩ | ⟨_, _, _, _, hr, hr', hanswers, hended⟩
    · rw [hfirst] at hq
      cases hq
    · rw [hr, hr']
      exact .inr ⟨_, _, _, _, rfl, rfl, hanswers, hended _ _ rfl rfl⟩
  · rw [if_neg hfirst, if_neg hfirst]
    rcases h.heed_run hs hm hc hl hl' with
      ⟨hblocked, hblocked', hq⟩ | ⟨_, _, _, _, hr, hr', hanswers, hended⟩
    · rw [hblocked, hblocked']
      exact .inl ⟨rfl, rfl, hq⟩
    · rw [hr, hr']
      exact .inr ⟨_, _, _, _, rfl, rfl, hanswers, hended _ _ rfl rfl⟩

end

end Mirrors

end Database

/-! ## Tasks -/

namespace System

open Database

variable {Mine : Int → Prop} {system system' : System} {db db' ended ended' : Database}
  {task task' : Task} {connected : Bool}

/-- What the two have in hand: nothing, or a connection each on which the same has been done. -/
inductive Hands (Mine : Int → Prop) (db db' : Database) : Bool → List Nat → List Nat → Prop
  | empty : Hands Mine db db' false [] []
  | one {connection connection' : Nat} : Mirrors Mine connection connection' db db' →
      Hands Mine db db' true [connection] [connection']

/-- The two are at the same point: they wait for a connection, are about to send a statement, wait for a
lock, or are finished. -/
inductive Stages (Mine : Int → Prop) : Bool → Stage → Stage → Prop
  | queued {since since' : Nat} {next next' : Except StorageError Unit → Work Reply} :
      (Work.connect next).Abreast Mine false (.connect next') →
      Stages Mine false (.queued since next) (.queued since' next')
  | ready {statement statement' : Statement} {next : statement.Answer → Work Reply}
      {next' : statement'.Answer → Work Reply} :
      (Work.exec statement next).Abreast Mine true (.exec statement' next') →
      Stages Mine true (.ready statement next) (.ready statement' next')
  | sent {statement statement' : Statement} {next : statement.Answer → Work Reply}
      {next' : statement'.Answer → Work Reply} {since since' : Nat} : statement.isQuery = true →
      (Work.exec statement next).Abreast Mine true (.exec statement' next') →
      Stages Mine true (.sent statement next .none (.locked since))
        (.sent statement' next' .none (.locked since'))
  | finished : Stages Mine false .finished .finished

end System

/-- The tasks have the same in hand and the same left to do, and their callers have been told the same,
or nothing yet if there is something left. -/
structure Task.Abreast (Mine : Int → Prop) (db db' : Database) (task task' : Task) : Prop where
  stands : ∃ connected, System.Hands Mine db db' connected task.connections task'.connections ∧
    System.Stages Mine connected task.stage task'.stage
  reply : task.reply.map (·.core) = task'.reply.map (·.core)
  answered : task.stage.isFinished = true → task.reply.isSome = true

namespace System

variable {Mine : Int → Prop} {system system' : System} {db db' ended ended' : Database}
  {task task' : Task} {connected : Bool}

theorem Hands.of_true {hands hands' : List Nat} (h : Hands Mine db db' true hands hands') :
    ∃ connection connection', hands = [connection] ∧ hands' = [connection'] ∧
      Database.Mirrors Mine connection connection' db db' := by
  cases h with | one hmirrors
  exact ⟨_, _, rfl, rfl, hmirrors⟩

theorem Hands.of_false {hands hands' : List Nat} (h : Hands Mine db db' false hands hands') :
    hands = [] ∧ hands' = [] := by
  cases h with | empty
  exact ⟨rfl, rfl⟩

theorem Hands.of_untouched {hands hands' : List Nat} (h : Hands Mine db db' connected hands hands')
    (hu : ∀ connection ∈ hands, Database.Untouched connection db ended)
    (hu' : ∀ connection ∈ hands', Database.Untouched connection db' ended') :
    Hands Mine ended ended' connected hands hands' := by
  cases h with
  | empty => exact .empty
  | one hmirrors =>
    exact .one (hmirrors.of_untouched (hu _ List.mem_cons_self) (hu' _ List.mem_cons_self))

theorem reply_orElse {told told' : Option Reply} {reply reply' : Reply}
    (htold : told.map (·.core) = told'.map (·.core)) (hreply : reply.core = reply'.core) :
    (told <|> some reply).map (·.core) = (told' <|> some reply').map (·.core) := by
  cases told <;> cases told' <;> simp_all

/-- When both go on with what is left to do, they come to the same point. -/
theorem abreast_proceed {work work' : Work Reply} (hwork : work.Abreast Mine connected work')
    (hhands : Hands Mine system.db system'.db connected task.connections task'.connections)
    (hreply : task.reply.map (·.core) = task'.reply.map (·.core)) :
    Task.Abreast Mine (system.proceed task work).1.db (system'.proceed task' work').1.db
      (system.proceed task work).2 (system'.proceed task' work').2 := by
  induction hwork generalizing system system' with
  | @done reply reply' hr =>
    refine ⟨⟨false, hhands, .finished⟩, ?_, fun _ => by simp [proceed]⟩
    exact reply_orElse hreply hr
  | connect hnext herror _ _ =>
    exact ⟨⟨false, hhands, .queued (.connect hnext herror)⟩, hreply, fun hf => by cases hf⟩
  | exec hs hm hnext _ =>
    exact ⟨⟨true, hhands, .ready (.exec hs hm hnext)⟩, hreply, fun hf => by cases hf⟩
  | giveBack hr =>
    unfold proceed
    obtain ⟨connection, connection', hown, hown', -⟩ := hhands.of_true
    rw [hown, hown']
    exact ⟨⟨false, .empty, .finished⟩, reply_orElse hreply hr, fun _ => by simp [proceed]⟩
  | draw _ ih =>
    exact @ih _ _ { system with db.serial := _ } { system' with db.serial := _ }
      (hhands.of_untouched (fun _ _ => .of_eq rfl rfl rfl) fun _ _ => .of_eq rfl rfl rfl)

/-- The tasks keep their connections until they are finished. -/
theorem connections_proceed {work work' : Work Reply} (hwork : work.Abreast Mine connected work')
    (system system' : System) (task task' : Task) :
    ((system.proceed task work).2.stage.isFinished = false →
        (system.proceed task work).2.connections = task.connections) ∧
      ((system'.proceed task' work').2.stage.isFinished = false →
        (system'.proceed task' work').2.connections = task'.connections) := by
  induction hwork generalizing system system' with
  | done | connect | exec => exact ⟨fun _ => rfl, fun _ => rfl⟩
  | giveBack =>
    unfold proceed
    refine ⟨fun hf => ?_, fun hf => ?_⟩
    all_goals split at hf <;> cases hf
  | draw _ ih =>
    exact ih _ _ { system with db.serial := system.db.serial + 1 }
      { system' with db.serial := system'.db.serial + 1 }

end System

end Passbook
