import Passbook.Proofs.Deadlock.Climbs
import Passbook.Proofs.Operation.InTurn
import Passbook.Proofs.Serial.Determined

/-! # Transfers that are turned down

A transfer that is turned down leaves no trace in the transaction of its caller. So a unit of work that
does transfers and ignores their failures comes to what the transfers come to that are executed one after
another (`Transfer.ignoring_as_executed`), up to the values that are generated. -/

namespace Passbook

theorem Reply.failure?_core (reply : Reply) : reply.core.failure? = reply.failure? := by
  cases reply <;> rfl

theorem Reply.core_entry {result result' : Except Failure Entry}
    (h : result.map (·.core) = result'.map (·.core)) :
    (Reply.ofResult .entry result).core = (Reply.ofResult .entry result').core := by
  rcases cases_of_map h with ⟨entry, entry', rfl, rfl, hcore⟩ | ⟨failure, rfl, rfl⟩
  · exact congrArg Reply.entry hcore
  · rfl

/-- The operation that is the transfer. -/
def Command.operation (command : Command) : Operation :=
  .transfer command.sender (.number command.source) (.number command.target) command.amount

namespace Transfer

/-! ## Generated values -/

/-- The examination does not depend on generated values. -/
theorem examine_core (command : Command) (view : Books) :
    examine command view.core = (examine command view).map fun (sender, receiver) =>
      (sender.core, receiver.core) :=
  @examine_map Account.core Entry.core (fun _ => rfl) (fun _ => rfl) command view

theorem balance_of_core {row row' : Account} (h : row.core = row'.core) : row.balance = row'.balance := by
  change row.core.balance = row'.core.balance
  rw [h]

theorem changes_core {command : Command} {sender sender' receiver receiver' : Account}
    (hsender : sender.core = sender'.core) (hreceiver : receiver.core = receiver'.core)
    (draws draws' : Draws) (serial serial' : Nat) (now now' : Instant) :
    (changes command sender receiver draws serial now).core =
      (changes command sender' receiver' draws' serial' now').core := by
  obtain ⟨id, owner, _, kind, createdAt, _⟩ := sender
  obtain ⟨id', owner', _, kind', createdAt', _⟩ := receiver
  obtain ⟨rfl, rfl, rfl, rfl, rfl, -⟩ := Account.mk.inj hsender
  obtain ⟨rfl, rfl, rfl, rfl, rfl, -⟩ := Account.mk.inj hreceiver
  simp [changes, Books.core, Account.core, Entry.core, debit, credit]

/-- On pages that are alike up to generated values, a transfer comes to the same up to these. -/
theorem outcome_core {command : Command} {page page' : Page}
    (h : page.view.core = page'.view.core) :
    (outcome command page).1.map (·.core) = (outcome command page').1.map (·.core) ∧
      (outcome command page).2.1.core = (outcome command page').2.1.core := by
  have hexamine := examine_core command page.view
  rw [h, examine_core] at hexamine
  rcases cases_of_map hexamine with ⟨rows', rows, he', he, hrows⟩ | ⟨failure, he', he⟩
  · obtain ⟨hsender, hreceiver⟩ := Prod.mk.inj hrows
    rw [outcome, he, outcome, he']
    refine ⟨?_, ?_⟩
    · simp [Except.map, debit, Entry.core, balance_of_core hsender]
    · dsimp only
      rw [Books.core_overlay, Books.core_overlay, h, changes_core hsender.symm hreceiver.symm]
  · rw [outcome_of_error he, outcome_of_error he']
    exact ⟨rfl, h⟩

end Transfer

/-! ## In a unit of work -/

namespace Plan

variable {runner : Runner} {opened : List Int} {page : Page}

theorem inside_lift {α : Type} (work : Work α) (page : Page) :
    (ExceptT.lift work : Call α).run.inside page = ((work.inside page).1, .ok (work.inside page).2) :=
  Work.inside_bind ..

/-- The first of the operations, if it succeeds or its failure is ignored. -/
theorem inside_inTurn {ignoring : Bool} {operation : Operation} {reply : Reply} {page' : Page}
    (hdone : (operation.work runner .callers opened).inside page = (page', reply))
    (hgo : ignoring = true ∨ reply.failure? = none) (operations : List Operation) :
    (inTurn runner ignoring (operation :: operations) opened).run.inside page =
      (inTurn runner ignoring operations (opened ++ reply.opened?.toList)).run.inside
        (page'.report reply) := by
  have hlift := inside_lift (operation.work runner .callers opened) page
  rw [hdone] at hlift
  rw [inTurn, Call.inside_bind_ok hlift, Call.inside_bind_ok rfl]
  rcases hgo with rfl | hnone
  · cases reply.failure? <;> rfl
  · rw [hnone]

/-- The first of the operations, if its failure is the end. -/
theorem inside_inTurn_error {operation : Operation} {reply : Reply} {page' : Page} {failure : Failure}
    (hdone : (operation.work runner .callers opened).inside page = (page', reply))
    (hfailure : reply.failure? = some failure) (operations : List Operation) :
    (inTurn runner false (operation :: operations) opened).run.inside page =
      (page'.report reply, .error failure) := by
  have hlift := inside_lift (operation.work runner .callers opened) page
  rw [hdone] at hlift
  rw [inTurn, Call.inside_bind_ok hlift, Call.inside_bind_ok rfl, hfailure]
  rfl

/-- A plan that is carried out while nobody else is there. -/
theorem serves_work {system : System} (h : system.Unused) (hadmits : runner.Admits)
    (opened : List Int) (plan : Plan) :
    (∃ past after task, system.Serves [] (plan.work runner opened) past after task) ∧
      ∀ past after task, system.Serves [] (plan.work runner opened) past after task →
        ∃ clock page result, (plan.body runner opened).run.inside (system.db.freshPage clock) =
            (page, result) ∧
          task.reply = some (.ofResult (fun _ => .done) result) ∧ task.progress = page.told ∧
          after.db.books =
            UnitOfWork.published system.db.books page (result.map fun _ => .done) := by
  have hattains := @UnitOfWork.attains_work (plan.toUnit runner opened) _ _ h.ready rfl hadmits
    (plan.isBody runner opened)
  rw [work_toUnit] at hattains
  obtain ⟨hexists, hdone⟩ := h.serves hattains fun desk' reply hcomes => by
    obtain ⟨_, -, -, hleaves⟩ := hcomes
    exact hleaves.pool
  refine ⟨hexists, fun past after task hserves => ?_⟩
  obtain ⟨-, reply, hreply, clock, rfl, -, hleaves⟩ := hdone past after task hserves
  have htold := hleaves.told
  have hbooks := hleaves.books
  rw [toUnit, UnitOfWork.ofCall, Call.run_map, Work.inside_bind] at hreply htold hbooks
  refine ⟨clock, _, _, rfl, ?_, htold, hbooks⟩
  rw [hreply]
  change some (Reply.ofResult id (Except.map _
    ((plan.body runner opened).run.inside (system.db.freshPage clock)).2)) = _
  cases ((plan.body runner opened).run.inside (system.db.freshPage clock)).2 <;> rfl

end Plan

namespace Transfer

variable {runner : Runner} {opened : List Int} {command : Command} {commands : List Command}
  {system after : System} {past : Past} {task : Task} {reply : Reply} {replies : List Reply}
  {page : Page}

/-- The transfers in turn, as one unit of work. -/
def together (name : String) (ignoring : Bool) (commands : List Command) : Plan where
  name := name
  operations := commands.map (·.operation)
  ignoring := ignoring
  failure := none

/-- The commands that were not turned down. -/
def accepted (commands : List Command) (replies : List Reply) : List Command :=
  ((commands.zip replies).filter (·.2.failure?.isNone)).map (·.1)

/-- A transfer on a page comes to what it has come to elsewhere, with the given reply and books, up to
generated values. -/
structure Matches (reply : Reply) (books : Books) (page page' : Page) (reply' : Reply) : Prop where
  unaborted : page'.aborted = false
  told : page'.told = page.told
  view : page'.view.core = books.core
  core : reply'.core = reply.core
  rejected : reply.failure?.isSome = true → page.view.core = books.core

/-- A transfer that is executed while nobody else is there comes to what it comes to in any transaction
that sees the same. -/
theorem matches_executed (hunused : system.Unused) (hadmits : runner.Admits)
    (hserves : system.Serves [] (command.operation.work runner .pooled opened) past after task)
    (hreply : task.reply = some reply) (hcore : page.view.core = system.db.books.core)
    (hopen : page.aborted = false) :
    after.Unused ∧ ∀ opened', ∃ page' reply',
      (command.operation.work runner .callers opened').inside page = (page', reply') ∧
        Matches reply after.db.books page page' reply' := by
  obtain ⟨hafter, clock, _, _, hreply', hinside, hcommitted⟩ :=
    (hunused.serves_pooled hadmits opened command.operation).2 past after task hserves
  cases hreply.symm.trans hreply'
  obtain ⟨_, halone⟩ := @inside_replying command (system.db.freshPage clock) rfl
  obtain ⟨rfl, rfl⟩ := Prod.mk.inj (halone.symm.trans hinside)
  obtain ⟨hresult, hview⟩ := @outcome_core command page (system.db.freshPage clock) hcore
  obtain ⟨asked, hdone⟩ := @inside_replying command page hopen
  refine ⟨hafter, fun opened' => ⟨_, _, hdone, hopen, rfl, ?_, Reply.core_entry hresult, ?_⟩⟩
  · rw [hcommitted.books, hview]
  · intro hfailed
    rw [hcore, hcommitted.books]
    dsimp only at hfailed ⊢
    cases hexamine : examine command system.db.books with
    | error failure => rw [@outcome_of_error _ (system.db.freshPage clock) _ hexamine]; rfl
    | ok rows =>
      rw [@outcome_of_ok _ (system.db.freshPage clock) _ _ hexamine] at hfailed
      cases hfailed

/-- Transfers that are executed in turn, none of which is turned down unless that is ignored, come to
what they come to in a transaction that sees the same. -/
theorem inside_inTurn_of_executed {ignoring : Bool} (hadmits : runner.Admits)
    (hunused : system.Unused) (hcore : page.view.core = system.db.books.core)
    (hopen : page.aborted = false)
    (hturn : system.InTurn runner .pooled [] opened (commands.map (·.operation)) past after replies)
    (hgo : ignoring = true ∨ ∀ reply ∈ replies, reply.failure? = none) (opened' : List Int) :
    ∃ page', (Plan.inTurn runner ignoring (commands.map (·.operation)) opened').run.inside page =
        (page', .ok ()) ∧ page'.aborted = false ∧ page'.view.core = after.db.books.core ∧
      page'.told.map (·.core) = page.told.map (·.core) ++ replies.map (·.core) := by
  induction commands generalizing system page past replies opened opened' with
  | nil =>
    cases hturn
    exact ⟨page, rfl, hopen, hcore, by simp⟩
  | cons command commands ih =>
    cases hturn with
    | @cons _ middle _ _ _ _ _ _ task reply replies hserves hreply hrest =>
    obtain ⟨hmiddle, hdone⟩ := matches_executed hunused hadmits hserves hreply hcore hopen
    obtain ⟨page', reply', hinside, hmatches⟩ := hdone opened'
    have hfirst : ignoring = true ∨ reply'.failure? = none := by
      rw [← Reply.failure?_core, hmatches.core, Reply.failure?_core]
      exact hgo.imp_right fun hnone => hnone reply List.mem_cons_self
    have hlater : ignoring = true ∨ ∀ reply ∈ replies, reply.failure? = none :=
      hgo.imp_right fun hnone reply hmem => hnone reply (List.mem_cons_of_mem _ hmem)
    obtain ⟨last, hlast, haborted, hview, htold⟩ := @ih _ _ _ _ (page'.report reply') hmiddle
      hmatches.view hmatches.unaborted hrest hlater (opened' ++ reply'.opened?.toList)
    refine ⟨last, ?_, haborted, hview, ?_⟩
    · rw [List.map_cons, Plan.inside_inTurn hinside hfirst, hlast]
    · rw [htold, Page.report, hmatches.told]
      simp [hmatches.core]

/-- Of transfers that are executed in turn, the first that is turned down ends a unit of work that does
not ignore it. -/
theorem inside_inTurn_of_rejected {failure : Failure} (hadmits : runner.Admits)
    (hunused : system.Unused) (hcore : page.view.core = system.db.books.core)
    (hopen : page.aborted = false)
    (hturn : system.InTurn runner .pooled [] opened (commands.map (·.operation)) past after replies)
    (hfailure : replies.findSome? (·.failure?) = some failure) (opened' : List Int) :
    ((Plan.inTurn runner false (commands.map (·.operation)) opened').run.inside page).2 =
      .error failure := by
  induction commands generalizing system page past replies opened opened' with
  | nil =>
    cases hturn
    cases hfailure
  | cons command commands ih =>
    cases hturn with
    | @cons _ middle _ _ _ _ _ _ task reply replies hserves hreply hrest =>
    obtain ⟨hmiddle, hdone⟩ := matches_executed hunused hadmits hserves hreply hcore hopen
    obtain ⟨page', reply', hinside, hmatches⟩ := hdone opened'
    have hsame : reply'.failure? = reply.failure? := by
      rw [← Reply.failure?_core, hmatches.core, Reply.failure?_core]
    rw [List.findSome?_cons] at hfailure
    cases hfirst : reply.failure? with
    | some own =>
      rw [hfirst] at hfailure
      cases hfailure
      rw [List.map_cons, Plan.inside_inTurn_error hinside (hsame.trans hfirst)]
    | none =>
      rw [hfirst] at hfailure
      rw [List.map_cons, Plan.inside_inTurn hinside (.inr (hsame.trans hfirst))]
      exact @ih _ _ _ _ (page'.report reply') hmiddle hmatches.view hmatches.unaborted hrest hfailure
        _

/-- Those of the transfers that are not turned down come to the same without the others. -/
theorem inside_inTurn_accepted {ignoring : Bool} (hadmits : runner.Admits)
    (hunused : system.Unused) (hcore : page.view.core = system.db.books.core)
    (hopen : page.aborted = false)
    (hturn : system.InTurn runner .pooled [] opened (commands.map (·.operation)) past after replies)
    (opened' : List Int) :
    ∃ page', (Plan.inTurn runner ignoring ((accepted commands replies).map (·.operation))
        opened').run.inside page = (page', .ok ()) ∧ page'.aborted = false ∧
      page'.view.core = after.db.books.core ∧
      page'.told.map (·.core) = page.told.map (·.core) ++
        (replies.filter (·.failure?.isNone)).map (·.core) := by
  induction commands generalizing system page past replies opened opened' with
  | nil =>
    cases hturn
    exact ⟨page, rfl, hopen, hcore, by simp⟩
  | cons command commands ih =>
    cases hturn with
    | @cons _ middle _ _ _ _ _ _ task reply replies hserves hreply hrest =>
    obtain ⟨hmiddle, hdone⟩ := matches_executed hunused hadmits hserves hreply hcore hopen
    obtain ⟨page', reply', hinside, hmatches⟩ := hdone opened'
    cases hfirst : reply.failure? with
    | some failure =>
      have hskip : accepted (command :: commands) (reply :: replies) = accepted commands replies := by
        simp [accepted, hfirst]
      rw [hskip, List.filter_cons_of_neg (by simp [hfirst])]
      exact ih hmiddle (hmatches.rejected (by rw [hfirst]; rfl)) hopen hrest opened'
    | none =>
      have htake : accepted (command :: commands) (reply :: replies) =
          command :: accepted commands replies := by
        simp [accepted, hfirst]
      have hnone : reply'.failure? = none := by
        rw [← Reply.failure?_core, hmatches.core, Reply.failure?_core, hfirst]
      obtain ⟨last, hlast, haborted, hview, htold⟩ := @ih _ _ _ _ (page'.report reply') hmiddle
        hmatches.view hmatches.unaborted hrest (opened' ++ reply'.opened?.toList)
      rw [htake, List.filter_cons_of_pos (by simp [hfirst])]
      refine ⟨last, ?_, haborted, hview, ?_⟩
      · rw [List.map_cons, Plan.inside_inTurn hinside (.inr hnone), hlast]
      · rw [htold, Page.report, hmatches.told]
        simp [hmatches.core]

theorem inside_body {name : String} {ignoring : Bool} (page : Page) :
    ((together name ignoring commands).body runner opened).run.inside page =
      (Plan.inTurn runner ignoring (commands.map (·.operation)) opened).run.inside page := by
  change (Plan.inTurn runner ignoring (commands.map (·.operation)) opened >>= pure).run.inside page = _
  rw [bind_pure]

/-- Transfers done together in a unit of work that ignores their failures come to what they come to that
are executed in turn, and so do those of them that are not turned down. A unit of work that does not
ignore failures ends with the first of them, and then it commits nothing. A bound on lock waits which the
database refuses is left out. -/
theorem ignoring_as_executed {db : Database} {capacity : Nat} (hrest : db.AtRest)
    (hcapacity : 0 < capacity) (hadmits : runner.Admits) (name : String) (commands : List Command) :
    (∃ past executed replies, (System.start db capacity).InTurn runner .pooled [] []
      (commands.map (·.operation)) past executed replies) ∧
    (∀ ignoring others, ∃ past after task, (System.start db capacity).Serves []
      ((together name ignoring others).work runner []) past after task) ∧
    ∀ past executed replies, (System.start db capacity).InTurn runner .pooled [] []
        (commands.map (·.operation)) past executed replies →
      (∀ past after task, (System.start db capacity).Serves []
          ((together name true commands).work runner []) past after task →
        task.reply = some .done ∧ task.progress.map (·.core) = replies.map (·.core) ∧
          after.db.books.core = executed.db.books.core) ∧
      (∀ ignoring past after task, (System.start db capacity).Serves []
          ((together name ignoring (accepted commands replies)).work runner []) past after task →
        task.reply = some .done ∧
          task.progress.map (·.core) = (replies.filter (·.failure?.isNone)).map (·.core) ∧
          after.db.books.core = executed.db.books.core) ∧
      ∀ past after task failure, (System.start db capacity).Serves []
          ((together name false commands).work runner []) past after task →
        replies.findSome? (·.failure?) = some failure →
        task.reply = some (.failed failure) ∧ after.db.books = db.books := by
  have hunused := System.unused_start hrest hcapacity
  have hserves := fun plan => @Plan.serves_work runner _ hunused hadmits [] plan
  refine ⟨hunused.exists_inTurn hadmits [] _, fun ignoring others => (hserves _).1,
    fun past executed replies hturn => ⟨?_, ?_, ?_⟩⟩
  · intro past' after task hdone
    obtain ⟨clock, page, result, hinside, hreply, htold, hbooks⟩ := (hserves _).2 past' after task hdone
    obtain ⟨page', hinside', haborted, hview, htold'⟩ := @inside_inTurn_of_executed _ _ _ _ _ _ _
      ((System.start db capacity).db.freshPage clock) true hadmits hunused rfl rfl hturn (.inl rfl) []
    rw [inside_body, hinside'] at hinside
    cases hinside
    refine ⟨hreply, ?_, ?_⟩
    · rw [htold, htold']
      rfl
    · rw [hbooks, ← hview]
      simp [UnitOfWork.published, Except.map, haborted]
  · intro ignoring past' after task hdone
    obtain ⟨clock, page, result, hinside, hreply, htold, hbooks⟩ := (hserves _).2 past' after task hdone
    obtain ⟨page', hinside', haborted, hview, htold'⟩ := @inside_inTurn_accepted _ _ _ _ _ _ _
      ((System.start db capacity).db.freshPage clock) ignoring hadmits hunused rfl rfl hturn []
    rw [inside_body, hinside'] at hinside
    cases hinside
    refine ⟨hreply, ?_, ?_⟩
    · rw [htold, htold']
      rfl
    · rw [hbooks, ← hview]
      simp [UnitOfWork.published, Except.map, haborted]
  · intro past' after task failure hdone hfailure
    obtain ⟨clock, page, result, hinside, hreply, -, hbooks⟩ := (hserves _).2 past' after task hdone
    have herror := @inside_inTurn_of_rejected _ _ _ _ _ _ _
      ((System.start db capacity).db.freshPage clock) failure hadmits hunused rfl rfl hturn hfailure []
    rw [← inside_body, hinside] at herror
    dsimp only at herror
    subst herror
    exact ⟨hreply, hbooks⟩

/-- A transfer, one that cannot be paid, and one that can be paid because of the first. -/
def mixedCommands : List Command :=
  [⟨.nil, 1000000001, 1000000002, 20⟩, ⟨.nil, 1000000001, 1000000002, 100⟩,
    ⟨.nil, 1000000002, 1000000001, 25⟩]

/-- The three of them are executed in turn as they are done together. -/
theorem ignoring_as_executed_mixed : ∃ past executed replies,
    (System.start pairLedger 1).InTurn .default .pooled [] [] (mixedCommands.map (·.operation)) past
      executed replies ∧
    replies.map (·.failure?) =
      [none, some (.ledger (.insufficientBalance 100 30)), none] ∧
    executed.db.books.accounts.map (fun row => (row.id, row.balance)) =
      [(1000000001, 55), (1000000002, 5)] := by
  obtain ⟨⟨past, executed, replies, hturn⟩, -, hdone⟩ :=
    ignoring_as_executed (⟨rfl, rfl⟩ : pairLedger.AtRest) Nat.one_pos Runner.admits_default "batch"
      mixedCommands
  have htrace : (System.start pairLedger 1).traces
      (.spawn [] none ((together "batch" true mixedCommands).work .default []) ::
        .move (.connect 0) :: List.replicate 16 (.move (.send 0))) (fun _ after =>
      (after.tasks[0]?).any fun task => task.stage.isFinished = true ∧
        task.progress.map (·.failure?) =
          [none, some (.ledger (.insufficientBalance 100 30)), none] ∧
        after.db.books.accounts.map (fun row => (row.id, row.balance)) =
          [(1000000001, 55), (1000000002, 5)]) = true := rfl
  obtain ⟨past', after, htrace, htask⟩ := System.exists_of_traces htrace
  obtain ⟨task, hplace, htask⟩ := (Option.any_eq_true ..).mp htask
  obtain ⟨hfinished, hfailures, hbalances⟩ := of_decide_eq_true htask
  obtain ⟨-, hreplies, hbooks⟩ := (hdone past executed replies hturn).1 past' after task
    (.of_trace? htrace (by decide) hplace hfinished)
  have hcore : ∀ replies : List Reply,
      (replies.map (·.core)).map (·.failure?) = replies.map (·.failure?) := by
    simp [Reply.failure?_core]
  have hcore' : ∀ books : Books, books.core.accounts.map (fun row => (row.id, row.balance)) =
      books.accounts.map (fun row => (row.id, row.balance)) := by
    simp [Books.core, Account.core]
  refine ⟨past, executed, replies, hturn, ?_, ?_⟩
  · rw [← hcore, ← hreplies, hcore, hfailures]
  · rw [← hcore', ← hbooks, hcore', hbalances]

end Transfer

end Passbook
