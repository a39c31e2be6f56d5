import Passbook.Proofs.Footing.Tasks
import Passbook.Proofs.Ledger.Balanced
import Passbook.Scenario

/-! # Dealings with the ledger

Work that deals with the ledger moves money by transfers only, creates accounts, and reads
(`Dealing`). In a unit of work it may do so in any order, whatever the answers are and also after a
failure (`Work.Deals`). As long as its transaction can be committed, it balances, because a transfer
writes both of its sides, or nothing, or it breaks the transaction. -/

namespace Passbook

/-- The statement is about rows and changes none. -/
def Statement.Reads (statement : Statement) : Prop :=
  statement.isQuery = true ∧ statement.isWrite = false

namespace Work

/-- The work only reads. -/
abbrev Reads {α : Type} (work : Work α) : Prop := work.Obeys Statement.Reads fun _ => True

/-- Work in an open transaction that consists of transfers, creations of accounts and reads. What
comes next may depend on what has come of it so far, failures included. -/
inductive Deals : {α : Type} → Work α → Prop
  | reads {α : Type} {work : Work α} : work.Reads → Deals work
  | transfer (command : Command) : Deals (Transfer.perform command).run
  | createAccount (id : Int) (owner : Uuid) (kind : AccountKind) :
      Deals (Store.createAccount .callers id owner kind).run
  | bind {α β : Type} {work : Work α} {f : α → Work β} :
      Deals work → (∀ value, Deals (f value)) → Deals (work.bind f)

end Work

/-- What deals with the ledger commits what balances; without a transaction it only adds accounts. -/
def dealing : Rules where
  keeps draft := ∃ postings, draft.Balanced postings
  steady _ _ hsways := fun ⟨postings, h⟩ => ⟨postings, h.of_reads hsways.reads⟩
  lenient := True
  alone statement := statement.name = .insertAccount
  quits _ := True
  loose _ _ _ := trivial

/-- A transaction is open that balances or that can no longer be committed. -/
inductive Ground.Dealt : Ground → Prop
  | drafting {draft : Draft} {postings : List Posting} :
      draft.Balanced postings → Dealt (.drafting draft)
  | broken : Dealt .broken

namespace Ground.Dealt

variable {ground ground' : Ground} {statement : Statement}

theorem sways (h : ground.Dealt) (hsways : ground.Sways ground') : ground'.Dealt := by
  cases h with
  | drafting hb =>
    obtain ⟨_, rfl, hd⟩ := hsways.of_drafting
    exact .drafting (hb.of_reads hd.reads)
  | broken =>
    cases hsways with
    | same => exact .broken

/-- The end of the transaction is allowed at any time. -/
theorem allows (h : ground.Dealt) (hend : statement.isEnd = true) :
    dealing.Allows statement ground := by
  have hbegin : statement ≠ .begin := by
    rintro rfl
    cases hend
  cases h with
  | drafting hb => exact ⟨hbegin, fun _ => ⟨_, hb⟩⟩
  | broken => exact ⟨hbegin, fun _ => trivial⟩

end Ground.Dealt

namespace Work

variable {α : Type} {work : Work α} {ground : Ground} {published : List Books}

/-- Where the dealings in a transaction lead. -/
def Dealt (published : List Books) (footing : Footing) (_ : α) : Prop :=
  footing.published = published ∧ footing.ground.Dealt

theorem Obeys.upholds_dealt {Results : α → Prop}
    (h : work.Obeys (fun statement => statement.isQuery = true) Results) :
    work.Upholds dealing (Dealt published) ⟨published, .broken⟩ := by
  refine (h.upholds_broken trivial).mono ?_
  rintro _ _ ⟨rfl, -⟩
  exact ⟨rfl, .broken⟩

theorem Reads.queries (h : work.Reads) :
    work.Obeys (fun statement => statement.isQuery = true) fun _ => True :=
  h.mono (fun _ hs => hs.1) fun _ => id

theorem Reads.upholds {draft : Draft} {postings : List Posting} (h : work.Reads)
    (hb : draft.Balanced postings) :
    work.Upholds dealing (Dealt published) ⟨published, .drafting draft⟩ := by
  induction h generalizing draft with
  | done => exact ⟨rfl, .drafting hb⟩
  | exec hs hnext ih =>
    refine upholds_query hs.1 trivial (fun error => (Reads.queries (hnext _)).upholds_dealt) ?_
    intro draft' hsways around effect he
    rw [Statement.changes_of_not_isWrite hs.2 he]
    exact ih _ (hb.of_reads (hsways.reads_after _))
  | draw _ ih => exact fun drawn _ => ih drawn (hb.of_reads (Draft.reads_drew draft drawn))
  | report _ ih => exact ih hb

/-- A call may fail or not. -/
theorem Upholds.of_dealt {call : Call α} {footing : Footing}
    (h : call.Upholds dealing (Dealt published) (Dealt published) footing) :
    call.run.Upholds dealing (Dealt published) footing := by
  refine Upholds.mono h ?_
  rintro footing (failure | value) he <;> exact he

/-- Dealings in a transaction lead from where it balances to where it does so again. -/
theorem Deals.upholds (h : work.Deals) (hground : ground.Dealt) :
    work.Upholds dealing (Dealt published) ⟨published, ground⟩ := by
  induction h generalizing ground with
  | reads h =>
    cases hground with
    | drafting hb => exact h.upholds hb
    | broken => exact h.queries.upholds_dealt
  | transfer command =>
    cases hground with
    | broken => exact (Transfer.isInner_perform command).upholds_dealt
    | @drafting draft postings hb =>
      have hperform : (Transfer.perform command).Upholds dealing (Dealt published)
          (Dealt published) ⟨published, .drafting draft⟩ := by
        refine Transfer.upholds_perform trivial (fun _ => ⟨rfl, .broken⟩) command ?_ ?_
        · exact fun draft' _ hreads _ => ⟨rfl, .drafting (hb.of_reads hreads)⟩
        · intro draft' drawn debit credit hfresh hmem hdrawn hmoved
          exact ⟨rfl, .drafting (hmoved.balanced hb hfresh hmem hdrawn)⟩
      exact .of_dealt hperform
  | createAccount id owner kind =>
    cases hground with
    | broken => exact (Store.isInner_createAccount id owner kind).upholds_dealt
    | @drafting draft postings hb =>
      have hcreate : (Store.createAccount .callers id owner kind).Upholds dealing
          (Dealt published) (Dealt published) ⟨published, .drafting draft⟩ := by
        refine Store.upholds_createAccount trivial (fun _ => ⟨rfl, .broken⟩) ?_
        intro draft' row hgrows hchanges hfree hzero
        exact ⟨rfl, .drafting (hb.created hgrows hchanges hfree hzero)⟩
      exact .of_dealt hcreate
  | bind _ _ ih ihf =>
    refine Work.Upholds.bind ((ih hground).mono ?_)
    rintro ⟨_, after⟩ value ⟨rfl, hafter⟩
    exact ihf value hafter

/-- Without a transaction reading does nothing. -/
theorem Reads.upholds_closed (h : work.Reads) :
    work.Upholds dealing (fun footing _ => footing.ground = .closed) ⟨published, .closed⟩ := by
  induction h with
  | done => rfl
  | @exec statement next hs _ ih =>
    intro ground hsways
    cases hsways with
    | same =>
      refine ⟨fun hw => absurd hw (by simp [hs.2]), fun _ => trivial, fun answer after hhears => ?_⟩
      cases hhears with
      | alone => exact ih answer
      | begun | notBegun => cases hs.1
      | wrote hw => cases hs.2.symm.trans hw
  | draw _ ih => exact fun drawn _ => ih drawn
  | report _ ih => exact ih

end Work

/-- A call on a connection that it takes for itself and gives back. -/
theorem Call.upholds_pooled {α : Type} {rules : Rules} {call : Call α} {reply : α → Reply}
    (hquits : rules.quits [])
    (h : call.run.Upholds rules (fun footing _ => footing.ground = .closed) ⟨[], .closed⟩) :
    (Call.replying reply (Place.pooled.run call)).Upholds rules System.Leaves ⟨[], .outside⟩ := by
  refine ⟨rfl, hquits, fun _ => rfl, ?_⟩
  refine Work.Upholds.bind (Work.Upholds.bind (h.mono ?_))
  intro footing result hclosed
  refine ⟨?_, rfl⟩
  rw [hclosed]
  exact nofun

/-- An account is created on a connection of its own. -/
theorem Store.upholds_creation (id : Int) (owner : Uuid) (kind : AccountKind)
    (reply : Account → Reply) :
    (Call.replying reply (createAccount .pooled id owner kind)).Upholds dealing System.Leaves
      ⟨[], .outside⟩ := by
  refine Call.upholds_pooled trivial ?_
  intro ground hsways
  cases hsways with
  | same =>
    refine ⟨fun _ => rfl, fun _ => trivial, fun answer after hhears => ?_⟩
    have hclosed : after.ground = .closed := by cases hhears <;> rfl
    match answer with
    | .ok (_ :: _) => exact hclosed
    | .ok [] => exact hclosed
    | .error _ => exact hclosed

/-- A unit of work whose body deals with the ledger. -/
theorem UnitOfWork.upholds_dealing {α : Type} {body : Call α} (h : body.run.Deals)
    (runner : Runner) (name : String) (reply : α → Reply) :
    (Call.replying reply (runner.unit name body)).Upholds dealing System.Leaves
      ⟨[], .outside⟩ := by
  have hunit : (Call.replying reply (runner.unit name body)).Upholds dealing
      (Ended dealing fun _ => True) ⟨[], .outside⟩ := by
    refine upholds_ofCall trivial (fun _ => trivial) fun books => ?_
    refine Work.Upholds.mono (h.upholds (.drafting (.opened books))) ?_
    rintro ⟨_, ground⟩ result ⟨rfl, hdealt⟩
    cases hdealt with
    | drafting hb =>
      cases result with
      | ok => exact .kept ⟨_, hb⟩ trivial
      | error => exact .failed trivial
    | broken =>
      cases result with
      | ok => exact .lenient trivial trivial
      | error => exact .broken trivial
  exact hunit.mono fun _ _ hended => hended.ground

/-! ## Transactions that callers keep open -/

/-- The caller has no connection in the end, or keeps one on which a transaction is open. -/
def Rests (footing : Footing) (_ : Reply) : Prop :=
  footing.ground = .outside ∨ footing.ground.Dealt

namespace Scenario

theorem upholds_limitLockWaits (runner : Runner) (books : Books) :
    runner.limitLockWaits.Upholds dealing (fun footing _ => footing.ground.Dealt)
      (fun footing _ => footing.ground ≠ .outside) ⟨[], .drafting (.opened books)⟩ := by
  have hopened : ∀ books, (Ground.drafting (.opened books)).Dealt := fun books =>
    .drafting (.opened books)
  unfold Runner.limitLockWaits
  split
  · refine Call.upholds_bind ?_
    intro ground hsways
    obtain ⟨_, rfl, hd⟩ := hsways.of_drafting
    cases hd with | @swayed books'
    refine ⟨⟨nofun, nofun⟩, fun _ => trivial, fun answer after hhears => ?_⟩
    cases hhears with
    | bounded => exact hopened books'
    | failed => exact nofun
    | performed hq => cases hq
  · exact hopened books

/-- A transaction that is opened balances. -/
theorem upholds_opening (lockTimeout : Option Duration) :
    (opening lockTimeout).Upholds dealing Rests ⟨[], .outside⟩ := by
  refine ⟨rfl, trivial, fun _ => .inl rfl, ?_⟩
  have hopening : (do
      let _ ← Call.ask .begin
      (Runner.default.withLockTimeout lockTimeout).limitLockWaits : Call Unit).Upholds dealing
        (fun footing _ => footing.ground.Dealt) (fun footing _ => footing.ground ≠ .outside)
        ⟨[], .closed⟩ := by
    refine Call.upholds_bind ?_
    intro ground hsways
    cases hsways with
    | same =>
      refine ⟨nofun, fun _ => trivial, fun answer after hhears => ?_⟩
      cases hhears with
      | begun books => exact upholds_limitLockWaits _ books
      | notBegun => exact nofun
      | alone hb => exact absurd rfl hb
      | wrote hw => cases hw
  refine Work.Upholds.bind (Work.Upholds.mono hopening ?_)
  intro footing result hends
  cases result with
  | ok => exact .inr hends
  | error => exact ⟨hends, .inl rfl⟩

/-- It balances when it is committed, if it can be. -/
theorem upholds_closing {statement : Statement} (hend : statement.isEnd = true) {ground : Ground}
    (hground : ground.Dealt) : (closing statement).Upholds dealing Rests ⟨[], ground⟩ := by
  intro ground' hsways
  have hdealt := hground.sways hsways
  refine ⟨hdealt.allows hend, fun _ => trivial, fun answer after hhears => ⟨?_, .inl rfl⟩⟩
  cases hhears <;> exact nofun

end Scenario

/-- What callers do who deal with the ledger, on the connections that they have for it: units of work;
creations of accounts and reads on connections of their own; and transactions that they keep open,
dealings in these, and their ends. -/
inductive Dealing : List Nat → Work Reply → Prop
  | unit {α : Type} {body : Call α} (runner : Runner) (name : String) (reply : α → Reply) :
      body.run.Deals → Dealing [] (Call.replying reply (runner.unit name body))
  | reads {α : Type} {call : Call α} (reply : α → Reply) :
      call.run.Reads → Dealing [] (Call.replying reply (Place.pooled.run call))
  | createAccount (id : Int) (owner : Uuid) (kind : AccountKind) :
      Dealing [] (Call.replying .account (Store.createAccount .pooled id owner kind))
  | openAccount (owner : Uuid) (kind : AccountKind) :
      Dealing [] (Call.replying .created (Store.openAccount .pooled owner kind))
  | opens (lockTimeout : Option Duration) : Dealing [] (Scenario.opening lockTimeout)
  | within {work : Work Reply} (connection : Nat) : work.Deals → Dealing [connection] work
  | closes {statement : Statement} (connection : Nat) : statement.isEnd = true →
      Dealing [connection] (Scenario.closing statement)

/-- Where dealings may begin: without a connection, or in a transaction that is kept open. -/
def Ground.Ready (connections : List Nat) (ground : Ground) : Prop :=
  if connections = [] then ground = .outside else ground.Dealt

theorem Dealing.upholds {connections : List Nat} {work : Work Reply} {ground : Ground}
    (h : Dealing connections work) (hground : ground.Ready connections) :
    work.Upholds dealing Rests ⟨[], ground⟩ := by
  have hleaves : ∀ {work : Work Reply}, work.Upholds dealing System.Leaves ⟨[], .outside⟩ →
      ground = .outside → work.Upholds dealing Rests ⟨[], ground⟩ := by
    rintro work hup rfl
    exact hup.mono fun _ _ => .inl
  cases h with
  | unit runner name reply hdeals =>
    exact hleaves (UnitOfWork.upholds_dealing hdeals runner name reply) hground
  | reads reply hreads => exact hleaves (Call.upholds_pooled trivial hreads.upholds_closed) hground
  | createAccount id owner kind => exact hleaves (Store.upholds_creation id owner kind _) hground
  | openAccount owner kind =>
    exact hleaves (fun serial _ => Store.upholds_creation _ owner kind _) hground
  | opens lockTimeout =>
    obtain rfl : ground = .outside := hground
    exact Scenario.upholds_opening lockTimeout
  | within connection hdeals => exact (hdeals.upholds hground).mono fun _ _ he => .inr he.2
  | closes connection hend => exact Scenario.upholds_closing hend hground

/-! ## Operations that deal with the ledger -/

namespace Call

variable {α β : Type}

theorem reads_of_obeys {call : Call α} (h : call.Obeys Statement.Reads fun _ => True) :
    call.run.Reads :=
  h.mono (fun _ => id) fun _ _ => trivial

theorem deals_bind {call : Call α} {f : α → Call β} (h : call.run.Deals)
    (hf : ∀ value, (f value).run.Deals) : (call >>= f).run.Deals := by
  rw [run_bind]
  refine .bind h fun result => ?_
  cases result with
  | ok value => exact hf value
  | error => exact .reads (.done trivial)

theorem deals_lift {work : Work α} (h : work.Deals) : (ExceptT.lift work : Call α).run.Deals :=
  .bind h fun _ => .reads (.done trivial)

theorem deals_replying {call : Call α} (h : call.run.Deals) (reply : α → Reply) :
    (Call.replying reply call).Deals :=
  .bind h fun _ => .reads (.done trivial)

end Call

namespace Store

theorem reads_account (lookup : AccountLookup) : (account .callers lookup).run.Reads :=
  Call.reads_of_obeys (Call.obeys_bind (Call.obeys_ask ⟨rfl, rfl⟩ fun _ => trivial) fun rows =>
    Call.obeys_first rows trivial)

theorem reads_accountsOf (owner : Uuid) : (accountsOf .callers owner).run.Reads :=
  Call.reads_of_obeys (Call.obeys_ask ⟨rfl, rfl⟩ fun _ => trivial)

theorem reads_entriesOf (id : Int) : (entriesOf .callers id).run.Reads :=
  Call.reads_of_obeys (Call.obeys_ask ⟨rfl, rfl⟩ fun _ => trivial)

theorem deals_openAccount (owner : Uuid) (kind : AccountKind) :
    (openAccount .callers owner kind).run.Deals :=
  Call.deals_bind (.reads (Call.reads_of_obeys Call.obeys_draw)) fun _ => .createAccount ..

end Store

namespace Operation

/-- Whether an operation is a transfer, the creation of an account, or a read. -/
def isDealing : Operation → Bool
  | transfer .. | account .. | createAccount .. | openAccount .. | accountsOf _ | entriesOf _ => true
  | setBalance .. | setStoredBalance .. | record .. | recordStored .. => false

variable {operation : Operation}

theorem deals_work (runner : Runner) (opened : List Int) (h : operation.isDealing = true) :
    (operation.work runner .callers opened).Deals := by
  cases operation with
  | transfer => exact Call.deals_replying (.transfer _) _
  | account => exact Call.deals_replying (.reads (Store.reads_account _)) _
  | createAccount => exact Call.deals_replying (.createAccount ..) _
  | openAccount owner kind => exact Call.deals_replying (Store.deals_openAccount owner kind) _
  | accountsOf => exact Call.deals_replying (.reads (Store.reads_accountsOf _)) _
  | entriesOf => exact Call.deals_replying (.reads (Store.reads_entriesOf _)) _
  | setBalance | setStoredBalance | record | recordStored => cases h

/-- An operation of these kinds that stands alone. -/
theorem dealing_work (runner : Runner) (opened : List Int) (h : operation.isDealing = true) :
    Dealing [] (operation.work runner .pooled opened) := by
  cases operation with
  | transfer => exact .unit _ _ _ (.transfer _)
  | account => exact .reads _ (Store.reads_account _)
  | createAccount => exact .createAccount ..
  | openAccount => exact .openAccount ..
  | accountsOf => exact .reads _ (Store.reads_accountsOf _)
  | entriesOf => exact .reads _ (Store.reads_entriesOf _)
  | setBalance | setStoredBalance | record | recordStored => cases h

end Operation

namespace Plan

theorem deals_inTurn (runner : Runner) (ignoring : Bool) {operations : List Operation}
    (opened : List Int) (h : ∀ operation ∈ operations, operation.isDealing = true) :
    (inTurn runner ignoring operations opened).run.Deals := by
  induction operations generalizing opened with
  | nil => exact .reads (.done trivial)
  | cons operation operations ih =>
    have hwork := Operation.deals_work runner opened (h operation List.mem_cons_self)
    have hreport : ∀ reply, (Call.report reply).run.Deals := fun reply =>
      .reads (Call.reads_of_obeys (Call.obeys_report reply))
    have hrest : ∀ opened, (inTurn runner ignoring operations opened).run.Deals := fun opened =>
      ih opened fun operation hmem => h operation (List.mem_cons_of_mem _ hmem)
    refine Call.deals_bind (Call.deals_lift hwork) fun reply =>
      Call.deals_bind (hreport reply) fun _ => ?_
    split
    · exact .reads (.done trivial)
    · exact hrest _

/-- A plan whose operations are of these kinds, whether or not it ignores their failures. -/
theorem dealing_work (runner : Runner) (opened : List Int) {plan : Plan}
    (h : ∀ operation ∈ plan.operations, operation.isDealing = true) :
    Dealing [] (plan.work runner opened) := by
  refine .unit _ _ _ (Call.deals_bind (deals_inTurn runner plan.ignoring opened h) fun _ => ?_)
  split <;> exact .reads (.done trivial)

end Plan

end Passbook
