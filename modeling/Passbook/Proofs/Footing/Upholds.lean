import Passbook.Proofs.Footing.Basic
import Passbook.Proofs.UnitOfWork.Outcome

/-! # Work that upholds rules

`Rules` say what work may do: what it must have written when it commits, whether it may commit after a
statement has failed, what it may write without a transaction, and what may have been published when
its caller gives up. `Work.Upholds` is the weakest condition on a footing under which work keeps to the
rules and ends as it should, whatever the answers are and whatever others do in between. It is composed
as the work is (`Work.Upholds.bind`, `Call.upholds_bind`), and a unit of work upholds the rules if its
body does (`UnitOfWork.upholds_work`). -/

namespace Passbook

/-- What work may commit, also after a failed statement (`lenient`), what it may write outside of a
transaction, and what it may have published while its caller can still give up. -/
structure Rules where
  keeps : Draft → Prop
  steady : ∀ draft draft', draft.Sways draft' → keeps draft → keeps draft'
  lenient : Prop
  alone : Statement → Prop
  quits : List Books → Prop
  loose : ∀ statement, alone statement → ∀ published, quits published

/-- The statement may be sent from the ground. -/
def Rules.Allows (rules : Rules) (statement : Statement) : Ground → Prop
  | .outside => False
  | .closed => statement.isWrite = true → rules.alone statement
  | .drafting draft => statement ≠ .begin ∧ (statement = .commit → rules.keeps draft)
  | .broken => statement ≠ .begin ∧ (statement = .commit → rules.lenient)

theorem Rules.Allows.begin {rules : Rules} {statement : Statement} {ground : Ground}
    (h : rules.Allows statement ground) (hb : statement = .begin) : ground = .closed := by
  cases ground with
  | outside => exact h.elim
  | closed => rfl
  | drafting | broken => exact absurd hb h.1

/-- What remains of the rules when the caller has given up: nothing more is committed. -/
def Rules.leaving (rules : Rules) : Rules where
  keeps _ := False
  steady _ _ _ := id
  lenient := False
  alone := rules.alone
  quits := rules.quits
  loose := rules.loose

theorem Rules.Allows.of_leaving {rules : Rules} {statement : Statement} {ground : Ground}
    (h : rules.leaving.Allows statement ground) : rules.Allows statement ground := by
  cases ground with
  | outside | closed => exact h
  | drafting | broken => exact ⟨h.1, fun hcommit => (h.2 hcommit).elim⟩

namespace Work

variable {α β : Type} {rules : Rules}

/-- From the footing the work keeps to the rules, and it ends as it should. -/
def Upholds (rules : Rules) (Ends : Footing → α → Prop) : Footing → Work α → Prop
  | footing, .done value => Ends footing value
  | footing, .connect next =>
    footing.ground = .outside ∧ rules.quits footing.published ∧
      (∀ error, Upholds rules Ends footing (next (.error error))) ∧
      Upholds rules Ends ⟨footing.published, .closed⟩ (next (.ok ()))
  | footing, .giveBack rest =>
    footing.ground ≠ .outside ∧ Upholds rules Ends ⟨footing.published, .outside⟩ rest
  | footing, .exec statement next =>
    ∀ ground, footing.ground.Sways ground →
      rules.Allows statement ground ∧
        (statement.isEnd = false → rules.quits footing.published) ∧
        ∀ answer after, Hears ⟨footing.published, ground⟩ statement answer after →
          Upholds rules Ends after (next answer)
  | footing, .draw next =>
    ∀ drawn, footing.ground.Fresh drawn →
      Upholds rules Ends ⟨footing.published, footing.ground.drew drawn⟩ (next drawn)
  | footing, .report _ rest => Upholds rules Ends footing rest

theorem Upholds.mono {Ends Ends' : Footing → α → Prop} {work : Work α} {footing : Footing}
    (h : work.Upholds rules Ends footing)
    (he : ∀ footing value, Ends footing value → Ends' footing value) :
    work.Upholds rules Ends' footing := by
  induction work generalizing footing with
  | done value => exact he footing value h
  | connect next ih =>
    obtain ⟨hground, hquits, herror, hok⟩ := h
    exact ⟨hground, hquits, fun error => ih _ (herror error), ih _ hok⟩
  | giveBack rest ih => exact ⟨h.1, ih h.2⟩
  | exec statement next ih =>
    intro ground hsways
    obtain ⟨hallows, hquits, hnext⟩ := h ground hsways
    exact ⟨hallows, hquits, fun answer after hhears => ih answer (hnext answer after hhears)⟩
  | draw next ih => exact fun drawn hfresh => ih drawn (h drawn hfresh)
  | report reply rest ih => exact ih h

/-- Work that leaves keeps to the rules. -/
theorem Upholds.of_leaving {Ends : Footing → α → Prop} {work : Work α} {footing : Footing}
    (h : work.Upholds rules.leaving Ends footing) : work.Upholds rules Ends footing := by
  induction work generalizing footing with
  | done value => exact h
  | connect next ih =>
    obtain ⟨hground, hquits, herror, hok⟩ := h
    exact ⟨hground, hquits, fun error => ih _ (herror error), ih _ hok⟩
  | giveBack rest ih => exact ⟨h.1, ih h.2⟩
  | exec statement next ih =>
    intro ground hsways
    obtain ⟨hallows, hquits, hnext⟩ := h ground hsways
    exact ⟨hallows.of_leaving, hquits, fun answer after hhears =>
      ih answer (hnext answer after hhears)⟩
  | draw next ih => exact fun drawn hfresh => ih drawn (h drawn hfresh)
  | report reply rest ih => exact ih h

/-- One work after another. -/
theorem Upholds.bind {Ends : Footing → β → Prop} {work : Work α} {f : α → Work β}
    {footing : Footing}
    (h : work.Upholds rules (fun footing value => (f value).Upholds rules Ends footing) footing) :
    (work.bind f).Upholds rules Ends footing := by
  induction work generalizing footing with
  | done value => exact h
  | connect next ih =>
    obtain ⟨hground, hquits, herror, hok⟩ := h
    exact ⟨hground, hquits, fun error => ih _ (herror error), ih _ hok⟩
  | giveBack rest ih => exact ⟨h.1, ih h.2⟩
  | exec statement next ih =>
    intro ground hsways
    obtain ⟨hallows, hquits, hnext⟩ := h ground hsways
    exact ⟨hallows, hquits, fun answer after hhears => ih answer (hnext answer after hhears)⟩
  | draw next ih => exact fun drawn hfresh => ih drawn (h drawn hfresh)
  | report reply rest ih => exact ih h

/-- Others may move before work goes on that has something to ask. -/
theorem Upholds.sways {Ends : Footing → α → Prop} {statement : Statement}
    {next : statement.Answer → Work α} {footing : Footing} {ground : Ground}
    (h : (Work.exec statement next).Upholds rules Ends footing)
    (hs : footing.ground.Sways ground) :
    (Work.exec statement next).Upholds rules Ends ⟨footing.published, ground⟩ :=
  fun ground' hs' => h ground' (hs.trans hs')

/-- A statement about rows in an open transaction is answered from what the transaction sees by then,
or the transaction is lost. -/
theorem upholds_query {Ends : Footing → α → Prop} {draft : Draft} {published : List Books}
    {statement : Statement} {next : statement.Answer → Work α} (hq : statement.isQuery = true)
    (hquits : rules.quits published)
    (hfailed : ∀ error, (next (.error error)).Upholds rules Ends ⟨published, .broken⟩)
    (hok : ∀ draft', draft.Sways draft' → ∀ around effect,
      statement.effect around draft'.view = .ok effect →
      (next (.ok effect.rows)).Upholds rules Ends
        ⟨published, .drafting (draft'.after statement effect.changes)⟩) :
    (exec statement next).Upholds rules Ends ⟨published, .drafting draft⟩ := by
  intro ground hsways
  obtain ⟨draft', rfl, hd⟩ := hsways.of_drafting
  refine ⟨⟨Statement.ne_begin_of_isQuery hq, fun hc => absurd hc (Statement.ne_commit_of_isQuery hq)⟩,
    fun _ => hquits, fun answer after hhears => ?_⟩
  cases hhears with
  | performed _ he => exact hok draft' hd _ _ he
  | failed => exact hfailed _
  | bounded => cases hq
  | committed | unsure | rolledBack => cases hq

/-- Where a statement has failed, work that asks about rows only gets nowhere. -/
theorem Obeys.upholds_broken {Results : α → Prop} {work : Work α} {published : List Books}
    (h : work.Obeys (fun statement => statement.isQuery = true) Results)
    (hquits : rules.quits published) :
    work.Upholds rules (fun footing value => footing = ⟨published, .broken⟩ ∧ Results value)
      ⟨published, .broken⟩ := by
  induction h with
  | done hvalue => exact ⟨rfl, hvalue⟩
  | @exec statement next hq _ ih =>
    have hend := Statement.isEnd_of_isQuery hq
    intro ground hsways
    cases hsways with
    | same =>
      refine ⟨⟨Statement.ne_begin_of_isQuery hq,
        fun hc => absurd hc (Statement.ne_commit_of_isQuery hq)⟩, fun _ => hquits,
        fun answer after hhears => ?_⟩
      cases hhears with
      | refused => exact ih _
      | ended hended => cases hend.symm.trans hended
  | draw _ ih => exact fun drawn _ => ih drawn
  | report _ ih => exact ih

end Work

namespace Call

variable {α β : Type} {rules : Rules} {footing : Footing} {published : List Books}
  {Post : Footing → α → Prop} {Fails : Footing → Failure → Prop}

/-- How a call ends, with a value or with a failure. -/
def Ends (Post : Footing → α → Prop) (Fails : Footing → Failure → Prop) (footing : Footing) :
    Except Failure α → Prop
  | .ok value => Post footing value
  | .error failure => Fails footing failure

/-- From the footing the call keeps to the rules, and it ends as it should. -/
def Upholds (rules : Rules) (Post : Footing → α → Prop) (Fails : Footing → Failure → Prop)
    (footing : Footing) (call : Call α) : Prop :=
  call.run.Upholds rules (Ends Post Fails) footing

theorem upholds_pure {value : α} (h : Post footing value) :
    (pure value : Call α).Upholds rules Post Fails footing := h

theorem upholds_bind {Post : Footing → β → Prop} {call : Call α} {f : α → Call β}
    (h : call.Upholds rules (fun footing value => (f value).Upholds rules Post Fails footing) Fails
      footing) : (call >>= f).Upholds rules Post Fails footing := by
  unfold Upholds
  rw [run_bind]
  refine Work.Upholds.bind (Work.Upholds.mono h ?_)
  intro footing result he
  cases result with
  | ok value => exact he
  | error failure => exact he

theorem upholds_ofExcept {ε : Type} {failure : ε → Failure} {result : Except ε α}
    (hok : ∀ value, result = .ok value → Post footing value)
    (herror : ∀ error, result = .error error → Fails footing (failure error)) :
    (ofExcept failure result).Upholds rules Post Fails footing := by
  cases result with
  | ok value => exact hok value rfl
  | error error => exact herror error rfl

theorem upholds_draw {Post : Footing → Draw → Prop}
    (h : ∀ drawn, footing.ground.Fresh drawn →
      Post ⟨footing.published, footing.ground.drew drawn⟩ drawn) :
    draw.Upholds rules Post Fails footing := h

/-- The same for a call that asks for one statement. -/
theorem upholds_query {draft : Draft} {statement : Statement}
    {Post : Footing → List statement.Row → Prop} (hq : statement.isQuery = true)
    (hquits : rules.quits published)
    (hfailed : ∀ error, Fails ⟨published, .broken⟩ (.storage error))
    (hok : ∀ draft', draft.Sways draft' → ∀ around effect,
      statement.effect around draft'.view = .ok effect →
      Post ⟨published, .drafting (draft'.after statement effect.changes)⟩ effect.rows) :
    (ask statement).Upholds rules Post Fails ⟨published, .drafting draft⟩ :=
  Work.upholds_query hq hquits hfailed hok

end Call

namespace UnitOfWork

variable {rules : Rules} {Results : Except Failure Reply → Prop} {unit : UnitOfWork}
  {footing : Footing} {result : Except Failure Reply}

/-- How the body of a unit may end: with something to commit, or with a failure. -/
inductive Finishes (rules : Rules) (Results : Except Failure Reply → Prop) :
    Footing → Except Failure Reply → Prop
  | kept {draft : Draft} {reply : Reply} : rules.keeps draft → Results (.ok reply) →
      Finishes rules Results ⟨[], .drafting draft⟩ (.ok reply)
  | lenient {reply : Reply} : rules.lenient → Results (.ok reply) →
      Finishes rules Results ⟨[], .broken⟩ (.ok reply)
  | failed {draft : Draft} {failure : Failure} : Results (.error failure) →
      Finishes rules Results ⟨[], .drafting draft⟩ (.error failure)
  | broken {failure : Failure} : Results (.error failure) →
      Finishes rules Results ⟨[], .broken⟩ (.error failure)

/-- How a unit ends: what it has published belongs to what its caller is told. -/
inductive Ended (rules : Rules) (Results : Except Failure Reply → Prop) : Footing → Reply → Prop
  | committed {draft : Draft} {reply : Reply} : rules.keeps draft → Results (.ok reply) →
      Ended rules Results ⟨[draft.changes], .outside⟩ reply
  | lenient {reply : Reply} : rules.lenient → Results (.ok reply) →
      Ended rules Results ⟨[], .outside⟩ reply
  | unknown {published : List Books} (name : String) (error : StorageError) :
      published = [] ∨ (∃ draft, rules.keeps draft ∧ published = [draft.changes]) →
      Ended rules Results ⟨published, .outside⟩ (.failed (.commitOutcomeUnknown name error))
  | failed {failure : Failure} : Results (.error failure) →
      Ended rules Results ⟨[], .outside⟩ (.failed failure)

theorem Ended.ground {reply : Reply} (h : Ended rules Results footing reply) :
    footing.ground = .outside := by
  cases h <;> rfl

theorem upholds_handBack {Ends : Footing → Reply → Prop} {reply : Reply}
    (hground : footing.ground ≠ .outside) (h : Ends ⟨footing.published, .outside⟩ reply) :
    (handBack reply).Upholds rules Ends footing := ⟨hground, h⟩

theorem upholds_ending (unit : UnitOfWork) (h : Finishes rules Results footing result) :
    (unit.ending result).Upholds rules (Ended rules Results) footing := by
  cases h with
  | @kept draft reply hkeeps hresult =>
    intro ground hsways
    obtain ⟨draft', rfl, hd⟩ := hsways.of_drafting
    have hkeeps' := rules.steady draft draft' hd hkeeps
    refine ⟨⟨by simp, fun _ => hkeeps'⟩, by simp [Statement.isEnd], fun answer after hhears => ?_⟩
    cases hhears with
    | committed => exact upholds_handBack (by simp) (.committed hkeeps' hresult)
    | unsure hwritten =>
      refine upholds_handBack (by simp) (.unknown unit.name _ ?_)
      rcases hwritten with rfl | rfl
      · exact .inl rfl
      · exact .inr ⟨draft', hkeeps', rfl⟩
    | failed hend => cases hend
    | performed hq => cases hq
  | @lenient reply hlenient hresult =>
    intro ground hsways
    cases hsways with
    | same =>
      refine ⟨⟨by simp, fun _ => hlenient⟩, by simp [Statement.isEnd], fun answer after hhears => ?_⟩
      cases hhears with
      | refused hend => cases hend
      | ended =>
        cases answer with
        | ok => exact upholds_handBack (by simp) (.lenient hlenient hresult)
        | error error => exact upholds_handBack (by simp) (.unknown unit.name error (.inl rfl))
  | @failed draft failure hresult =>
    intro ground hsways
    obtain ⟨draft', rfl, -⟩ := hsways.of_drafting
    refine ⟨⟨by simp, by simp⟩, by simp [Statement.isEnd], fun answer after hhears => ?_⟩
    cases hhears with
    | rolledBack => exact upholds_handBack (by simp) (.failed hresult)
    | failed hend => cases hend
    | performed hq => cases hq
  | @broken failure hresult =>
    intro ground hsways
    cases hsways with
    | same =>
      refine ⟨⟨by simp, by simp⟩, by simp [Statement.isEnd], fun answer after hhears => ?_⟩
      cases hhears with
      | refused hend => cases hend
      | ended => exact upholds_handBack (by simp) (.failed hresult)

/-- A unit of work upholds the rules if its body does in a transaction that has just begun. -/
theorem upholds_work (hquits : rules.quits [])
    (hstorage : ∀ error, Results (.error (.storage error)))
    (hbody : ∀ books, unit.body.run.Upholds rules (Finishes rules Results)
      ⟨[], .drafting (.opened books)⟩) :
    unit.work.Upholds rules (Ended rules Results) ⟨[], .outside⟩ := by
  have hworking : ∀ books, (unit.working unit.body.run).Upholds rules (Ended rules Results)
      ⟨[], .drafting (.opened books)⟩ := fun books =>
    ((hbody books).mono fun _ _ => upholds_ending unit).bind
  have hlimiting : ∀ books millis, (unit.limiting millis).Upholds rules (Ended rules Results)
      ⟨[], .drafting (.opened books)⟩ := by
    intro books millis ground hsways
    obtain ⟨_, rfl, hd⟩ := hsways.of_drafting
    cases hd with | @swayed books' hrows
    refine ⟨⟨by simp, by simp⟩, fun _ => hquits, fun answer after hhears => ?_⟩
    cases hhears with
    | bounded => exact hworking books'
    | failed => exact upholds_handBack (by simp) (.failed (hstorage _))
    | performed hq => cases hq
  have hbegun : ∀ books, unit.begun.Upholds rules (Ended rules Results)
      ⟨[], .drafting (.opened books)⟩ := by
    intro books
    unfold begun
    split
    · exact hlimiting books _
    · exact hworking books
  rw [work_eq]
  refine ⟨rfl, hquits, fun error => .failed (hstorage _), fun ground hsways => ?_⟩
  cases hsways with
  | same =>
    refine ⟨by simp [Rules.Allows, Statement.isWrite], fun _ => hquits, fun answer after hhears => ?_⟩
    cases hhears with
    | begun books => exact hbegun books
    | notBegun => exact upholds_handBack (by simp) (.failed (hstorage _))
    | alone hb => exact absurd rfl hb
    | wrote hw => cases hw

/-- The same for a unit whose caller makes a reply of what a call gives back. -/
theorem upholds_ofCall {α : Type} {runner : Runner} {name : String} {reply : α → Reply}
    {body : Call α} (hquits : rules.quits [])
    (hstorage : ∀ error, Results (.error (.storage error)))
    (hbody : ∀ books, body.Upholds rules
      (fun footing value => Finishes rules Results footing (.ok (reply value)))
      (fun footing failure => Finishes rules Results footing (.error failure))
      ⟨[], .drafting (.opened books)⟩) :
    (Call.replying reply (runner.unit name body)).Upholds rules (Ended rules Results)
      ⟨[], .outside⟩ := by
  rw [← work_ofCall]
  refine upholds_work hquits hstorage fun books => ?_
  unfold ofCall
  rw [Call.run_map]
  refine Work.Upholds.bind (Work.Upholds.mono (hbody books) ?_)
  intro footing result hends
  cases result with
  | ok value => exact hends
  | error failure => exact hends

end UnitOfWork

end Passbook
