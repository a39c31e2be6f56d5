import Passbook.Proofs.Store.StandAlone
import Passbook.Proofs.Transfer.Examined
import Passbook.Proofs.Undisturbed.Units

/-! # Operations that stand alone

An operation that stands alone does on a fresh page what it does in the transaction of its caller, and
all of that is committed when it is done (`Operation.attains_pooled`). A transfer is a unit of work then,
and any other operation asks for one statement at most, on a connection of its own
(`Operation.single_work`). -/

namespace Passbook

namespace Work

/-- The first work draws what it needs and asks for a statement at most, and the second one does so on
a connection of its own. -/
inductive Single : Work Reply → Work Reply → Prop
  | refused (reply : Reply) : Single (.done reply) (.done reply)
  | asks {statement : Statement} {read : statement.Answer → Reply} : statement.isQuery = true →
      Single (.exec statement fun answer => .done (read answer))
        (alone (.exec statement fun answer => .done (read answer)))
  | draw {next next' : Draw → Work Reply} : (∀ drawn, Single (next drawn) (next' drawn)) →
      Single (.draw next) (.draw next')

/-- What comes of work that stands alone: what it comes to on a fresh page, and all of that is
committed. -/
def Comes (work : Work Reply) (desk desk' : Desk) (reply : Reply) : Prop :=
  ∃ clock, reply = (work.inside (desk.db.freshPage clock)).2 ∧ desk'.hands = desk.hands ∧
    desk.Leaves desk.inUse (work.inside (desk.db.freshPage clock)).1.view
      (work.inside (desk.db.freshPage clock)).1 desk'

theorem Single.attains {work lone : Work Reply} {desk : Desk} (h : Single work lone)
    (hready : desk.Ready) : lone.Attains (fun _ => True) (work.Comes desk) desk := by
  induction h generalizing desk with
  | refused reply =>
    refine attains_done (fun _ => trivial) fun clock => ⟨desk.db.clock, rfl, rfl, ?_⟩
    exact ⟨rfl, rfl, rfl, rfl, rfl, rfl, hready.told⟩
  | asks hq => exact attains_alone hready hq _
  | draw _ ih =>
    refine AttainsWhen.mono (@ih _ { desk with db.serial := desk.db.serial + 1 } ?_) ?_
    · exact ⟨⟨hready.opened, hready.room⟩, hready.told, hready.free⟩
    · rintro desk' reply ⟨clock, hreply, hhands, hleaves⟩
      refine ⟨clock, hreply, hhands, ?_⟩
      exact ⟨hleaves.books, hleaves.users, hleaves.tables, hleaves.draws, hleaves.serial,
        hleaves.pool, hleaves.told⟩

/-- What is made of the result of a call is made of it on any connection. -/
theorem replying_pooled {α : Type} (reply : α → Reply) (call : Call α) :
    Call.replying reply (Place.pooled.run call) = alone (Call.replying reply call) := by
  unfold Call.replying alone
  refine congrArg Work.connect (funext fun result => ?_)
  cases result with
  | error => rfl
  | ok =>
    change (call.run.bind _).bind _ = (call.run.bind _).bind _
    rw [bind_bind, bind_bind]
    rfl

/-- A call of one statement. -/
theorem Single.of_run {α : Type} {call : Call α} {statement : Statement}
    {result : statement.Answer → Except Failure α} (hq : statement.isQuery = true)
    (hrun : call.run = .exec statement fun answer => .done (result answer)) (reply : α → Reply) :
    Single (Call.replying reply call) (Call.replying reply (Place.pooled.run call)) := by
  rw [replying_pooled]
  unfold Call.replying
  rw [hrun]
  exact @Single.asks statement (fun answer => .ofResult reply (result answer)) hq

end Work

/-! ## Transfers -/

namespace Transfer

variable {runner : Runner} {command : Command} {desk : Desk} {page : Page}

/-- What is left of the page by a transfer that is replied to. -/
theorem inside_replying (h : page.aborted = false) :
    ∃ asked, (Call.replying .entry (perform command)).inside page =
      ({ page with
          view := (outcome command page).2.1
          around.serial := (outcome command page).2.2
          asked := page.asked ++ asked }, .ofResult .entry (outcome command page).1) := by
  obtain ⟨asked, -, hinside⟩ := inside_perform command h
  refine ⟨asked, ?_⟩
  rw [Call.replying, Work.inside_bind, hinside]
  rfl

/-- A transfer publishes what it comes to, be it that it changes nothing. -/
theorem published_outcome (books : Books) (h : page.aborted = false) (hbooks : page.view = books) :
    UnitOfWork.published books { page with view := (outcome command page).2.1 }
      ((outcome command page).1.map .entry) = (outcome command page).2.1 := by
  unfold outcome
  split
  · exact hbooks.symm
  · exact if_neg (by simp [h])

theorem attains_execute (hready : desk.Ready) (hhands : desk.hands = []) (hadmits : runner.Admits) :
    (Call.replying .entry (execute runner command)).Attains (fun _ => True)
      ((Call.replying .entry (perform command)).Comes desk) desk := by
  rw [execute, ← UnitOfWork.work_ofCall]
  refine (@UnitOfWork.attains_work (.ofCall runner unitName .entry (perform command)) desk _ hready
    hhands hadmits (UnitOfWork.isBody_ofCall (isInner_perform command) fun _ _ h => by cases h)).mono ?_
  rintro desk' reply ⟨clock, hreply, hhands', hleaves⟩
  refine ⟨clock, ?_⟩
  obtain ⟨asked, -, hinside⟩ := @inside_perform (desk.db.freshPage clock) command rfl
  have hpublished := @published_outcome command (desk.db.freshPage clock) desk.db.books rfl rfl
  rw [UnitOfWork.ofCall, Call.run_map, Work.inside_bind, hinside] at hreply hleaves
  rw [Call.replying, Work.inside_bind, hinside, hhands]
  refine ⟨?_, hhands', ?_⟩
  · rw [hreply]
    cases (outcome command (desk.db.freshPage clock)).1 <;> rfl
  · exact ⟨hleaves.books.trans hpublished, hleaves.users, hleaves.tables, hleaves.draws,
      hleaves.serial, hleaves.pool, hleaves.told⟩

end Transfer

/-! ## Any operation -/

namespace Operation

variable {runner : Runner} {opened : List Int} {desk : Desk}

theorem single_checked {α : Type} {result : Except MoneyError α} {call call' : α → Work Reply}
    (h : ∀ value, (call value).Single (call' value)) :
    (checked result call).Single (checked result call') := by
  cases result with
  | ok value => exact h value
  | error error => exact .refused (.refused error)

/-- An operation that is no transfer asks for one statement at most. -/
theorem single_work (runner : Runner) (opened : List Int) {operation : Operation}
    (h : operation.unitName? = none) :
    (operation.work runner .callers opened).Single (operation.work runner .pooled opened) := by
  cases operation with
  | transfer => cases h
  | account => exact .of_run rfl (Store.run_first (.selectAccount _) _) _
  | setBalance =>
    exact single_checked fun _ => .of_run rfl (Store.run_first (.updateAccount ..) _) _
  | setStoredBalance => exact .of_run rfl (Store.run_first (.updateAccount ..) _) _
  | createAccount => exact .of_run rfl (Store.run_createAccount ..) _
  | openAccount => exact .draw fun _ => .of_run rfl (Store.run_createAccount ..) _
  | accountsOf => exact .of_run rfl rfl _
  | entriesOf => exact .of_run rfl rfl _
  | record => exact single_checked fun _ => .of_run rfl (Store.run_first (.insertEntry _) _) _
  | recordStored => exact .of_run rfl (Store.run_first (.insertEntry _) _) _

/-- An operation that stands alone does on a fresh page what it does in the transaction of its caller. -/
theorem attains_pooled (hready : desk.Ready) (hhands : desk.hands = []) (hadmits : runner.Admits)
    (operation : Operation) :
    (operation.work runner .pooled opened).Attains (fun _ => True)
      ((operation.work runner .callers opened).Comes desk) desk := by
  cases hunit : operation.unitName? with
  | none => exact (single_work runner opened hunit).attains hready
  | some name =>
    cases operation with
    | transfer => exact Transfer.attains_execute hready hhands hadmits
    | _ => cases hunit

end Operation

end Passbook
