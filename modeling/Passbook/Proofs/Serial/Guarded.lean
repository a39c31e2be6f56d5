import Passbook.Proofs.Database.Views
import Passbook.Proofs.UnitOfWork.Bodies

/-! # Work that reads under locks

Guarded work reads a row only with its lock, and ends with the first statement that fails
(`Work.Guarded`). Transfers are of this kind, one by one and in batches that stop at the first
failure. -/

namespace Passbook

namespace Work

variable {α β : Type}

/-- The work reads rows only under their locks, and a statement that fails is its end. -/
inductive Guarded : Work (Except Failure α) → Prop
  | done (result : Except Failure α) : Guarded (.done result)
  | exec {statement : Statement} {next : statement.Answer → Work (Except Failure α)} :
      statement.isGuarded = true →
      (∀ error, next (.error error) = .done (.error (.storage error))) →
      (∀ rows, Guarded (next (.ok rows))) → Guarded (.exec statement next)
  | draw {next : Draw → Work (Except Failure α)} : (∀ drawn, Guarded (next drawn)) →
      Guarded (.draw next)
  | report {reply : Reply} {rest : Work (Except Failure α)} : Guarded rest →
      Guarded (.report reply rest)

theorem Guarded.bind {work : Work (Except Failure α)}
    {f : Except Failure α → Work (Except Failure β)} (h : work.Guarded)
    (hf : ∀ failure, f (.error failure) = .done (.error failure))
    (hv : ∀ value, (f (.ok value)).Guarded) : (work.bind f).Guarded := by
  induction h with
  | done result =>
    cases result with
    | ok value => exact hv value
    | error failure =>
      rw [Work.bind, hf]
      exact .done _
  | exec hg herror _ ih =>
    refine .exec hg (fun error => ?_) ih
    rw [herror, Work.bind, hf]
  | draw _ ih => exact .draw ih
  | report _ ih => exact .report ih

end Work

namespace Call

variable {α β : Type}

/-- The call reads rows only under their locks, and a statement that fails is its end. -/
def IsGuarded (call : Call α) : Prop := call.run.Guarded

theorem isGuarded_pure (value : α) : (pure value : Call α).IsGuarded := .done _

theorem isGuarded_bind {call : Call α} {f : α → Call β} (h : call.IsGuarded)
    (hf : ∀ value, (f value).IsGuarded) : (call >>= f).IsGuarded := by
  unfold IsGuarded
  rw [run_bind]
  exact h.bind (fun _ => rfl) hf

theorem isGuarded_ask {statement : Statement} (h : statement.isGuarded = true) :
    (ask statement).IsGuarded :=
  .exec h (fun _ => rfl) fun _ => .done _

theorem isGuarded_draw : draw.IsGuarded := .draw fun _ => .done _

theorem isGuarded_ofExcept {ε : Type} (failure : ε → Failure) (result : Except ε α) :
    (ofExcept failure result).IsGuarded := .done _

theorem isGuarded_first (rows : List α) (missing : Failure) : (first rows missing).IsGuarded := by
  cases rows <;> exact .done _

theorem IsGuarded.map {call : Call α} (h : call.IsGuarded) (f : α → β) :
    (f <$> call).IsGuarded := by
  unfold IsGuarded
  rw [run_map]
  exact h.bind (fun _ => rfl) fun _ => .done _

end Call

/-! ## Transfers -/

open Call

theorem Store.isGuarded_account {lookup : AccountLookup} (h : lookup.locking = true) :
    (Store.account .callers lookup).IsGuarded :=
  isGuarded_bind (isGuarded_ask h) fun rows => isGuarded_first rows _

namespace Transfer

theorem isGuarded_post (side : Side) (transfer : Uuid) (id : Int) (balance : Balance)
    (amount : Amount) : (post side transfer id balance amount).IsGuarded := by
  have hset : (Store.setBalance .callers id balance).IsGuarded :=
    isGuarded_bind (isGuarded_ask rfl) fun rows => isGuarded_first rows _
  have hrecord : ∀ entry, (Store.record .callers entry).IsGuarded := fun entry =>
    isGuarded_bind (isGuarded_ask rfl) fun rows => isGuarded_first rows _
  exact isGuarded_bind hset fun _ => isGuarded_bind (isGuarded_ofExcept ..) hrecord

theorem isGuarded_perform (command : Command) : (perform command).IsGuarded := by
  refine isGuarded_bind (isGuarded_ofExcept ..) fun amount =>
    isGuarded_bind isGuarded_draw fun drawn =>
    isGuarded_bind (Store.isGuarded_account rfl) fun first =>
    isGuarded_bind (Store.isGuarded_account rfl) fun second => ?_
  unfold postBoth
  exact isGuarded_bind (isGuarded_ofExcept ..) fun balances =>
    isGuarded_bind (isGuarded_post ..) fun debit =>
    isGuarded_bind (isGuarded_post ..) fun _ => isGuarded_pure debit

/-- Does the commands one after the other, in the caller's transaction, up to the first that fails. -/
def performAll : List Command → Call (List Entry)
  | [] => pure []
  | command :: commands => do
    let entry ← perform command
    let entries ← performAll commands
    return entry :: entries

theorem isGuarded_performAll (commands : List Command) : (performAll commands).IsGuarded := by
  induction commands with
  | nil => exact isGuarded_pure []
  | cons command commands ih =>
    exact isGuarded_bind (isGuarded_perform command) fun entry =>
      isGuarded_bind ih fun entries => isGuarded_pure _

theorem isInner_performAll (commands : List Command) : (performAll commands).IsInner := by
  induction commands with
  | nil => exact obeys_pure []
  | cons command commands ih =>
    exact obeys_bind (isInner_perform command) fun entry =>
      obeys_bind ih fun entries => obeys_pure _

end Transfer

namespace UnitOfWork

/-- A unit of work that does transfers: a single one, or those of a list up to the first that
fails. -/
inductive IsTransfer : UnitOfWork → Prop
  | single (runner : Runner) (command : Command) :
      IsTransfer (.ofCall runner Transfer.unitName .entry (Transfer.perform command))
  | batch (runner : Runner) (name : String) (commands : List Command) :
      IsTransfer (.ofCall runner name .entries (Transfer.performAll commands))

/-- The unit of a single transfer is what `Transfer.execute` runs. -/
theorem work_execute (runner : Runner) (command : Command) :
    (ofCall runner Transfer.unitName .entry (Transfer.perform command)).work =
      Call.replying .entry (Transfer.execute runner command) :=
  work_ofCall ..

namespace IsTransfer

variable {unit : UnitOfWork}

theorem isBody (h : unit.IsTransfer) : IsBody unit.body.run := by
  cases h with
  | single runner command => exact isBody_ofCall (Transfer.isInner_perform command) fun _ _ he => by cases he
  | batch runner name commands => exact isBody_ofCall (Transfer.isInner_performAll commands) nofun

theorem guarded (h : unit.IsTransfer) : unit.body.run.Guarded := by
  cases h with
  | single runner command => exact (Transfer.isGuarded_perform command).map _
  | batch runner name commands => exact (Transfer.isGuarded_performAll commands).map _

end IsTransfer

end UnitOfWork

end Passbook
