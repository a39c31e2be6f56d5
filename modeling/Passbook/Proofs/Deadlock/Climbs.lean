import Passbook.Proofs.Serial.Guarded

/-! # Work that locks in ascending order

Work that climbs locks rows in ascending order of their numbers, updates only rows that it has locked,
and comes to its end after a bounded number of statements (`Work.Climbs`). A transfer is of this kind
whatever its command is (`Transfer.climbs_perform`); two transfers in one unit are not. -/

namespace Passbook

namespace Work

variable {α β : Type} {Held : Int → Prop} {m n : Nat}

/-- Holding the locks on these rows, the work asks for the locks of greater ones only, ends with the
first statement that fails, and has no more than this number of statements to ask for. -/
inductive Climbs : (Int → Prop) → Nat → Work (Except Failure α) → Prop
  | done {Held : Int → Prop} {n : Nat} (result : Except Failure α) : Climbs Held n (.done result)
  | read {Held : Int → Prop} {n : Nat} {id : Int}
      {next : Statement.Answer (.selectAccount ⟨id, true⟩) → Work (Except Failure α)} :
      (∀ account, Held account → account < id) →
      (∀ error, next (.error error) = .done (.error (.storage error))) →
      Climbs Held n (next (.ok [])) →
      (∀ row rows, row.id = id →
        Climbs (fun account => Held account ∨ account = id) n (next (.ok (row :: rows)))) →
      Climbs Held (n + 1) (.exec (.selectAccount ⟨id, true⟩) next)
  | update {Held : Int → Prop} {n : Nat} {id : Int} {balance : Balance}
      {next : Statement.Answer (.updateAccount id balance) → Work (Except Failure α)} : Held id →
      (∀ error, next (.error error) = .done (.error (.storage error))) →
      (∀ rows, Climbs Held n (next (.ok rows))) →
      Climbs Held (n + 1) (.exec (.updateAccount id balance) next)
  | insert {Held : Int → Prop} {n : Nat} {entry : NewEntry}
      {next : Statement.Answer (.insertEntry entry) → Work (Except Failure α)} :
      (∀ error, next (.error error) = .done (.error (.storage error))) →
      (∀ rows, Climbs Held n (next (.ok rows))) →
      Climbs Held (n + 1) (.exec (.insertEntry entry) next)
  | draw {Held : Int → Prop} {n : Nat} {next : Draw → Work (Except Failure α)} :
      (∀ drawn, Climbs Held n (next drawn)) → Climbs Held n (.draw next)
  | report {Held : Int → Prop} {n : Nat} {reply : Reply} {rest : Work (Except Failure α)} :
      Climbs Held n rest → Climbs Held n (.report reply rest)

namespace Climbs

theorem of_passes {work rest : Work (Except Failure α)} (h : work.Climbs Held n)
    {draws : Draws} (hp : work.Passes draws rest) : rest.Climbs Held n := by
  induction hp with
  | done | exec => exact h
  | draw serial _ ih => cases h with | draw hnext => exact ih (hnext _)
  | report reply _ ih => cases h with | report hrest => exact ih hrest

theorem congr {Held' : Int → Prop} {work : Work (Except Failure α)} (h : work.Climbs Held n)
    (hsame : ∀ account, Held' account ↔ Held account) : work.Climbs Held' n := by
  obtain rfl : Held' = Held := funext fun account => propext (hsame account)
  exact h

theorem map {work : Work (Except Failure α)} (h : work.Climbs Held n) (f : α → β) :
    (work.bind fun result => .done (result.map f)).Climbs Held n := by
  induction h with
  | done result => exact .done _
  | read hheld herror _ _ ihnone ihrow =>
    refine .read hheld (fun error => ?_) ihnone fun row rows hid => ihrow row rows hid
    rw [herror]
    rfl
  | update hheld herror _ ih =>
    refine .update hheld (fun error => ?_) ih
    rw [herror]
    rfl
  | insert herror _ ih =>
    refine .insert (fun error => ?_) ih
    rw [herror]
    rfl
  | draw _ ih => exact .draw ih
  | report _ ih => exact .report ih

end Climbs

end Work

namespace Call

variable {α β : Type} {Held : Int → Prop} {n : Nat}

/-- The call locks rows in ascending order, holding the locks on these already. -/
abbrev Climbs (Held : Int → Prop) (n : Nat) (call : Call α) : Prop := call.run.Climbs Held n

theorem climbs_ofExcept {ε : Type} {failure : ε → Failure} {result : Except ε α}
    {f : α → Call β} (h : ∀ value, result = .ok value → (f value).Climbs Held n) :
    (ofExcept failure result >>= f).Climbs Held n := by
  cases result with
  | ok value => exact h value rfl
  | error error => exact .done _

theorem climbs_draw {f : Draw → Call β} (h : ∀ drawn, (f drawn).Climbs Held n) :
    (draw >>= f).Climbs Held n :=
  .draw h

theorem climbs_account {id : Int} {f : Account → Call β}
    (hheld : ∀ account, Held account → account < id)
    (h : ∀ row, row.id = id → (f row).Climbs (fun account => Held account ∨ account = id) n) :
    (Store.account .callers ⟨id, true⟩ >>= f).Climbs Held (n + 1) :=
  .read hheld (fun _ => rfl) (.done _) fun row _ => h row

theorem climbs_setBalance {id : Int} {balance : Balance} {f : Account → Call β} (hheld : Held id)
    (h : ∀ row, (f row).Climbs Held n) :
    (Store.setBalance .callers id balance >>= f).Climbs Held (n + 1) := by
  refine .update hheld (fun _ => rfl) fun rows => ?_
  cases rows with
  | nil => exact .done _
  | cons row rows => exact h row

theorem climbs_record {entry : NewEntry} {f : Entry → Call β}
    (h : ∀ row, (f row).Climbs Held n) :
    (Store.record .callers entry >>= f).Climbs Held (n + 1) := by
  refine .insert (fun _ => rfl) fun rows => ?_
  cases rows with
  | nil => exact .done _
  | cons row rows => exact h row

end Call

instance : LawfulMonad Work :=
  LawfulMonad.mk' _ (fun work => Work.bind_done work) (fun _ _ => rfl) Work.bind_bind

namespace Transfer

open Call

variable {β : Type} {Held : Int → Prop} {n : Nat}

theorem climbs_post {side : Side} {transfer : Uuid} {id : Int} {balance : Balance} {amount : Amount}
    {f : Entry → Call β} (hheld : Held id) (h : ∀ entry, (f entry).Climbs Held n) :
    (post side transfer id balance amount >>= f).Climbs Held (n + 2) := by
  unfold post
  simp only [bind_assoc]
  exact climbs_setBalance hheld fun _ => climbs_ofExcept fun _ _ => climbs_record h

theorem climbs_postBoth {transfer : Uuid} {sender receiver : Account} {amount : Amount}
    (hsender : Held sender.id) (hreceiver : Held receiver.id) :
    (postBoth transfer sender receiver amount).Climbs Held 4 := by
  unfold postBoth
  refine climbs_ofExcept ?_
  intro balances _
  exact climbs_post hsender fun debit => climbs_post hreceiver fun _ => .done _

theorem lockOrder_lt {source target : Int} (h : source ≠ target) :
    (lockOrder source target).1 < (lockOrder source target).2 := by
  unfold lockOrder
  split
  · assumption
  · show target < source
    omega

theorem source_ne_target {command : Command} {amount : Amount} (h : command.validate = .ok amount) :
    command.source ≠ command.target := by
  intro he
  unfold Command.validate at h
  rw [if_pos he] at h
  cases h

/-- A transfer locks two rows in ascending order and updates these. -/
theorem climbs_perform (command : Command) (hfree : ∀ account, ¬ Held account) :
    (perform command).Climbs Held 6 := by
  unfold perform
  refine climbs_ofExcept fun amount hvalid => climbs_draw fun drawn => ?_
  have hlt := lockOrder_lt (source_ne_target hvalid)
  refine climbs_account (fun account hheld => absurd hheld (hfree account)) fun first hfirst =>
    climbs_account ?_ ?_
  · intro account hheld
    rcases hheld with hheld | rfl
    · exact absurd hheld (hfree account)
    · exact hlt
  · intro second hsecond
    unfold resolveRoles
    by_cases hrole : first.id = command.source
    · rw [if_pos hrole]
      exact climbs_postBoth (.inl (.inr hfirst)) (.inr hsecond)
    · rw [if_neg hrole]
      exact climbs_postBoth (.inr hsecond) (.inl (.inr hfirst))

end Transfer

end Passbook
