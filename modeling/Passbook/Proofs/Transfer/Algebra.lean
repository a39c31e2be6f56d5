import Mathlib.Logic.Function.Basic
import Passbook.Proofs.Operation.Refinement
import Passbook.Proofs.Transfer.Harmless
import Passbook.Proofs.Transfer.Outcome

/-! # The algebra of transfers

What a transfer that nothing disturbs does to the balances is a relation between balances
(`Command.Shifts`), and it succeeds just if it can do that (`Transfer.shifts_iff_succeeds`). Two
transfers between the same accounts are one transfer of both amounts (`Command.shifts_split`), and a
transfer is undone by its reversal (`Command.Shifts.undo`); so is a list of transfers, from the last to
the first (`Transfer.split_and_undone`). -/

namespace Passbook

/-- The balances of all accounts that there are. -/
def Books.balances (books : Books) (id : Int) : Option Int := (books.account? id).map (·.balance)

/-- Every balance can be stored. -/
def Books.Storable (books : Books) : Prop := ∀ row ∈ books.accounts, row.balance ≤ maxMoney

namespace Command

variable {command reversal : Command} {commands reversals : List Command}
  {held middle last : Int → Option Int} {paying paid : Int}

/-- What it takes for the amount to move between accounts that have these balances. -/
structure Moves (command : Command) (held : Int → Option Int) (paying paid : Int) : Prop where
  differ : command.source ≠ command.target
  positive : 0 < command.amount
  source : held command.source = some paying
  target : held command.target = some paid
  pays : command.amount ≤ paying
  owesNothing : 0 ≤ paid
  room : paid + command.amount ≤ maxMoney

/-- The balances when the amount has moved. -/
def moved (command : Command) (held : Int → Option Int) (paying paid : Int) : Int → Option Int :=
  Function.update (Function.update held command.source (some (paying - command.amount)))
    command.target (some (paid + command.amount))

/-- The transfer can be done on the balances, and leaves others. -/
def Shifts (command : Command) (held after : Int → Option Int) : Prop :=
  ∃ paying paid, command.Moves held paying paid ∧ after = command.moved held paying paid

/-- The transfers can be done on the balances in turn, and leave others. -/
def ShiftInTurn : List Command → (Int → Option Int) → (Int → Option Int) → Prop
  | [], held, after => after = held
  | command :: commands, held, after =>
    ∃ middle, command.Shifts held middle ∧ ShiftInTurn commands middle after

/-- The transfer moves the amount of the other one back. -/
structure Reverses (reversal command : Command) : Prop where
  source : reversal.source = command.target
  target : reversal.target = command.source
  amount : reversal.amount = command.amount

theorem shiftInTurn_append (h : ShiftInTurn commands held middle)
    (h' : ShiftInTurn reversals middle last) : ShiftInTurn (commands ++ reversals) held last := by
  induction commands generalizing held with
  | nil => exact h ▸ h'
  | cons command commands ih =>
    obtain ⟨next, hfirst, hrest⟩ := h
    exact ⟨next, hfirst, ih hrest⟩

theorem moved_source (h : command.source ≠ command.target) (held : Int → Option Int)
    (paying paid : Int) :
    command.moved held paying paid command.source = some (paying - command.amount) := by
  simp [moved, h]

theorem moved_target (command : Command) (held : Int → Option Int) (paying paid : Int) :
    command.moved held paying paid command.target = some (paid + command.amount) := by
  simp [moved]

theorem moved_of_ne {id : Int} (hsource : id ≠ command.source) (htarget : id ≠ command.target)
    (held : Int → Option Int) (paying paid : Int) :
    command.moved held paying paid id = held id := by
  simp [moved, hsource, htarget]

/-- Two transfers from one account to another are one transfer of both amounts. The last condition of
the one transfer implies that the sum of the amounts can be stored. -/
theorem shifts_split {sender sender' sender'' : Uuid} {source target first second : Int}
    (hfirst : 0 < first) (hsecond : 0 < second) :
    ShiftInTurn [⟨sender, source, target, first⟩, ⟨sender', source, target, second⟩] held last ↔
      Shifts ⟨sender'', source, target, first + second⟩ held last := by
  have hmoved : ∀ paying paid,
      moved ⟨sender', source, target, second⟩ (moved ⟨sender, source, target, first⟩ held paying paid)
        (paying - first) (paid + first) =
      moved ⟨sender'', source, target, first + second⟩ held paying paid := by
    intro paying paid
    funext id
    by_cases htarget : id = target
    · subst htarget
      simp [moved, Int.add_assoc]
    · by_cases hsource : id = source
      · subst hsource
        simp [moved, htarget, Int.sub_sub]
      · simp [moved, hsource, htarget]
  constructor
  · rintro ⟨middle, ⟨paying, paid, hmoves, rfl⟩, last, ⟨paying', paid', hmoves', rfl⟩, rfl⟩
    obtain rfl : paying' = paying - first :=
      Option.some.inj (hmoves'.source.symm.trans (moved_source hmoves.differ held paying paid))
    obtain rfl : paid' = paid + first :=
      Option.some.inj (hmoves'.target.symm.trans (moved_target _ held paying paid))
    have hpays := hmoves'.pays
    have hroom := hmoves'.room
    dsimp only at hpays hroom
    refine ⟨paying, paid, ⟨hmoves.differ, Int.add_pos hfirst hsecond, hmoves.source, hmoves.target, ?_,
      hmoves.owesNothing, ?_⟩, hmoved paying paid⟩
    · show first + second ≤ paying
      omega
    · show paid + (first + second) ≤ maxMoney
      omega
  · rintro ⟨paying, paid, hmoves, rfl⟩
    have hpays := hmoves.pays
    have howes := hmoves.owesNothing
    have hroom := hmoves.room
    have hdiffer : source ≠ target := hmoves.differ
    dsimp only at hpays hroom
    refine ⟨_, ⟨paying, paid, ⟨hdiffer, hfirst, hmoves.source, hmoves.target, ?_, howes, ?_⟩, rfl⟩, _,
      ⟨paying - first, paid + first, ⟨hdiffer, hsecond, moved_source hdiffer held paying paid,
        moved_target _ held paying paid, ?_, ?_, ?_⟩, rfl⟩, (hmoved paying paid).symm⟩
    · show first ≤ paying
      omega
    · show paid + first ≤ maxMoney
      omega
    · show second ≤ paying - first
      omega
    · show 0 ≤ paid + first
      omega
    · show paid + first + second ≤ maxMoney
      omega

/-- A transfer leaves balances that its reversal can be done on, and that one restores them. -/
theorem Shifts.undo (h : command.Shifts held middle) (hreverses : reversal.Reverses command)
    (hle : ∀ id balance, held id = some balance → balance ≤ maxMoney) :
    reversal.Shifts middle held := by
  obtain ⟨paying, paid, hmoves, rfl⟩ := h
  obtain ⟨sender, source, target, amount⟩ := reversal
  obtain ⟨rfl, rfl, rfl⟩ := hreverses
  have hpays := hmoves.pays
  have howes := hmoves.owesNothing
  have hpaying := hle _ _ hmoves.source
  refine ⟨paid + command.amount, paying - command.amount, ⟨hmoves.differ.symm, hmoves.positive,
    moved_target command held paying paid, moved_source hmoves.differ held paying paid, ?_, ?_, ?_⟩, ?_⟩
  · show command.amount ≤ paid + command.amount
    omega
  · show 0 ≤ paying - command.amount
    omega
  · show paying - command.amount + command.amount ≤ maxMoney
    omega
  · funext id
    by_cases hsource : id = command.source
    · subst hsource
      simp [moved, hmoves.source]
    · by_cases htarget : id = command.target
      · subst htarget
        simp [moved, hmoves.target, hsource]
      · simp [moved, hsource, htarget]

/-- Balances that can be stored stay so. -/
theorem Shifts.le (h : command.Shifts held middle)
    (hle : ∀ id balance, held id = some balance → balance ≤ maxMoney) {id balance : Int}
    (hid : middle id = some balance) : balance ≤ maxMoney := by
  obtain ⟨paying, paid, hmoves, rfl⟩ := h
  by_cases htarget : id = command.target
  · rw [htarget, moved_target] at hid
    cases hid
    exact hmoves.room
  · by_cases hsource : id = command.source
    · rw [hsource, moved_source hmoves.differ] at hid
      cases hid
      have hpositive := hmoves.positive
      have hpaying := hle _ _ hmoves.source
      omega
    · rw [moved_of_ne hsource htarget] at hid
      exact hle id balance hid

/-- Transfers that have been done in turn are undone from the last to the first. -/
theorem shiftInTurn_undo (h : ShiftInTurn commands held last)
    (hreverses : List.Forall₂ Reverses reversals.reverse commands)
    (hle : ∀ id balance, held id = some balance → balance ≤ maxMoney) :
    ShiftInTurn reversals last held := by
  induction commands generalizing held reversals with
  | nil =>
    rw [List.forall₂_nil_right_iff, List.reverse_eq_nil_iff] at hreverses
    subst hreverses
    exact h.symm
  | cons command commands ih =>
    obtain ⟨middle, hfirst, hrest⟩ := h
    obtain ⟨reversal, later, hreversal, hlater, hall⟩ := List.forall₂_cons_right_iff.mp hreverses
    obtain rfl : reversals = later.reverse ++ [reversal] := by
      rw [← List.reverse_reverse reversals, hall, List.reverse_cons]
    refine shiftInTurn_append (ih hrest ?_ fun _ _ => hfirst.le hle)
      ⟨held, hfirst.undo hreversal hle, rfl⟩
    rwa [List.reverse_reverse]

end Command

namespace Transfer

variable {runner : Runner} {command : Command} {commands reversals : List Command} {view : Books}
  {sender receiver : Account} {serial : Nat} {now : Instant} {page : Page} {opened : List Int}
  {system after : System} {past : Past} {task : Task} {reply : Reply} {replies : List Reply}
  {held : Int → Option Int} {paying paid : Int}

/-! ## On the books -/

theorem balances_le (hrange : view.Storable) (id balance : Int) (h : view.balances id = some balance) :
    balance ≤ maxMoney := by
  obtain ⟨row, hrow, rfl⟩ := Option.map_eq_some_iff.mp h
  exact hrange row (List.mem_of_find?_eq_some hrow)

/-- A transfer to which there is no objection can be done on the balances. -/
theorem moves_of_examine (hrange : view.Storable) (h : examine command view = .ok (sender, receiver)) :
    view.account? command.source = some sender ∧ view.account? command.target = some receiver ∧
      command.Moves view.balances sender.balance receiver.balance := by
  obtain ⟨amount, hvalid, -⟩ := bind_eq_ok h
  obtain ⟨hdiffer, hvalue⟩ := validate_ok (mapError_eq_ok hvalid)
  have hobjection := examine_objection (hvalue ▸ amount.value_le) hrange
  cases hnone : objection? command view with
  | some failure =>
    rw [hnone, h] at hobjection
    cases hobjection
  | none =>
    rw [hnone] at hobjection
    obtain ⟨_, _, hsender, hreceiver, hexamine⟩ := hobjection
    cases h.symm.trans hexamine
    have hpaying := Books.balance_of_account? hsender
    have hpaid := Books.balance_of_account? hreceiver
    simp only [objection?, hpaying, hpaid] at hnone
    split_ifs at hnone
    exact ⟨hsender, hreceiver, hdiffer, by omega, by simp [Books.balances, hsender],
      by simp [Books.balances, hreceiver], by omega, by omega, by omega⟩

/-- There is no objection to a transfer that can be done on the balances. -/
theorem examine_of_moves (hrange : view.Storable) (h : command.Moves view.balances paying paid) :
    ∃ sender receiver, examine command view = .ok (sender, receiver) ∧ sender.balance = paying ∧
      receiver.balance = paid := by
  obtain ⟨sender, hsender, rfl⟩ := Option.map_eq_some_iff.mp h.source
  obtain ⟨receiver, hreceiver, rfl⟩ := Option.map_eq_some_iff.mp h.target
  have hle := balances_le hrange _ _ h.source
  have hpays := h.pays
  obtain ⟨amount, hvalue⟩ : ∃ amount : Amount, amount.value = command.amount :=
    ⟨⟨command.amount, h.positive, by omega⟩, rfl⟩
  have hvalid : command.validate = .ok amount := by
    rw [Command.validate, if_neg h.differ, Amount.ofInt_eq_ok_iff.mpr hvalue]
    rfl
  have hpositive := h.positive
  obtain ⟨debited, credited, hbalances⟩ := @balancesAfter_of_covers sender receiver amount (by omega)
    hle h.owesNothing (hvalue ▸ h.room) (by omega)
  refine ⟨sender, receiver, ?_, rfl, rfl⟩
  rw [examine_of_rows hvalid hsender hreceiver, hbalances]
  rfl

/-- The balances when a transfer has been written. -/
theorem balances_changes (hsender : view.account? command.source = some sender)
    (hreceiver : view.account? command.target = some receiver)
    (hdiffer : command.source ≠ command.target) (draws : Draws) (serial : Nat)
    (now : Instant) :
    (view.overlay (changes command sender receiver draws serial now)).balances =
      command.moved view.balances sender.balance receiver.balance := by
  have hsource : sender.id = command.source := Books.id_of_account? hsender
  have htarget : receiver.id = command.target := Books.id_of_account? hreceiver
  have hkeyed : (changes command sender receiver draws serial now).Keyed := by
    simp [Books.Keyed, changes, hsource, htarget, hdiffer]
  funext id
  rw [Books.balances, hkeyed.account?_overlay]
  by_cases hid : id = command.target
  · subst hid
    simp [Books.account?, changes, Command.moved, hsource, htarget, hdiffer]
  · by_cases hid' : id = command.source
    · subst hid'
      simp [Books.account?, changes, Command.moved, hsource, hid]
    · rw [Command.moved_of_ne hid' hid]
      simp [Books.balances, Books.account?, changes, hsource, htarget, Ne.symm hid, Ne.symm hid']

/-- Just if a transfer can be done on the balances it comes to an entry, and leaves what it shifts them
to. -/
theorem shifts_iff_outcome (hrange : page.view.Storable) :
    command.Shifts page.view.balances held ↔
      (outcome command page).1.toBool = true ∧ held = (outcome command page).2.1.balances := by
  cases hexamine : examine command page.view with
  | error failure =>
    rw [outcome_of_error hexamine]
    refine ⟨?_, fun h => absurd h.1 Bool.false_ne_true⟩
    rintro ⟨paying, paid, hmoves, -⟩
    obtain ⟨_, _, hok, -⟩ := examine_of_moves hrange hmoves
    cases hexamine.symm.trans hok
  | ok rows =>
    obtain ⟨sender, receiver⟩ := rows
    obtain ⟨hsender, hreceiver, hmoves⟩ := moves_of_examine hrange hexamine
    rw [outcome_of_ok hexamine, balances_changes hsender hreceiver hmoves.differ]
    constructor
    · rintro ⟨paying, paid, hmoves', rfl⟩
      cases hmoves.source.symm.trans hmoves'.source
      cases hmoves.target.symm.trans hmoves'.target
      exact ⟨rfl, rfl⟩
    · rintro ⟨-, rfl⟩
      exact ⟨_, _, hmoves, rfl⟩

/-- A transfer leaves balances that can be stored. -/
theorem storable_outcome (hrange : page.view.Storable) : (outcome command page).2.1.Storable := by
  cases hexamine : examine command page.view with
  | error failure =>
    rw [outcome_of_error hexamine]
    exact hrange
  | ok rows =>
    obtain ⟨sender, receiver⟩ := rows
    obtain ⟨-, -, hmoves⟩ := moves_of_examine hrange hexamine
    rw [outcome_of_ok hexamine]
    intro row hmem
    rcases Books.mem_overlay hmem with hmem | hmem
    · exact hrange row hmem
    · have hpaying := balances_le hrange _ _ hmoves.source
      have hpositive := hmoves.positive
      have hroom := hmoves.room
      simp only [changes, List.mem_cons, List.not_mem_nil, or_false] at hmem
      rcases hmem with rfl | rfl
      · show sender.balance - command.amount ≤ maxMoney
        omega
      · exact hroom

/-! ## In turn -/

/-- A transfer that is executed while nobody else is there does what can be done on the balances, and
succeeds just if it can be done. -/
theorem shifts_iff_succeeds (hunused : system.Unused) (hadmits : runner.Admits)
    (hrange : system.db.books.Storable)
    (hserves : system.Serves [] (command.operation.work runner .pooled opened) past after task)
    (hreply : task.reply = some reply) :
    after.Unused ∧ after.db.books.Storable ∧
      ∀ held, command.Shifts system.db.books.balances held ↔
        reply.failure? = none ∧ held = after.db.books.balances := by
  obtain ⟨hafter, clock, _, _, hreply', hinside, hcommitted⟩ :=
    (hunused.serves_pooled hadmits opened command.operation).2 past after task hserves
  cases hreply.symm.trans hreply'
  obtain ⟨_, halone⟩ := @inside_replying command (system.db.freshPage clock) rfl
  obtain ⟨rfl, rfl⟩ := Prod.mk.inj (halone.symm.trans hinside)
  rw [hcommitted.books]
  refine ⟨hafter, @storable_outcome command (system.db.freshPage clock) hrange, fun held => ?_⟩
  refine (@shifts_iff_outcome command (system.db.freshPage clock) held hrange).trans ?_
  cases (outcome command (system.db.freshPage clock)).1 <;>
    simp [Reply.ofResult, Reply.failure?, Except.toBool]

/-- The transfers are executed in turn, each as a unit of work that nothing disturbs. -/
def Executed (runner : Runner) (system : System) (commands : List Command) (past : Past)
    (after : System) (replies : List Reply) : Prop :=
  system.InTurn runner .pooled [] [] (commands.map (·.operation)) past after replies

/-- Transfers that are executed in turn while nobody else is there all succeed just if they can be done
on the balances in turn. -/
theorem shiftInTurn_iff_succeed (hunused : system.Unused) (hadmits : runner.Admits)
    (hrange : system.db.books.Storable)
    (hturn : system.InTurn runner .pooled [] opened (commands.map (·.operation)) past after replies) :
    after.Unused ∧ after.db.books.Storable ∧
      ∀ held, Command.ShiftInTurn commands system.db.books.balances held ↔
        System.Succeed replies ∧ held = after.db.books.balances := by
  induction commands generalizing system past replies opened with
  | nil =>
    cases hturn
    exact ⟨hunused, hrange, fun held => by simp [Command.ShiftInTurn, System.Succeed]⟩
  | cons command commands ih =>
    cases hturn with
    | @cons _ middle _ _ _ _ _ _ task reply replies hserves hreply hrest =>
    obtain ⟨hmiddle, hstorable, hfirst⟩ :=
      shifts_iff_succeeds hunused hadmits hrange hserves hreply
    obtain ⟨hafter, hstorable', hlater⟩ := ih hmiddle hstorable hrest
    refine ⟨hafter, hstorable', fun held => ?_⟩
    simp [Command.ShiftInTurn, hfirst, hlater, System.Succeed, and_assoc]

/-- When nobody else is there, two transfers from one account to another succeed just if the sum of
their amounts can be stored and the one transfer of it succeeds, and then the balances are the same in
the end. And when transfers have all been executed with success, be it one or many, their reversals from
the last to the first succeed too, and all balances are as they were. A bound on lock waits which the
database refuses is left out. -/
theorem split_and_undone (hunused : system.Unused) (hadmits : runner.Admits)
    (hrange : system.db.books.Storable) :
    (∀ commands, ∃ past after replies, Executed runner system commands past after replies) ∧
    (∀ sender sender' sender'' source target first second, 0 < first → 0 < second →
      ∀ past after replies past' after' replies',
        Executed runner system
          [⟨sender, source, target, first⟩, ⟨sender', source, target, second⟩] past after replies →
        Executed runner system [⟨sender'', source, target, first + second⟩] past' after' replies' →
        (System.Succeed replies ↔ first + second ≤ maxMoney ∧ System.Succeed replies') ∧
          (System.Succeed replies → after.db.books.balances = after'.db.books.balances)) ∧
    ∀ commands reversals, List.Forall₂ Command.Reverses reversals.reverse commands →
      ∀ past after replies, Executed runner system commands past after replies →
        System.Succeed replies →
        (∃ past' last replies', Executed runner after reversals past' last replies') ∧
          ∀ past' last replies', Executed runner after reversals past' last replies' →
            System.Succeed replies' ∧ last.db.books.balances = system.db.books.balances := by
  refine ⟨fun commands => hunused.exists_inTurn hadmits [] _, ?_, ?_⟩
  · intro sender sender' sender'' source target first second hfirst hsecond past after replies past'
      after' replies' hturn hturn'
    obtain ⟨-, -, hboth⟩ := shiftInTurn_iff_succeed hunused hadmits hrange hturn
    obtain ⟨-, -, hsingle⟩ := shiftInTurn_iff_succeed hunused hadmits hrange hturn'
    have hsame : ∀ held, System.Succeed replies ∧ held = after.db.books.balances ↔
        System.Succeed replies' ∧ held = after'.db.books.balances := by
      intro held
      rw [← hboth, ← hsingle, @Command.shifts_split _ _ sender sender' sender'' _ _ _ _ hfirst hsecond]
      simp [Command.ShiftInTurn]
    have hroom : System.Succeed replies' → first + second ≤ maxMoney := by
      intro hall
      obtain ⟨_, ⟨_, _, hmoves, -⟩, -⟩ := (hsingle _).mpr ⟨hall, rfl⟩
      have howes := hmoves.owesNothing
      have hroom := hmoves.room
      dsimp only at hroom
      omega
    refine ⟨⟨fun hall => ?_, fun hall => ?_⟩, fun hall => ?_⟩
    · obtain ⟨hall', -⟩ := (hsame _).mp ⟨hall, rfl⟩
      exact ⟨hroom hall', hall'⟩
    · exact ((hsame _).mpr ⟨hall.2, rfl⟩).1
    · exact ((hsame _).mp ⟨hall, rfl⟩).2
  · intro commands reversals hreverses past after replies hturn hall
    obtain ⟨hafter, hstorable, hforward⟩ := shiftInTurn_iff_succeed hunused hadmits hrange hturn
    refine ⟨hafter.exists_inTurn hadmits [] _, fun past' last replies' hturn' => ?_⟩
    obtain ⟨-, -, hback⟩ := shiftInTurn_iff_succeed hafter hadmits hstorable hturn'
    have hshift := (hforward _).mpr ⟨hall, rfl⟩
    have hundo := Command.shiftInTurn_undo hshift hreverses (balances_le hrange)
    obtain ⟨hsucceed, hbalances⟩ := (hback _).mp hundo
    exact ⟨hsucceed, hbalances.symm⟩

/-- Two transfers in the same direction, and one of what they move together. -/
def splitCommands : List Command :=
  [⟨.nil, 1000000001, 1000000002, 20⟩, ⟨.nil, 1000000001, 1000000002, 15⟩]

/-- Two transfers between the accounts of the pair, the second of which gives back some of the first. -/
def roundCommands : List Command :=
  [⟨.nil, 1000000001, 1000000002, 50⟩, ⟨.nil, 1000000002, 1000000001, 35⟩]

/-- The split transfers succeed and move what the one of their sum moves. Those that go to and fro
succeed, and so do their reversals, which leave the balances as they were. -/
theorem split_and_undone_round :
    (∃ past after replies past' after' replies',
      Executed .default (.start pairLedger 1) splitCommands past after replies ∧
      Executed .default (.start pairLedger 1) [⟨.nil, 1000000001, 1000000002, 35⟩] past' after'
        replies' ∧
      System.Succeed replies ∧ System.Succeed replies' ∧
      after.db.books.balances = after'.db.books.balances ∧
      after.db.books.balances 1000000001 = some 15) ∧
    ∃ past after replies,
      Executed .default (.start pairLedger 1) roundCommands past after replies ∧
      System.Succeed replies ∧ after.db.books.balances 1000000001 = some 35 ∧
      ∃ past' last replies', Executed .default after
          [⟨.nil, 1000000001, 1000000002, 35⟩, ⟨.nil, 1000000002, 1000000001, 50⟩] past' last
          replies' ∧
        System.Succeed replies' ∧ last.db.books.balances 1000000001 = some 50 ∧
        last.db.books.balances 1000000002 = some 10 := by
  have hunused : (System.start pairLedger 1).Unused := System.unused_start ⟨rfl, rfl⟩ Nat.one_pos
  have hrange : pairLedger.books.Storable := by
    unfold Books.Storable
    decide
  have hadmits := Runner.admits_default
  obtain ⟨hexists, hsplit, hundone⟩ := split_and_undone hunused hadmits hrange
  refine ⟨?_, ?_⟩
  · obtain ⟨past, after, replies, hturn⟩ := hexists splitCommands
    obtain ⟨past', after', replies', hturn'⟩ := hexists [⟨.nil, 1000000001, 1000000002, 35⟩]
    obtain ⟨-, -, hshifts⟩ := shiftInTurn_iff_succeed hunused hadmits hrange hturn
    obtain ⟨hall, hbalances⟩ := (hshifts _).mp ⟨_, ⟨50, 10, by constructor <;> decide, rfl⟩, _,
      ⟨30, 30, by constructor <;> decide, rfl⟩, rfl⟩
    obtain ⟨hiff, hsame⟩ := hsplit .nil .nil .nil 1000000001 1000000002 20 15 (by decide) (by decide)
      past after replies past' after' replies' hturn hturn'
    refine ⟨past, after, replies, past', after', replies', hturn, hturn', hall, (hiff.mp hall).2,
      hsame hall, ?_⟩
    rw [← hbalances]
    rfl
  obtain ⟨past, after, replies, hturn⟩ := hexists roundCommands
  obtain ⟨-, -, hshifts⟩ := shiftInTurn_iff_succeed hunused hadmits hrange hturn
  obtain ⟨hall, hbalances⟩ := (hshifts _).mp ⟨_, ⟨50, 10, by constructor <;> decide, rfl⟩, _,
    ⟨60, 0, by constructor <;> decide, rfl⟩, rfl⟩
  obtain ⟨⟨past', last, replies', hturn'⟩, hdone⟩ := hundone roundCommands
    [⟨.nil, 1000000001, 1000000002, 35⟩, ⟨.nil, 1000000002, 1000000001, 50⟩]
    (.cons ⟨rfl, rfl, rfl⟩ (.cons ⟨rfl, rfl, rfl⟩ .nil)) past after replies hturn hall
  obtain ⟨hall', hrestored⟩ := hdone past' last replies' hturn'
  refine ⟨past, after, replies, hturn, hall, ?_, past', last, replies', hturn', hall', ?_, ?_⟩
  · rw [← hbalances]
    rfl
  · rw [hrestored]
    rfl
  · rw [hrestored]
    rfl

end Transfer

end Passbook
