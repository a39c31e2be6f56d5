import Passbook.Proofs.Serial.Standing

/-! # What callers are told

The database answers a statement about one account with rows of that account or with none, whatever
faults strike it (`Answers.fits`). `Work.ComesTo` says what work can come to if this is all that is
known of the answers. A caller who is told anything is told what the work can come to, or that it has
taken too long (`Run.reply_of_spawned`): this holds from any system on and through any faults. -/

namespace Passbook

namespace Statement

/-- The rows are about the account that the statement is about, if it is about one. -/
def Concerns : (statement : Statement) → List statement.Row → Prop
  | selectAccount lookup, rows => ∀ row ∈ rows, row.id = lookup.id
  | updateAccount id _, rows => ∀ row ∈ rows, row.id = id
  | _, _ => True

/-- The answer is an error, or its rows are about the right account. -/
def Fits (statement : Statement) (answer : statement.Answer) : Prop :=
  ∀ rows, answer = .ok rows → statement.Concerns rows

theorem fits_ok {statement : Statement} {rows : List statement.Row}
    (h : statement.Concerns rows) : statement.Fits (.ok rows) := by
  rintro _ ⟨⟩
  exact h

theorem fits_error (statement : Statement) (error : StorageError) :
    statement.Fits (.error error) := nofun

theorem concerns_nil (statement : Statement) : statement.Concerns [] := by
  cases statement <;> simp [Concerns]

theorem concerns_of_not_isQuery {statement : Statement} (h : statement.isQuery = false)
    (rows : List statement.Row) : statement.Concerns rows := by
  cases statement <;> trivial

theorem concerns_effect {around : Surroundings} {view : Books} {statement : Statement}
    {effect : Effect statement} (he : statement.effect around view = .ok effect) :
    statement.Concerns effect.rows := by
  cases statement with
  | selectAccount lookup =>
    cases he
    intro row hrow
    exact Books.id_of_account? (Option.mem_toList.mp hrow)
  | updateAccount id balance =>
    rcases of_updateAccount he with ⟨-, rfl⟩ | ⟨row, row', hfound, rfl, rfl⟩
    · exact concerns_nil _
    · intro row' hrow'
      rw [List.mem_singleton.mp hrow']
      exact (Books.id_of_account? hfound : row.id = id)
  | _ => exact trivial

theorem Concerns.mapAccounts {change : Account → Account} (hid : ∀ row, (change row).id = row.id)
    {statement : Statement} {rows : List statement.Row} (h : statement.Concerns rows) :
    statement.Concerns (statement.mapAccounts change rows) := by
  cases statement with
  | selectAccount | updateAccount =>
    intro row' hrow'
    obtain ⟨row, hrow, rfl⟩ := List.mem_map.mp hrow'
    rw [hid]
    exact h row hrow
  | _ => exact trivial

end Statement

namespace Database

variable {Allowed : Twist → Prop} {db db' : Database} {connection : Nat} {statement : Statement}
  {ran : Bool} {answer : statement.Answer}

theorem fits_run (h : db.run connection statement = .answered db' answer) :
    statement.Fits answer := by
  cases runs_of_run h with
  | begun | committed | rolledBack | bounded | nothingToBound =>
    exact fun rows _ => Statement.concerns_of_not_isQuery rfl rows
  | aborted | outOfRange | rejected => exact Statement.fits_error _ _
  | performed _ _ _ he => exact Statement.fits_ok (Statement.concerns_effect he)

theorem fits_twisted (h : statement.Fits answer) (twist : Twist) :
    statement.Fits (db.twisted connection statement twist answer).2 := by
  unfold twisted
  split
  · exact statement.fits_error _
  · exact h
  · exact Statement.fits_ok statement.concerns_nil
  · refine Statement.fits_ok (Statement.Concerns.mapAccounts ?_ (h _ rfl))
    exact fun _ => rfl
  · exact statement.fits_error _

/-- No fault makes the database answer with the row of another account. -/
theorem Answers.fits (h : db.Answers Allowed connection statement db' ran answer) :
    statement.Fits answer := by
  cases h with
  | dead | aborted | refused | lost => exact statement.fits_error _
  | ran twist _ hr => exact fits_twisted (fits_run hr) twist

end Database

namespace Work

variable {α β : Type} {Results : α → Prop}

/-- What the work can come to if the answers to its statements fit, and nothing else is known of
them. -/
inductive ComesTo (Results : α → Prop) : Work α → Prop
  | done {value : α} : Results value → ComesTo Results (.done value)
  | connect {next : Except StorageError Unit → Work α} : (∀ result, ComesTo Results (next result)) →
      ComesTo Results (.connect next)
  | giveBack {rest : Work α} : ComesTo Results rest → ComesTo Results (.giveBack rest)
  | exec {statement : Statement} {next : statement.Answer → Work α} :
      (∀ answer, statement.Fits answer → ComesTo Results (next answer)) →
      ComesTo Results (.exec statement next)
  | draw {next : Draw → Work α} : (∀ drawn, ComesTo Results (next drawn)) →
      ComesTo Results (.draw next)
  | report {reply : Reply} {rest : Work α} : ComesTo Results rest →
      ComesTo Results (.report reply rest)

theorem ComesTo.bind {Results' : β → Prop} {work : Work α} {f : α → Work β}
    (h : work.ComesTo Results) (hf : ∀ value, Results value → (f value).ComesTo Results') :
    (work.bind f).ComesTo Results' := by
  induction h with
  | done hv => exact hf _ hv
  | connect _ ih => exact .connect ih
  | giveBack _ ih => exact .giveBack ih
  | exec _ ih => exact .exec ih
  | draw _ ih => exact .draw ih
  | report _ ih => exact .report ih

end Work

/-- What the caller of the task has been told is one of the given replies; if nothing yet, then what
is left to do comes to one. -/
def Task.Owes (Replies : Reply → Prop) (task : Task) (left : Work Reply) : Prop :=
  match task.reply with
  | some reply => Replies reply
  | none => left.ComesTo Replies

namespace Task.Owes

variable {Replies : Reply → Prop} {task : Task} {left left' : Work Reply}

theorem mono (h : task.Owes Replies left) (hleft : left.ComesTo Replies → left'.ComesTo Replies) :
    task.Owes Replies left' := by
  unfold Owes at h ⊢
  cases hr : task.reply with
  | some reply => rwa [hr] at h
  | none => rw [hr] at h; exact hleft h

theorem of_reply {reply : Reply} (h : task.Owes Replies left) (hr : task.reply = some reply) :
    Replies reply := by
  unfold Owes at h
  rwa [hr] at h

/-- A caller who has been told nothing yet is told now, and then nothing is owed any more. -/
theorem tell (h : task.Owes Replies left) {reply : Reply}
    (hreply : left.ComesTo Replies → Replies reply) {task' : Task}
    (hr : task'.reply = (task.reply <|> some reply)) (left' : Work Reply) :
    task'.Owes Replies left' := by
  unfold Owes at h ⊢
  rw [hr]
  cases ho : task.reply with
  | some old => rwa [ho] at h
  | none => rw [ho] at h; exact hreply h

end Task.Owes

namespace System

variable {Replies : Reply → Prop} {system after : System} {event : Event} {index : Nat}
  {task : Task}

theorem owes_proceed (system : System) {work : Work Reply} (h : task.Owes Replies work) :
    (system.proceed task work).2.Owes Replies (system.proceed task work).2.stage.work := by
  induction work generalizing system task with
  | done reply =>
    refine h.tell (fun hdone => ?_) rfl _
    cases hdone with | done hreply => exact hreply
  | connect next => exact h
  | exec statement next => exact h
  | giveBack rest ih =>
    have hrest : task.Owes Replies rest := h.mono fun hwork => by
      cases hwork with | giveBack hrest => exact hrest
    unfold proceed
    split
    · exact ih system hrest
    · exact ih _ hrest
  | draw next ih =>
    refine ih _ _ (h.mono fun hwork => ?_)
    cases hwork with | draw hnext => exact hnext _
  | report reply rest ih =>
    refine ih system (h.mono fun hwork => ?_)
    cases hwork with | report hrest => exact hrest

theorem owes_carryOn (hlt : index < system.tasks.length) {work : Work Reply}
    (h : task.Owes Replies work) : ∃ task', (system.carryOn index task work).tasks[index]? =
      some task' ∧ task'.Owes Replies task'.stage.work :=
  ⟨_, getElem?_carryOn_self hlt _ _, owes_proceed system h⟩

theorem owes_moves {move : Move} (ht : system.tasks[move.index]? = some task)
    (hs : system.step (.move move) = some after)
    (htimeout : ∀ unit, Replies (.failed (.timeout unit)))
    (h : task.Owes Replies task.stage.work) :
    ∃ task', after.tasks[move.index]? = some task' ∧ task'.Owes Replies task'.stage.work := by
  have hlt := (List.getElem?_eq_some_iff.mp ht).1
  cases System.moves (Twists.any system) hs with
  | connected _ ho hw =>
    cases ht.symm.trans ho
    have hnext : task.Owes Replies _ := h.mono fun hwork => by
      rw [hw] at hwork
      cases hwork with | connect hnext => exact hnext (.ok ())
    refine owes_carryOn ?_ ?_
    · exact hlt
    · exact hnext
  | turnedAway error _ ho hw =>
    cases ht.symm.trans ho
    refine owes_carryOn hlt (h.mono fun hwork => ?_)
    rw [hw] at hwork
    cases hwork with | connect hnext => exact hnext _
  | gaveUp _ ho =>
    cases ht.symm.trans ho
    exact owes_carryOn hlt (h.tell (fun _ => htimeout _) rfl _)
  | leftBehind _ ho =>
    cases ht.symm.trans ho
    exact ⟨_, List.getElem?_set_self hlt, h.tell (fun _ => htimeout _) rfl _⟩
  | @arrived arrival _ ha =>
    cases ht.symm.trans ha.task
    have hstage := ha.stage
    have htasks : arrival.system.tasks = system.tasks := by rw [ha.meets.eq]
    rw [← htasks, ← ha.index] at hlt
    rw [← ha.index]
    obtain ⟨⟨index, task, connection, statement, next⟩, met, fate⟩ := arrival
    obtain ⟨-, -, -, -, -, hfate, -⟩ := ha
    dsimp only at hstage hfate hlt h ⊢
    cases hfate with
    | held =>
      refine ⟨_, List.getElem?_set_self hlt, ?_⟩
      rw [hstage] at h
      exact h
    | @answered _ _ answer hanswers =>
      have hnext : task.Owes Replies (next answer) := h.mono fun hwork => by
        rw [hstage] at hwork
        cases hwork with | exec hnext => exact hnext answer hanswers.fits
      refine owes_carryOn ?_ hnext
      exact hlt

/-- Whatever happens, the caller of a task is told of something that its work can come to. -/
theorem owes_step (ht : system.tasks[index]? = some task) (hs : system.step event = some after)
    (htimeout : ∀ unit, Replies (.failed (.timeout unit)))
    (h : task.Owes Replies task.stage.work) :
    ∃ task', after.tasks[index]? = some task' ∧ task'.Owes Replies task'.stage.work := by
  -- A task that the event does not move is changed by the end of a stall only.
  by_cases hm : event.mover? = some index
  · obtain ⟨move, rfl, rfl⟩ := mover?_eq_some hm
    exact owes_moves ht hs htimeout h
  · rcases getElem?_step hs ht hm with ht' | ⟨-, ht'⟩
    · exact ⟨task, ht', h⟩
    · refine ⟨_, ht', h.mono fun hwork => ?_⟩
      dsimp only
      rwa [Stage.work_unstall]

end System

namespace Run

variable {Replies : Reply → Prop} {start system : System} {past : Past} {index : Nat}
  {next : Except StorageError Unit → Work Reply}

theorem owes_of_spawned (h : Run start past system)
    (htimeout : ∀ unit, Replies (.failed (.timeout unit)))
    (hspawned : past.Spawned index (.connect next)) (hwork : (Work.connect next).ComesTo Replies) :
    ∃ task, system.tasks[index]? = some task ∧ task.Owes Replies task.stage.work := by
  induction h with
  | refl => obtain ⟨_, _, _, hmem, _⟩ := hspawned; cases hmem
  | @step past system after event _ hs ih =>
    rcases hspawned.of_concat with hspawned | ⟨rfl, connections, deadline, rfl⟩
    · obtain ⟨task, ht, howes⟩ := ih hspawned
      exact System.owes_step ht hs htimeout howes
    · obtain ⟨-, -, rfl⟩ := System.spawned_of_step hs
      exact ⟨_, List.getElem?_concat_length .., hwork⟩

/-- The caller of a task is told of something that the work it was spawned for can come to, or that
it has taken too long, whatever else goes on and whatever faults strike. -/
theorem reply_of_spawned (h : Run start past system)
    (htimeout : ∀ unit, Replies (.failed (.timeout unit)))
    (hspawned : past.Spawned index (.connect next)) (hwork : (Work.connect next).ComesTo Replies)
    {reply : Reply} (hreply : system.reply? index = some reply) : Replies reply := by
  obtain ⟨task, ht, howes⟩ := h.owes_of_spawned htimeout hspawned hwork
  rw [System.reply?, ht] at hreply
  exact howes.of_reply hreply

end Run

end Passbook
