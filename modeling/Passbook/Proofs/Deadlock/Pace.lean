import Passbook.Proofs.Deadlock.Ascent

/-! # The pace of an ascending unit

An ascending unit of work sends so many statements at most, and it moves twice as often and once more
at most (`Past.Paced`): once to get its connection, and twice for a statement that has to wait for a
lock.
`Climber` says where such a unit stands in a system without faults, and `Climber.advances` what its
move comes to. Its connection is free as soon as it is finished. -/

namespace Passbook

namespace Past

variable {past : Past} {system : System} {event : Event} {index limit left left' : Nat}
  {isSent : Bool} {statement : Statement}

/-- How many statements a task has sent. -/
def statements (past : Past) (index : Nat) : Nat :=
  past.countP fun (system, event) => (system.sent? event).any (·.1 == index)

/-- How many times a task has moved. -/
def moves (past : Past) (index : Nat) : Nat :=
  past.countP fun (_, event) => event.mover? == some index

theorem countP_concat (p : System × Event → Bool) (past : Past) (last : System × Event) :
    (past ++ [last]).countP p = past.countP p + (p last).toNat := by
  rw [List.countP_append, List.countP_singleton]
  cases p last <;> rfl

theorem statements_concat (past : Past) (system : System) (event : Event) (index : Nat) :
    Past.statements (past ++ [(system, event)]) index =
      past.statements index + ((system.sent? event).any (·.1 == index)).toNat :=
  countP_concat ..

theorem moves_concat (past : Past) (system : System) (event : Event) (index : Nat) :
    Past.moves (past ++ [(system, event)]) index =
      past.moves index + (event.mover? == some index).toNat :=
  countP_concat ..

/-- The task has kept to its pace if it has so many statements left at most, of a limited number, and
one is under way or not. While it waits for its connection it is as if one more were under way. -/
structure Paced (past : Past) (limit index left : Nat) (isSent : Bool) : Prop where
  statements : past.statements index + left ≤ limit + isSent.toNat
  moves : past.moves index + isSent.toNat ≤ 1 + 2 * past.statements index

namespace Paced

theorem mono (h : past.Paced limit index left isSent) (hle : left' ≤ left) :
    past.Paced limit index left' isSent :=
  ⟨Nat.le_trans (Nat.add_le_add_left hle _) h.statements, h.moves⟩

theorem of_not_moved (h : past.Paced limit index left isSent) (system : System)
    (hm : event.mover? ≠ some index) :
    Past.Paced (past ++ [(system, event)]) limit index left isSent := by
  have hmoves : Past.moves (past ++ [(system, event)]) index = past.moves index := by
    simp [moves_concat, hm]
  have hstatements : Past.statements (past ++ [(system, event)]) index = past.statements index := by
    rw [statements_concat]
    cases hs : system.sent? event with
    | none => rfl
    | some sent =>
      have hne : sent.1 ≠ index := by
        rintro rfl
        exact hm (System.sent?_index hs)
      simp [hne]
  exact ⟨by rw [hstatements]; exact h.statements, by rw [hstatements, hmoves]; exact h.moves⟩

/-- A statement is sent and has to wait. -/
theorem held (h : past.Paced limit index left false) (hm : event.mover? = some index)
    (hs : system.sent? event = some (index, statement)) :
    Past.Paced (past ++ [(system, event)]) limit index left true := by
  obtain ⟨hstatements, hmoves⟩ := h
  simp only [Bool.toNat_false] at hstatements hmoves
  constructor
  · simp [statements_concat, hs]
    omega
  · simp [statements_concat, moves_concat, hs, hm]
    omega

/-- A statement is answered, with or without having waited. -/
theorem told (h : past.Paced limit index (left + 1) isSent) (hm : event.mover? = some index)
    (hs : system.sent? event = if isSent then none else some (index, statement)) :
    Past.Paced (past ++ [(system, event)]) limit index left false := by
  obtain ⟨hstatements, hmoves⟩ := h
  cases isSent with
  | false =>
    simp only [Bool.toNat_false] at hstatements hmoves
    constructor
    · simp [statements_concat, hs]
      omega
    · simp [statements_concat, moves_concat, hs, hm]
      omega
  | true =>
    simp only [Bool.toNat_true] at hstatements hmoves
    constructor
    · simp [statements_concat, hs]
      omega
    · simp [statements_concat, moves_concat, hs, hm]
      omega

end Paced

end Past

namespace System

open UnitOfWork

variable {Hasty : Prop} {limit : Nat} {past : Past} {system after : System} {event : Event}
  {move : Move} {index : Nat} {task : Task}

/-- Where the task of an ascending unit stands that sends a limited number of statements. If callers
are hasty, there is no deadline at which they could give up. -/
inductive Climber (Hasty : Prop) (limit : Nat) (past : Past) (system : System) (index : Nat)
    (task : Task) : Prop
  | waiting {unit : UnitOfWork} : unit.Ascending → unit.statements ≤ limit → Waiting unit task →
      (Hasty → task.deadline = none) → past.Paced limit index (limit + 1) true →
      Climber Hasty limit past system index task
  | asking {unit : UnitOfWork} {connection left : Nat} {phase : Phase} : unit.Ascending →
      Asking unit task connection phase → (Hasty → task.deadline = none) →
      task.stage.AwaitsLock →
      phase.Obeys (fun statement => statement.isQuery = true) Honest →
      phase.Ascends unit system.db connection left →
      past.Paced limit index left task.stage.isSent → Climber Hasty limit past system index task
  | finished : task.stage.isFinished = true → task.reply.isSome = true →
      past.Paced limit index 0 false → Climber Hasty limit past system index task

/-- What the move of a task comes to in a system without faults. It takes no place but its own, and
what is in use afterwards is its own or what others had before. -/
structure Advances (Hasty : Prop) (limit : Nat) (past : Past) (system : System) (event : Event)
    (after : System) (index : Nat) (task task' : Task) : Prop where
  tasks : after.tasks = system.tasks.set index task'
  climber : Climber Hasty limit (past ++ [(system, event)]) after index task'
  inUse : ∀ connection ∈ after.inUse, connection ∈ task'.claims ∨
    connection ∈ system.inUse ∧ connection ∉ task.claims
  closed : after.closed = system.closed
  capacity : after.capacity = system.capacity

theorem giveBack_ended {connection : Nat}
    (h : (system.db.session connection).alive = true →
      (system.db.session connection).unended = false) :
    system.giveBack connection = { system with
      db := system.db.close connection
      inUse := system.inUse.erase connection } := by
  have hended : ¬ ((system.db.session connection).alive &&
      (system.db.session connection).unended) = true := by
    intro hopen
    obtain ⟨halive, hunended⟩ := Bool.and_eq_true_iff.mp hopen
    rw [h halive] at hunended
    cases hunended
  unfold giveBack
  dsimp only
  rw [if_neg hended]

theorem advances_waiting {unit : UnitOfWork} (ho : Orderly [] [] system)
    (ht : system.tasks[move.index]? = some task) (hs : system.step (.move move) = some after)
    (ha : unit.Ascending) (hle : unit.statements ≤ limit) (hwait : Waiting unit task)
    (hd : Hasty → task.deadline = none) (hpaced : past.Paced limit move.index (limit + 1) true) :
    ∃ task', Advances Hasty limit past system (.move move) after move.index task task' := by
  have hnone : ∀ connection, connection ∉ task.claims := by
    intro connection hclaims
    unfold Task.claims at hclaims
    rw [hwait.connections] at hclaims
    split at hclaims <;> cases hclaims
  cases hwait.goes ht hs with
  | connected hmove _ hasks =>
    have hsent : system.sent? (.move move) =
        if true then none else some (move.index, Statement.begin) := by rw [hmove]; rfl
    have hfresh : system.db.transaction? system.nextConnection = none := by
      unfold Database.transaction?
      rw [ho.fresh _ fun hin => Nat.lt_irrefl _ (ho.lt_next _ hin)]
      rfl
    refine ⟨_, rfl, .asking ha ⟨rfl, hwait.reply, _, _, rfl, hasks⟩ hd trivial trivial
      (.beginning hfresh) ((hpaced.told rfl hsent).mono hle), fun connection hin => ?_, rfl, rfl⟩
    rcases List.mem_cons.mp hin with rfl | hin
    · exact .inl List.mem_cons_self
    · exact .inr ⟨hin, hnone connection⟩
  | dismissed deadline failure _ _ hmove =>
    have hsent : system.sent? (.move move) =
        if true then none else some (move.index, Statement.begin) := by
      rcases hmove with ⟨_, hmove, -⟩ | hmove <;> rw [hmove] <;> rfl
    exact ⟨_, rfl, .finished rfl rfl ((hpaced.told rfl hsent).mono (Nat.zero_le _)),
      fun connection hin => .inr ⟨hin, hnone connection⟩, rfl, rfl⟩

/-- A unit ends with the end of its transaction, or with the failure of what is not refused. -/
theorem granted_of_ends {unit : UnitOfWork} {db : Database} {connection left : Nat} {phase : Phase}
    {statement : Statement} {answer : statement.Answer} {reply : Reply}
    (h : phase.Ascends unit db connection left) (hends : unit.Ends phase statement answer reply) :
    statement.isGranted = true ∧ db.refusesAborted connection statement = false ∧
      (statement.isEnd = true ∨ answer.toBool = false) := by
  cases hends with
  | notBegun error =>
    cases h with
    | beginning hnone => exact ⟨rfl, by simp [Database.refusesAborted, hnone], .inr rfl⟩
  | notBounded millis error =>
    cases h with
    | limiting hrange ht _ haborted =>
      exact ⟨decide_eq_true hrange, by simp [Database.refusesAborted, ht, haborted], .inr rfl⟩
  | committed | unknown | rolledBack =>
    exact ⟨rfl, by simp [Database.refusesAborted, Statement.isEnd], .inl rfl⟩

theorem advances_asking {unit : UnitOfWork} {connection left : Nat} {phase : Phase}
    (hf : system.faults = []) (hT : system.Twists fun twist => twist.isHonest = true)
    (hu : system.Underway) (ho : Orderly [] [] system)
    (ht : system.tasks[move.index]? = some task) (hs : system.step (.move move) = some after)
    (ha : unit.Ascending) (hask : Asking unit task connection phase)
    (hd : Hasty → task.deadline = none) (hhasty : move = .abandon move.index → Hasty)
    (hl : task.stage.AwaitsLock)
    (hphase : phase.Obeys (fun statement => statement.isQuery = true) Honest)
    (hasc : phase.Ascends unit system.db connection left)
    (hpaced : past.Paced limit move.index left task.stage.isSent) :
    ∃ task', Advances Hasty limit past system (.move move) after move.index task task' := by
  have hclaims := hask.claims
  have hinUse : ∀ {task' : Task}, task'.claims = [connection] → ∀ other ∈ system.inUse,
      other ∈ task'.claims ∨ other ∈ system.inUse ∧ other ∉ task.claims := by
    intro task' hown other hin
    rw [hown, hclaims]
    by_cases he : other = connection
    · exact .inl (by simp [he])
    · exact .inr ⟨hin, by simp [he]⟩
  obtain ⟨statement, next, hw, hasks⟩ := hask.asks
  have hc : task.connections.head? = some connection := by rw [hask.connections]; rfl
  rcases waits_or_told hf ht hc (fun habandon => hd (hhasty habandon)) hw hl hs with
    ⟨hready, hq, -, hsent, rfl⟩ | ⟨ran, answer, htold, hok⟩
  · have hpaced' : past.Paced limit move.index left false := by rwa [hready] at hpaced
    refine ⟨_, rfl, .asking ha ⟨hask.connections, hask.reply, _, _, rfl, hasks⟩ hd ⟨hq, _, rfl⟩
      hphase hasc.wait (hpaced'.held rfl hsent), hinUse ?_, rfl, rfl⟩
    simp [Task.claims, Stage.isFinished, hask.connections]
  · cases hask.goes ha.body hphase hT hu ht hs with
    | held _ _ _ _ htold' => cases htold.symm.trans htold'
    | quit _ _ _ _ hmove | left _ _ _ _ _ _ hmove =>
      rw [hmove] at htold
      cases htold
    | turned ran answer hw' hasks' htold' hsent htells hturn hasks'' =>
      obtain ⟨left, rfl, hasc'⟩ := hasc.turned ha ho.locks htells hturn
      refine ⟨_, rfl, .asking ha ⟨hask.connections, hask.reply, _, _, rfl, hasks''⟩ hd trivial
        (hturn.obeys ha.body hphase) ?_ (hpaced.told rfl hsent), hinUse ?_, rfl, rfl⟩
      · exact hasc'.of_untouched (.of_eq rfl rfl rfl) fun _ => id
      · simp [Task.claims, Stage.isFinished, hask.connections]
    | @ended asked _ reply db faults _ _ hw' _ htold' hsent htells hends =>
      cases hw.symm.trans hw'
      cases htold.symm.trans htold'
      have hended : (db.session connection).alive = true →
          (db.session connection).unended = false := by
        intro halive
        have hliving : (system.db.session connection).alive = true := by
          by_contra hdead
          obtain ⟨rfl, -⟩ := htells.of_dead (by simpa using hdead)
          exact hdead halive
        obtain ⟨hgranted, hopen, hend⟩ := granted_of_ends hasc hends
        have hanswered := (hok hliving hopen).1 hgranted
        rcases hend with hend | hfailed
        · exact htells.noted hend hanswered
        · cases hfailed.symm.trans hanswered
      obtain ⟨rest, rfl⟩ := hasc.left_eq
      rw [@giveBack_ended { system with db, faults } connection hended]
      refine ⟨_, rfl, .finished rfl rfl ((hpaced.told rfl hsent).mono (Nat.zero_le _)),
        fun other hin => ?_, rfl, rfl⟩
      obtain ⟨hne, hin⟩ := (List.Nodup.mem_erase_iff ho.nodup).mp hin
      rw [hclaims]
      exact .inr ⟨hin, by simpa using hne⟩

/-- No account ever disappears. -/
theorem exist_step (hs : system.step event = some after) {id : Int}
    (hid : (system.db.books.account? id).isSome = true) :
    (after.db.books.account? id).isSome = true := by
  rw [books_step hs]
  cases system.publication? event with
  | none => exact hid
  | some publication => exact Books.isSome_overlay publication.2 hid

namespace Climber

/-- Others do not change anything about it. -/
theorem of_step (h : Climber Hasty limit past system index task) (ho : Orderly [] [] system)
    (hs : system.step event = some after) (ht : system.tasks[index]? = some task)
    (hm : event.mover? ≠ some index) :
    Climber Hasty limit (past ++ [(system, event)]) after index task := by
  cases h with
  | waiting ha hle hwait hd hpaced =>
    exact .waiting ha hle hwait hd (hpaced.of_not_moved system hm)
  | @asking unit connection left phase ha hask hd hl hphase hasc hpaced =>
    have hspares := spares_of_claims ho hs ht hask.mem_claims hm
    exact .asking ha hask hd hl hphase (hasc.of_untouched hspares.untouched fun _ => exist_step hs)
      (hpaced.of_not_moved system hm)
  | finished hf hreply hpaced => exact .finished hf hreply (hpaced.of_not_moved system hm)

/-- What the move of the task comes to. -/
theorem advances (h : Climber Hasty limit past system move.index task) (hf : system.faults = [])
    (hT : system.Twists fun twist => twist.isHonest = true) (hu : system.Underway)
    (ho : Orderly [] [] system) (hhasty : move = .abandon move.index → Hasty)
    (ht : system.tasks[move.index]? = some task) (hs : system.step (.move move) = some after) :
    ∃ task', Advances Hasty limit past system (.move move) after move.index task task' := by
  cases h with
  | waiting ha hle hwait hd hpaced => exact advances_waiting ho ht hs ha hle hwait hd hpaced
  | asking ha hask hd hl hphase hasc hpaced =>
    exact advances_asking hf hT hu ho ht hs ha hask hd hhasty hl hphase hasc hpaced
  | finished hfinished => exact absurd rfl (not_mover_of_finished hs ht hfinished)

end Climber

end System

end Passbook
