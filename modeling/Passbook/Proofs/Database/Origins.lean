import Passbook.Proofs.Database.Custody

/-! # Where open transactions come from

A transaction that is open after a statement was open before it, and the statement has added to its
changes what it has written; or it has begun by it (`Tells.origin`). So whatever holds of an empty
transaction and is kept by what statements write holds of every open one. -/

namespace Passbook.Database

variable {Allowed : Twist → Prop} {db met db' : Database} {connection : Nat} {statement : Statement}
  {ran : Bool} {answer : statement.Answer} {transaction : Transaction}

/-- How a transaction has come about that is open when a statement has been answered. -/
inductive Origin (db : Database) (connection : Nat) (statement : Statement) (ran : Bool)
    (answered : Bool) (transaction : Transaction) : Prop
  | continued (former : Transaction) : db.transaction? connection = some former →
      transaction.began = former.began →
      transaction.changes = former.changes.overlay
        (if ran then db.written connection statement else .empty) →
      Origin db connection statement ran answered transaction
  | begun : statement = .begin → ran = true → answered = true →
      db.transaction? connection = none → transaction.began = db.clock →
      transaction.changes = .empty → Origin db connection statement ran answered transaction

namespace Origin

variable {answered : Bool} {former : Transaction}

/-- Nothing has been written. -/
theorem of_same (ht : db.transaction? connection = some former)
    (hbegan : transaction.began = former.began) (hchanges : transaction.changes = former.changes)
    (hwritten : ran = true → db.written connection statement = .empty) :
    db.Origin connection statement ran answered transaction := by
  refine .continued former ht hbegan ?_
  rw [hchanges]
  split
  · rw [hwritten ‹_›, Books.overlay_empty]
  · rw [Books.overlay_empty]

/-- The client's note does not matter. -/
theorem of_note {unended : Bool}
    (h : (db.note connection unended).Origin connection statement ran answered transaction) :
    db.Origin connection statement ran answered transaction := by
  cases h with
  | continued former ht hbegan hchanges =>
    rw [transaction?_note] at ht
    rw [written_note] at hchanges
    exact .continued former ht hbegan hchanges
  | begun hb hran ha hnone hbegan hchanges =>
    rw [transaction?_note] at hnone
    exact .begun hb hran ha hnone hbegan hchanges

end Origin

/-- What a refusal leaves open was open before. -/
theorem transaction?_abort (ht : (db.abort connection).transaction? connection = some transaction) :
    ∃ former, db.transaction? connection = some former ∧ transaction.began = former.began ∧
      transaction.changes = former.changes := by
  unfold abort at ht
  split at ht
  · rename_i former hformer
    simp only [transaction?, session_setTransaction, if_true, Option.some.injEq] at ht
    subst ht
    exact ⟨former, hformer, rfl, rfl⟩
  · exact ⟨transaction, ht, rfl, rfl⟩

theorem run_origin (hr : db.run connection statement = .answered db' answer)
    (ht : db'.transaction? connection = some transaction) :
    db.Origin connection statement true answer.toBool transaction := by
  have hwritten : statement.isWrite = false → true = true →
      db.written connection statement = .empty :=
    fun hw _ => written_of_not_isWrite db connection hw
  have hquery : statement.isQuery = true →
      db.Origin connection statement true answer.toBool transaction := by
    intro hq
    cases hformer : db.transaction? connection with
    | none =>
      rw [(run_outside_leaves hq hformer hr).1] at ht
      cases ht
    | some former =>
      obtain ⟨transaction', hsession, hbegan, hchanges, -⟩ := run_query hq hformer hr
      rw [transaction?, hsession] at ht
      cases ht
      exact .continued former hformer hbegan hchanges
  cases runs_of_run hr with
  | begun =>
    cases hformer : db.transaction? connection with
    | none =>
      rw [enter, hformer] at ht
      simp only [transaction?, session_setTransaction, if_true, Option.some.injEq] at ht
      subst ht
      exact .begun rfl rfl rfl hformer rfl rfl
    | some former =>
      rw [enter, hformer] at ht
      cases hformer.symm.trans ht
      exact .of_same hformer rfl rfl (hwritten rfl)
  | committed | rolledBack =>
    rw [transaction?_run_end rfl hr] at ht
    cases ht
  | aborted haborted =>
    exact .of_same ht rfl rfl fun _ => if_pos haborted
  | outOfRange =>
    obtain ⟨former, hformer, hbegan, hchanges⟩ := transaction?_abort ht
    exact .of_same hformer hbegan hchanges (hwritten rfl)
  | bounded _ hformer =>
    simp only [transaction?, session_setTransaction, if_true, Option.some.injEq] at ht
    subst ht
    exact .of_same hformer rfl rfl (hwritten rfl)
  | nothingToBound => exact .of_same ht rfl rfl (hwritten rfl)
  | performed hq | rejected hq => exact hquery hq

theorem Answers.origin (h : db.Answers Allowed connection statement db' ran answer)
    (ht : db'.transaction? connection = some transaction) :
    db.Origin connection statement ran answer.toBool transaction := by
  cases h with
  | dead | aborted => exact .of_same ht rfl rfl nofun
  | refused rejection =>
    unfold refuse at ht
    split at ht
    · simp [transaction?] at ht
    · obtain ⟨former, hformer, hbegan, hchanges⟩ := transaction?_abort ht
      exact .of_same hformer hbegan hchanges nofun
  | lost =>
    rw [(disconnect_lost ..).2] at ht
    cases ht
  | @ran ended answer twist _ hr =>
    rcases twisted_cases ended connection twist answer with ⟨hdb, hok, -⟩ | ⟨-, htwisted⟩
    · rw [hdb] at ht
      rw [hok]
      exact run_origin hr ht
    · rw [htwisted, (disconnect_lost ..).2] at ht
      cases ht

/-- An open transaction was open before the statement that was answered last, or has begun by it. -/
theorem Tells.origin (h : db.Tells Allowed connection statement db' ran answer)
    (ht : db'.transaction? connection = some transaction) :
    db.Origin connection statement ran answer.toBool transaction := by
  cases h with
  | dead => exact .of_same ht rfl rfl nofun
  | living _ hmet hanswers =>
    have hnoted := hanswers.origin <| show _ = some transaction by
      split at ht
      · rwa [transaction?_note] at ht
      · exact ht
    rcases hmet with rfl | ⟨-, rfl⟩
    · exact hnoted
    · exact hnoted.of_note

/-! ## Statements that have waited -/

theorem Answers.waiting {time : Instant}
    (h : db.Answers Allowed connection statement db' ran answer)
    (hw : (db'.session connection).waiting = some time) :
    (db.session connection).waiting = some time := by
  cases h with
  | dead | aborted => exact hw
  | refused rejection =>
    unfold refuse at hw
    split at hw
    · rwa [session_forget, if_pos rfl] at hw
    · rwa [session_aborted] at hw
  | lost => rwa [session_disconnect, if_pos rfl] at hw
  | @ran ended answer twist _ hr =>
    have hended : (ended.session connection).waiting = some time := by
      rcases twisted_cases ended connection twist answer with ⟨hdb, -⟩ | ⟨-, htwisted⟩
      · rwa [hdb] at hw
      · rwa [htwisted, session_disconnect, if_pos rfl] at hw
    obtain ⟨waiting, hwaiting, hsession⟩ := session_run hr
    rw [hsession] at hended
    rcases hwaiting with rfl | rfl
    · cases hended
    · exact hended

/-- No answer makes a statement wait. -/
theorem Tells.waiting {other : Nat} {time : Instant}
    (h : db.Tells Allowed connection statement db' ran answer)
    (hw : (db'.session other).waiting = some time) : (db.session other).waiting = some time := by
  by_cases hc : other = connection
  · subst hc
    cases h with
    | dead => exact hw
    | @living met ended _ _ _ hmet hanswers =>
      have hended : (ended.session other).waiting = some time := by
        split at hw
        · rwa [waiting_note] at hw
        · exact hw
      have hwaited := hanswers.waiting hended
      rcases hmet with rfl | ⟨-, rfl⟩
      · exact hwaited
      · rwa [waiting_note] at hwaited
  · rwa [(h.untouched hc).session] at hw

/-! ## Rows that are answered -/

theorem run_rows {rows : List statement.Row} (hq : statement.isQuery = true)
    (hr : db.run connection statement = .answered db' (.ok rows)) :
    ∃ effect, statement.effect (db.surroundings connection) (db.view connection) = .ok effect ∧
      rows = effect.rows := by
  cases runs_of_run hr with
  | begun | committed | rolledBack | bounded | nothingToBound => cases hq
  | performed _ _ _ he => exact ⟨_, he, rfl⟩

/-- Rows are those that the statement has found, or made, among what its connection sees, as the twist
leaves them. -/
theorem Tells.twisted_rows {rows : List statement.Row}
    (h : db.Tells Allowed connection statement db' ran (.ok rows)) (hq : statement.isQuery = true) :
    ∃ effect twist ended,
      statement.effect (db.surroundings connection) (db.view connection) = .ok effect ∧
        Allowed twist ∧ (twisted ended connection statement twist (.ok effect.rows)).2 = .ok rows := by
  generalize hanswer : (.ok rows : statement.Answer) = answer at h
  cases h.answers (Statement.ne_begin_of_isQuery hq) (Statement.isEnd_of_isQuery hq) with
  | dead | aborted | refused | lost => cases hanswer
  | @ran ended own twist hallowed hr =>
    cases own with
    | error => cases hanswer
    | ok found =>
      obtain ⟨effect, he, rfl⟩ := run_rows hq hr
      exact ⟨effect, twist, ended, he, hallowed, rfl⟩

/-- What holds of all rows that the statement has found or made, whatever their balances are made out to
be, holds of those that are told of. -/
theorem Tells.forall_rows {P : statement.Row → Prop} {rows : List statement.Row}
    (h : db.Tells Allowed connection statement db' ran (.ok rows)) (hq : statement.isQuery = true)
    (heffect : ∀ effect,
      statement.effect (db.surroundings connection) (db.view connection) = .ok effect →
      ∀ row ∈ effect.rows, P row)
    (hset : ∀ value found, (∀ row ∈ found, P row) →
      ∀ row ∈ statement.mapAccounts (fun row => { row with balance := value }) found, P row) :
    ∀ row ∈ rows, P row := by
  obtain ⟨effect, twist, ended, he, -, hrows⟩ := h.twisted_rows hq
  have hfound := heffect effect he
  cases twist with
  | none => cases hrows; exact hfound
  | noRows => cases hrows; exact List.forall_mem_nil _
  | setBalance value => cases hrows; exact hset value effect.rows hfound
  | disconnect => cases hrows

/-- Honestly told rows are those that the statement has found or made. -/
theorem Tells.rows {rows : List statement.Row}
    (h : db.Tells (fun twist => twist.isHonest = true) connection statement db' ran (.ok rows))
    (hq : statement.isQuery = true) :
    ∃ effect, statement.effect (db.surroundings connection) (db.view connection) = .ok effect ∧
      rows = effect.rows := by
  obtain ⟨effect, twist, ended, he, hhonest, hrows⟩ := h.twisted_rows hq
  refine ⟨effect, he, ?_⟩
  cases twist with
  | none => exact (Except.ok.inj hrows).symm
  | disconnect => cases hrows
  | noRows | setBalance => cases hhonest

/-! ## What statements write -/

/-- What is written is the effect of the statement. -/
theorem written_of_effect {P : Books → Prop} (hempty : P .empty)
    (heffect : ∀ effect,
      statement.effect (db.surroundings connection) (db.view connection) = .ok effect →
      P effect.changes) : P (db.written connection statement) := by
  unfold written
  split
  · exact hempty
  · split
    · exact heffect _ ‹_›
    · exact hempty

/-- Entries carry the time at which the transaction has begun that writes them. -/
theorem createdAt_of_written {entry : Entry}
    (hmem : entry ∈ (db.written connection statement).entries) :
    entry.createdAt = (db.surroundings connection).now := by
  revert hmem
  refine written_of_effect (P := fun books => entry ∈ books.entries → _) nofun fun effect he hmem => ?_
  cases statement with
  | insertEntry new =>
    obtain ⟨row, hrow, rfl⟩ := Statement.of_insertEntry he
    obtain rfl := List.mem_singleton.mp hmem
    unfold Statement.newEntry at hrow
    split at hrow
    · cases hrow
    · split at hrow
      · cases hrow
      · split at hrow <;> cases hrow
        rfl
  | insertAccount id owner kind =>
    obtain ⟨row, -, rfl⟩ := Statement.of_insertAccount he
    cases hmem
  | updateAccount id balance =>
    rcases Statement.of_updateAccount he with ⟨-, rfl⟩ | ⟨row, row', -, -, rfl⟩ <;> cases hmem
  | _ => cases he; cases hmem

end Passbook.Database
