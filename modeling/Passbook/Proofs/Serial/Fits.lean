import Passbook.Proofs.Serial.Alone

/-! # Units that fit the committed books

At every moment a unit of guarded work has done in its transaction what it would have done alone on
the committed books as they are at that moment, or a statement has failed and it is about to fail with
it (`UnitOfWork.Fits`). What others do keeps it so, if the books go on to agree on the rows that the
unit has locked (`Fits.of_untouched`), and so does what the unit itself does (`Fits.turned`). In the
end it has committed what it would have written alone, or it has failed (`Verdict`). -/

namespace Passbook.UnitOfWork

variable {unit : UnitOfWork} {db db' : Database} {connection : Nat} {phase phase' : Phase}
  {statement : Statement} {ran : Bool} {answer : statement.Answer} {reply : Reply}

/-- The unit does nothing but store calls, reads rows only under their locks, and ends with the first
statement that fails. -/
structure Strict (unit : UnitOfWork) : Prop where
  body : IsBody unit.body.run
  guarded : unit.body.run.Guarded

theorem IsTransfer.strict (h : unit.IsTransfer) : unit.Strict := ⟨h.isBody, h.guarded⟩

/-- The unit has done so far what it would have done alone on the committed books, or it is about to
fail because of a statement that has failed. -/
inductive Fits (unit : UnitOfWork) (db : Database) (connection : Nat) : Phase → Prop
  | beginning : db.transaction? connection = none → Fits unit db connection .beginning
  | limiting {transaction : Transaction} {bound : Duration} :
      unit.runner.lockTimeout = some bound → db.transaction? connection = some transaction →
      transaction.changes = .empty → transaction.aborted = false →
      Fits unit db connection (.limiting bound.millis)
  | working {transaction : Transaction} {rest : Work (Except Failure Reply)} : unit.Admits →
      db.transaction? connection = some transaction → transaction.aborted = false →
      unit.body.run.Replays (db.Holds connection) db.books db.draws transaction.began
        transaction.changes rest → Fits unit db connection (.working rest)
  | failing (error : StorageError) :
      Fits unit db connection (.working (.done (.error (.storage error))))

/-- How a unit has ended, told by the statement that ended it: with a commit that has published what
the unit would have written alone, or with a failure. If that is one of the ledger, the unit would
have failed so alone. -/
inductive Verdict (unit : UnitOfWork) (db : Database) (connection : Nat) (statement : Statement)
    (ran : Bool) (reply : Reply) : Prop
  | committed {transaction : Transaction} {result : Reply} : statement = .commit → ran = true →
      db.published? connection statement = some transaction.changes → unit.Admits →
      unit.body.run.Replays (db.Holds connection) db.books db.draws transaction.began
        transaction.changes (.done (.ok result)) →
      reply = result ∨ (∃ failure, reply = .failed failure ∧ ∀ error, failure ≠ .ledger error) →
      Verdict unit db connection statement ran reply
  | failed {failure : Failure} : reply = .failed failure →
      (if ran then db.published? connection statement else none) = none →
      (∀ error, failure = .ledger error → unit.Admits ∧ ∃ began changes,
        unit.body.run.Replays (db.Holds connection) db.books db.draws began changes
          (.done (.error failure))) →
      Verdict unit db connection statement ran reply

namespace Fits

/-- A unit is not disturbed as long as the books agree on the rows that it has locked. -/
theorem of_untouched (h : unit.Fits db connection phase)
    (hu : Database.Untouched connection db db')
    (ha : db.books.Agree (db.Holds connection) db'.books) : unit.Fits db' connection phase := by
  cases h with
  | beginning hnone => exact .beginning (hu.transaction?.trans hnone)
  | limiting hbound ht hchanges haborted =>
    exact .limiting hbound (hu.transaction?.trans ht) hchanges haborted
  | working hadmits ht haborted hreplays =>
    refine .working hadmits (hu.transaction?.trans ht) haborted ?_
    rw [hu.draws]
    exact ((hreplays.of_agree ha).mono fun account hheld => (hu.locks account).mpr hheld)
  | failing error => exact .failing error

theorem waits {other : Statement} (h : unit.Fits db connection phase)
    (hw : db.Waits connection other db') : unit.Fits db' connection phase := by
  have hsame := hw.transaction? connection
  obtain ⟨_, rfl⟩ := hw.eq
  cases h with
  | beginning hnone => exact .beginning (hsame.trans hnone)
  | limiting hbound ht hchanges haborted =>
    exact .limiting hbound (hsame.trans ht) hchanges haborted
  | working hadmits ht haborted hreplays =>
    exact .working hadmits (hsame.trans ht) haborted hreplays
  | failing error => exact .failing error

theorem obeys (h : unit.Fits db connection phase) (hbody : IsBody unit.body.run) :
    phase.Obeys (fun statement => statement.isQuery = true) Honest := by
  cases h with
  | beginning | limiting => exact trivial
  | working _ _ _ hreplays => exact hreplays.obeys hbody
  | failing error => exact .done rfl

/-- Nothing becomes public by a statement that is not the commit of the unit. -/
theorem silent (h : unit.Fits db connection phase) {next : statement.Answer → Work Reply}
    (ha : unit.Asks phase statement next) (hc : statement ≠ .commit) :
    db.Silent connection statement := by
  cases ha with
  | begin | limit | rollback => exact Database.silent_of_not_isWrite _ _ rfl nofun
  | commit => exact absurd rfl hc
  | query => cases h with | working _ ht => exact Database.silent_of_transaction ht hc

/-- An answer takes a unit that fits to one that fits. -/
theorem turned (h : unit.Fits db connection phase) (hg : unit.body.run.Guarded)
    (htells : db.Tells (fun twist => twist.isHonest = true) connection statement db' ran answer)
    (hturn : unit.Turn db'.draws phase statement answer phase') : unit.Fits db' connection phase' := by
  cases hturn with
  | limited hbound =>
    cases h with
    | beginning hnone =>
      rcases htells.begin hnone with ⟨-, -, ht⟩ | ⟨⟨⟩, -⟩
      exact .limiting hbound ht rfl rfl
  | begun hbound hp =>
    cases h with
    | beginning hnone =>
      rcases htells.begin hnone with ⟨-, -, ht⟩ | ⟨⟨⟩, -⟩
      have hadmits : unit.Admits := fun bound hsome => by cases hbound.symm.trans hsome
      exact .working hadmits ht rfl (Work.Replays.start.passes hp)
  | bounded hp =>
    cases h with
    | @limiting transaction bound hbound ht hchanges haborted =>
      have hsession := htells.setLockTimeout ht rfl
      have ht' : db'.transaction? connection =
          some { transaction with lockTimeoutMillis := bound.millis } := by
        unfold Database.transaction?
        rw [hsession]
      have hadmits : unit.Admits := fun other hsome => by
        obtain rfl := Option.some.inj (hbound.symm.trans hsome)
        exact (htells.bounds rfl).1
      refine .working hadmits ht' haborted ?_
      dsimp only
      rw [hchanges]
      exact Work.Replays.start.passes hp
  | @heard _ next _ _ hp =>
    cases h with
    | @working transaction _ hadmits ht haborted hreplays =>
      cases hreplays.guarded hg with
      | exec hguarded herror hrows =>
        cases answer with
        | error error =>
          rw [herror] at hp
          cases hp
          exact .failing error
        | ok rows =>
          obtain ⟨-, effect, transaction', he, rfl, ht', hbegan, haborted', hchanges, hbooks,
            hlocks⟩ := htells.performed (Statement.isQuery_of_isGuarded hguarded) ht
          have hnow : (db.surroundings connection).now = transaction.began := by
            simp [Database.surroundings, ht]
          rw [Database.view, ht] at he
          have hheld := hreplays.mono fun account hheld => (hlocks account).mpr (.inl hheld)
          refine .working hadmits ht' haborted' ?_
          rw [htells.draws] at hp ⊢
          rw [hbegan, hchanges, hbooks]
          exact (hheld.exec hnow rfl hguarded
            (fun account hlocked => (hlocks account).mpr (.inr hlocked)) he).passes hp

/-- A unit that fits ends as it would have ended alone, or fails for a reason of its own. -/
theorem ended (h : unit.Fits db connection phase)
    (htells : db.Tells (fun twist => twist.isHonest = true) connection statement db' ran answer)
    (hends : unit.Ends phase statement answer reply) :
    unit.Verdict db connection statement ran reply := by
  have hquiet : db.Silent connection statement →
      (if ran then db.published? connection statement else none) = none :=
    fun hsilent => hsilent.not_published htells
  cases hends with
  | notBegun error =>
    exact .failed rfl (hquiet (Database.silent_of_not_isWrite _ _ rfl (by simp))) (by simp)
  | notBounded millis error =>
    exact .failed rfl (hquiet (Database.silent_of_not_isWrite _ _ rfl (by simp))) (by simp)
  | rolledBack failure =>
    refine .failed rfl (hquiet (Database.silent_rollback _ _)) ?_
    rintro error rfl
    cases h with
    | working hadmits _ _ hreplays => exact ⟨hadmits, _, _, hreplays⟩
  | committed reply rows =>
    cases h with
    | working hadmits ht haborted hreplays =>
      refine .committed rfl ((htells.ended rfl).2 rfl) ?_ hadmits hreplays (.inl rfl)
      rw [Database.published?, ht]
      simp [haborted]
  | unknown reply error =>
    cases h with
    | working hadmits ht haborted hreplays =>
      cases ran with
      | false => exact .failed rfl rfl (by simp)
      | true =>
        refine .committed rfl rfl ?_ hadmits hreplays (.inr ⟨_, rfl, by simp⟩)
        rw [Database.published?, ht]
        simp [haborted]

end Fits

end Passbook.UnitOfWork
