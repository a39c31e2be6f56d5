import Passbook.Proofs.UnitOfWork.Leftovers

/-! # The outcome of a unit of work

What a unit has written is kept in its transaction (`Kept`), and becomes public at once or never. In
the end its caller is told which (`Outcome`): a failure other than that of a commit means that
nothing was published, then or later. A commit can also end without an error and publish nothing: the
database does so when one of the unit's statements was refused, whether or not the unit's body has
looked at the refusal. -/

namespace Passbook

/-- Whether the failure leaves open what has become of a transaction. -/
def Failure.isOutcomeUnknown : Failure → Bool
  | commitOutcomeUnknown .. => true
  | _ => false

namespace UnitOfWork

/-- What the body of a unit may come to: a reply that is no failure, or a failure that is not about a
commit. -/
def Honest : Except Failure Reply → Prop
  | .ok reply => ∀ failure, reply ≠ .failed failure
  | .error failure => failure.isOutcomeUnknown = false

/-- The body does nothing but store calls on the connection that it is given. -/
def IsBody (body : Work (Except Failure Reply)) : Prop :=
  body.Obeys (fun statement => statement.isQuery = true) Honest

/-- What a unit has written so far is in its transaction, which is aborted if one of its statements
was refused; or the connection is lost, and the transaction with it. -/
inductive Kept (past : Past) (db : Database) (index connection : Nat) : Prop
  | opened {transaction : Transaction} : db.transaction? connection = some transaction →
      transaction.changes = past.writes index → transaction.aborted = past.refused index →
      Kept past db index connection
  | lost : (db.session connection).alive = false → db.transaction? connection = none →
      Kept past db index connection

/-- What a unit has written when it has come so far. -/
def Stands (past : Past) (db : Database) (index connection : Nat) : Phase → Prop
  | .beginning => db.transaction? connection = none ∧ past.writes index = .empty ∧
      past.refused index = false
  | .limiting _ | .working _ => Kept past db index connection

/-- What the caller of a unit is told, and what has become of the unit. -/
inductive Outcome (unit : UnitOfWork) (past : Past) (index connection : Nat) : Reply → Prop
  | committed {reply : Reply} : Honest (.ok reply) → past.Sent index .commit →
      past.publicationsOf connection =
        (if past.refused index then [] else [past.writes index]) →
      Outcome unit past index connection reply
  | unknown (error : StorageError) : past.Sent index .commit →
      past.publicationsOf connection = [] ∨ past.publicationsOf connection = [past.writes index] →
      Outcome unit past index connection (.failed (.commitOutcomeUnknown unit.name error))
  | failed {failure : Failure} : failure.isOutcomeUnknown = false → ¬ past.Sent index .commit →
      past.publicationsOf connection = [] → Outcome unit past index connection (.failed failure)

variable {Allowed : Twist → Prop} {unit : UnitOfWork} {past : Past} {system : System} {event : Event}
  {db : Database} {index connection : Nat} {phase phase' : Phase} {statement : Statement}
  {ran : Bool} {answer : statement.Answer} {reply : Reply}

theorem Kept.congr {db' : Database} {past' : Past} (h : Kept past db index connection)
    (ht : db'.transaction? connection = db.transaction? connection)
    (halive : (db'.session connection).alive = (db.session connection).alive)
    (hw : past'.writes index = past.writes index) (hr : past'.refused index = past.refused index) :
    Kept past' db' index connection := by
  cases h with
  | opened htransaction hchanges haborted =>
    exact .opened (ht.trans htransaction) (hchanges.trans hw.symm) (haborted.trans hr.symm)
  | lost hdead hnone => exact .lost (halive.trans hdead) (ht.trans hnone)

theorem Stands.congr {db' : Database} {past' : Past} (h : Stands past db index connection phase)
    (ht : db'.transaction? connection = db.transaction? connection)
    (halive : (db'.session connection).alive = (db.session connection).alive)
    (hw : past'.writes index = past.writes index) (hr : past'.refused index = past.refused index) :
    Stands past' db' index connection phase := by
  cases phase with
  | beginning => exact ⟨ht.trans h.1, hw.trans h.2.1, hr.trans h.2.2⟩
  | limiting | working => exact Kept.congr h ht halive hw hr

theorem Outcome.of_past {past' : Past} (h : unit.Outcome past index connection reply)
    (hp : past'.publicationsOf connection = past.publicationsOf connection)
    (hw : past'.writes index = past.writes index) (hr : past'.refused index = past.refused index)
    (hs : past'.Sent index .commit ↔ past.Sent index .commit) :
    unit.Outcome past' index connection reply := by
  cases h with
  | committed hhonest hsent hpub => exact .committed hhonest (hs.mpr hsent) (by rw [hp, hw, hr, hpub])
  | unknown error hsent hpub => exact .unknown error (hs.mpr hsent) (by rwa [hp, hw])
  | failed hf hsent hpub => exact .failed hf (mt hs.mp hsent) (hp.trans hpub)

theorem Stands.waits (h : Stands past system.db index connection phase)
    (hwaits : system.db.Waits connection statement db) (htold : system.told? event = none) :
    Stands (past ++ [(system, event)]) db index connection phase :=
  h.congr (hwaits.transaction? connection) (hwaits.alive connection)
    (Past.writes_of_told_none past htold index) (Past.refused_of_told_none past htold index)

/-- An answer that takes a unit further is kept account of. -/
theorem Stands.turned (h : Stands past system.db index connection phase)
    (hphase : phase.Obeys (fun statement => statement.isQuery = true) Honest)
    (htold : system.told? event = some ⟨index, connection, statement, ran, answer⟩)
    (htells : system.db.Tells Allowed connection statement db ran answer)
    (hturn : unit.Turn db.draws phase statement answer phase') :
    Stands (past ++ [(system, event)]) db index connection phase' := by
  have hw := Past.writes_of_told past htold
  have hr := Past.refused_of_told past htold
  dsimp only at hw hr
  cases hturn with
  | limited | begun =>
    obtain ⟨hnone, hwrites, hrefused⟩ := h
    rcases htells.begin hnone with ⟨-, -, ht⟩ | ⟨⟨⟩, -⟩
    refine Kept.opened ht ?_ ?_
    · rw [hw, hwrites, Database.written_of_not_isWrite _ _ rfl, ite_self, Books.overlay_empty]
    · rw [hr, hrefused]
      rfl
  | @bounded millis =>
    rw [Database.written_of_not_isWrite _ _ rfl, ite_self, Books.overlay_empty] at hw
    have hr' : Past.refused (past ++ [(system, event)]) index = past.refused index := by
      rw [hr]
      exact Bool.or_false _
    cases h with
    | @opened transaction ht hc ha =>
      have ht' : db.transaction? connection =
          some { transaction with lockTimeoutMillis := millis } := by
        unfold Database.transaction?
        rw [htells.setLockTimeout ht rfl]
      exact .opened ht' (hc.trans hw.symm) (ha.trans hr'.symm)
    | lost halive _ => cases (htells.of_dead halive).2.2
  | heard =>
    cases hphase with
    | exec hq _ =>
      cases h with
      | opened ht hc ha =>
        rcases htells.query hq ht with ⟨transaction', hsession, -, hchanges, haborted⟩ |
          ⟨halive, hnone, -⟩
        · have ht' : db.transaction? connection = some transaction' := by
            unfold Database.transaction?
            rw [hsession]
          exact .opened ht' (by rw [hchanges, hc, hw]) (by rw [haborted, ha, hr])
        · exact .lost halive hnone
      | lost halive hnone =>
        obtain ⟨rfl, -, -⟩ := htells.of_dead halive
        exact .lost halive hnone

theorem Turn.ne_commit {draws : Draws} (h : unit.Turn draws phase statement answer phase')
    (hphase : phase.Obeys (fun statement => statement.isQuery = true) Honest) :
    statement ≠ .commit := by
  cases h with
  | limited | begun | bounded => exact nofun
  | heard =>
    cases hphase with
    | exec hq _ =>
      rintro rfl
      cases hq

/-- Nothing becomes public by a statement that is not the commit of the unit. -/
theorem Stands.silent (h : Stands past system.db index connection phase)
    (hphase : phase.Obeys (fun statement => statement.isQuery = true) Honest)
    {next : statement.Answer → Work Reply} (ha : unit.Asks phase statement next)
    (hc : statement ≠ .commit) : system.db.Silent connection statement := by
  cases ha with
  | begin | limit | rollback =>
    exact Database.silent_of_not_isWrite _ _ rfl nofun
  | commit => exact absurd rfl hc
  | query =>
    cases h with
    | opened ht => exact Database.silent_of_transaction ht hc
    | lost halive => exact .inl halive

/-- The answer that ends a unit is the one its caller is told of. -/
theorem Stands.ended (h : Stands past system.db index connection phase)
    (hphase : phase.Obeys (fun statement => statement.isQuery = true) Honest)
    (hpub : past.publicationsOf connection = [])
    (htold : system.told? event = some ⟨index, connection, statement, ran, answer⟩)
    (htells : system.db.Tells Allowed connection statement db ran answer)
    (hsent : Past.Sent (past ++ [(system, event)]) index .commit ↔ statement = .commit)
    (hends : unit.Ends phase statement answer reply) :
    Outcome unit (past ++ [(system, event)]) index connection reply := by
  have hp := Past.publicationsOf_of_told past htold
  have hw := Past.writes_of_told past htold
  have hr := Past.refused_of_told past htold
  dsimp only at hp hw hr
  rw [hpub, List.nil_append] at hp
  have hquiet : system.db.Silent connection statement →
      Past.publicationsOf (past ++ [(system, event)]) connection = [] := by
    intro hsilent
    rw [hp, hsilent.not_published htells]
    rfl
  have hfailed : statement ≠ .commit → ¬ Past.Sent (past ++ [(system, event)]) index .commit :=
    fun hc hs => hc (hsent.mp hs)
  cases hends with
  | notBegun error =>
    exact .failed rfl (hfailed nofun) (hquiet (Database.silent_of_not_isWrite _ _ rfl nofun))
  | notBounded millis error =>
    exact .failed rfl (hfailed nofun) (hquiet (Database.silent_of_not_isWrite _ _ rfl nofun))
  | rolledBack failure =>
    cases hphase with
    | done hhonest => exact .failed hhonest (hfailed nofun) (hquiet (Database.silent_rollback _ _))
  | committed reply rows =>
    cases hphase with
    | done hhonest =>
      obtain rfl : ran = true := (htells.ended rfl).2 rfl
      cases h with
      | @opened transaction ht hc ha =>
        refine .committed hhonest (hsent.mpr rfl) ?_
        rw [Database.written_of_not_isWrite _ _ rfl, ite_self, Books.overlay_empty] at hw
        rw [hp, hw, hr, Database.published?, ht, ← hc, ← ha]
        cases haborted : transaction.aborted <;> simp [Statement.refuses, haborted]
      | lost halive => cases (htells.of_dead halive).2.1
  | unknown reply error =>
    refine .unknown error (hsent.mpr rfl) ?_
    rw [Database.written_of_not_isWrite _ _ rfl, ite_self, Books.overlay_empty] at hw
    cases h with
    | @opened transaction ht hc ha =>
      rw [hp, hw, Database.published?, ht, ← hc]
      cases ran <;> cases haborted : transaction.aborted <;> simp [haborted]
    | lost halive =>
      obtain ⟨-, rfl, -⟩ := htells.of_dead halive
      rw [hp]
      exact .inl rfl

end UnitOfWork

end Passbook
