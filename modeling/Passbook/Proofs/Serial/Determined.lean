import Passbook.Proofs.Database.Generated
import Passbook.Proofs.Serial.Alone

/-! # What is determined when work is done alone

Identifiers and times have no influence on what a transfer does. Done alone on databases that are
alike up to generated values, it comes to replies that are alike and leaves databases that are alike
(`UnitOfWork.IsTransfer.determined`). -/

namespace Passbook

/-- The reply without generated values. -/
def Reply.core : Reply → Reply
  | entry row => entry row.core
  | entries rows => entries (rows.map (·.core))
  | reply => reply

/-! ## Works that are alike -/

namespace Work

variable {α β α' β' : Type} {Related : α → α' → Prop} {Related' : β → β' → Prop}

/-- The works ask for statements that are alike, go on alike when the answers are alike, whatever
identifiers they draw, and come to related results. -/
inductive Alike (Related : α → α' → Prop) : Work α → Work α' → Prop
  | done {value : α} {value' : α'} : Related value value' →
      Alike Related (.done value) (.done value')
  | connect {next : Except StorageError Unit → Work α} {next' : Except StorageError Unit → Work α'} :
      (∀ result, Alike Related (next result) (next' result)) →
      Alike Related (.connect next) (.connect next')
  | giveBack {rest : Work α} {rest' : Work α'} : Alike Related rest rest' →
      Alike Related (.giveBack rest) (.giveBack rest')
  | exec {statement statement' : Statement} {next : statement.Answer → Work α}
      {next' : statement'.Answer → Work α'} {Answered : statement.Answer → statement'.Answer → Prop} :
      statement.Alike statement' Answered →
      (∀ answer answer', Answered answer answer' → Alike Related (next answer) (next' answer')) →
      Alike Related (.exec statement next) (.exec statement' next')
  | draw {next : Draw → Work α} {next' : Draw → Work α'} :
      (∀ drawn drawn', Alike Related (next drawn) (next' drawn')) →
      Alike Related (.draw next) (.draw next')
  | report {reply reply' : Reply} {rest : Work α} {rest' : Work α'} : reply.core = reply'.core →
      Alike Related rest rest' → Alike Related (.report reply rest) (.report reply' rest')

theorem Alike.bind {work : Work α} {work' : Work α'} {f : α → Work β} {f' : α' → Work β'}
    (h : work.Alike Related work')
    (hf : ∀ value value', Related value value' → (f value).Alike Related' (f' value')) :
    (work.bind f).Alike Related' (work'.bind f') := by
  induction h with
  | done hr => exact hf _ _ hr
  | connect _ ih => exact .connect ih
  | giveBack _ ih => exact .giveBack ih
  | exec hs _ ih => exact .exec hs ih
  | draw _ ih => exact .draw ih
  | report hreply _ ih => exact .report hreply ih

end Work

namespace Call

variable {α β α' β' : Type} {Related : α → α' → Prop} {Related' : β → β' → Prop}

/-- The results are related values, or the same failure. -/
def ResultsAlike (Related : α → α' → Prop) : Except Failure α → Except Failure α' → Prop
  | .ok value, .ok value' => Related value value'
  | .error failure, .error failure' => failure = failure'
  | _, _ => False

/-- The calls do alike, and come to related values or to the same failure. -/
def Alike (Related : α → α' → Prop) (call : Call α) (call' : Call α') : Prop :=
  call.run.Alike (ResultsAlike Related) call'.run

theorem alike_pure {value : α} {value' : α'} (h : Related value value') :
    (pure value : Call α).Alike Related (pure value' : Call α') := .done h

theorem Alike.bind {call : Call α} {call' : Call α'} {f : α → Call β} {f' : α' → Call β'}
    (h : call.Alike Related call')
    (hf : ∀ value value', Related value value' → (f value).Alike Related' (f' value')) :
    (call >>= f).Alike Related' (call' >>= f') := by
  unfold Alike
  rw [run_bind, run_bind]
  refine Work.Alike.bind h ?_
  intro result result' hr
  cases result with
  | ok value =>
    cases result' with
    | ok value' => exact hf value value' hr
    | error => cases hr
  | error failure =>
    cases result' with
    | ok => cases hr
    | error failure' => exact .done hr

theorem alike_draw : draw.Alike (fun _ _ => True) draw :=
  .draw fun _ _ => .done trivial

theorem alike_first {core : α → α} {answer answer' : Except StorageError (List α)}
    (h : Statement.AnsweredAlike core answer answer') (missing : Failure) :
    (ExceptT.mk (.done (answer.mapError .storage)) >>= fun rows => first rows missing :
      Call α).Alike (fun row row' => core row = core row')
      (ExceptT.mk (.done (answer'.mapError .storage)) >>= fun rows => first rows missing) := by
  cases answer with
  | error error =>
    cases answer' with
    | error error' =>
      obtain rfl := Except.error.inj h
      exact .done rfl
    | ok => cases h
  | ok rows =>
    cases answer' with
    | error => cases h
    | ok rows' =>
      have hrows := Except.ok.inj h
      cases rows with
      | nil =>
        cases rows' with
        | nil => exact .done rfl
        | cons => cases hrows
      | cons row rows =>
        cases rows' with
        | nil => cases hrows
        | cons row' rows' => exact .done (List.cons.inj hrows).1

end Call

/-! ## Transfers -/

open Call

theorem Store.alike_account {lookup : AccountLookup} (h : lookup.locking = true) :
    (Store.account .callers lookup).Alike (fun row row' => row.core = row'.core)
      (Store.account .callers lookup) :=
  .exec (.select h) fun _ _ hanswers => alike_first hanswers _

theorem Store.alike_setBalance (id : Int) (balance : Balance) :
    (Store.setBalance .callers id balance).Alike (fun row row' => row.core = row'.core)
      (Store.setBalance .callers id balance) :=
  .exec (.update id balance) fun _ _ hanswers => alike_first hanswers _

theorem Store.alike_record {entry entry' : NewEntry} (h : entry.core = entry'.core) :
    (Store.record .callers entry).Alike (fun row row' => row.core = row'.core)
      (Store.record .callers entry') :=
  .exec (.insert h) fun _ _ hanswers => alike_first hanswers _

namespace Transfer

theorem alike_newEntry (side : Side) (transfer transfer' : Uuid) {row row' : Account}
    (h : row.core = row'.core) (amount : Amount) :
    (ofExcept Failure.corruptRow (NewEntry.ofAccount side transfer row amount)).Alike
      (fun entry entry' => entry.core = entry'.core)
      (ofExcept Failure.corruptRow (NewEntry.ofAccount side transfer' row' amount)) := by
  obtain ⟨id, owner, balance, kind, createdAt, _⟩ := row
  obtain ⟨id', owner', balance', kind', createdAt', _⟩ := row'
  obtain ⟨rfl, rfl, rfl, rfl, rfl, -⟩ := Account.mk.inj h
  unfold NewEntry.ofAccount NewEntry.ofBalance
  refine .done ?_
  dsimp only
  cases Balance.ofInt balance <;> rfl

theorem alike_post (side : Side) (transfer transfer' : Uuid) (id : Int) (balance : Balance)
    (amount : Amount) :
    (post side transfer id balance amount).Alike (fun entry entry' => entry.core = entry'.core)
      (post side transfer' id balance amount) :=
  (Store.alike_setBalance id balance).bind fun _ _ hrow =>
    (alike_newEntry side transfer transfer' hrow amount).bind fun _ _ => Store.alike_record

theorem balancesAfter_of_core {sender sender' receiver receiver' : Account}
    (hsender : sender.core = sender'.core) (hreceiver : receiver.core = receiver'.core)
    (amount : Amount) :
    balancesAfter sender receiver amount = balancesAfter sender' receiver' amount := by
  obtain ⟨id, owner, balance, kind, createdAt, _⟩ := sender
  obtain ⟨id', owner', balance', kind', createdAt', _⟩ := sender'
  obtain ⟨rfl, rfl, rfl, rfl, rfl, -⟩ := Account.mk.inj hsender
  obtain ⟨id, owner, balance, kind, createdAt, _⟩ := receiver
  obtain ⟨id', owner', balance', kind', createdAt', _⟩ := receiver'
  obtain ⟨rfl, rfl, rfl, rfl, rfl, -⟩ := Account.mk.inj hreceiver
  rfl

theorem alike_postBoth (transfer transfer' : Uuid) {sender sender' receiver receiver' : Account}
    (hsender : sender.core = sender'.core) (hreceiver : receiver.core = receiver'.core)
    (amount : Amount) :
    (postBoth transfer sender receiver amount).Alike (fun entry entry' => entry.core = entry'.core)
      (postBoth transfer' sender' receiver' amount) := by
  have hbalances : (ofExcept id (balancesAfter sender receiver amount)).Alike Eq
      (ofExcept id (balancesAfter sender' receiver' amount)) := by
    rw [balancesAfter_of_core hsender hreceiver]
    refine .done ?_
    cases balancesAfter sender' receiver' amount <;> rfl
  unfold postBoth
  rw [← Account.id_of_core hsender, ← Account.id_of_core hreceiver]
  refine hbalances.bind ?_
  rintro balances _ rfl
  exact (alike_post _ transfer transfer' _ _ _).bind fun _ _ hdebit =>
    (alike_post _ transfer transfer' _ _ _).bind fun _ _ _ => alike_pure hdebit

/-- A transfer does the same whatever identifiers it draws. -/
theorem alike_perform (command : Command) :
    (perform command).Alike (fun entry entry' => entry.core = entry'.core) (perform command) := by
  have hvalid : (ofExcept Failure.ledger command.validate).Alike Eq
      (ofExcept Failure.ledger command.validate) := by
    refine .done ?_
    cases command.validate <;> rfl
  unfold perform
  refine hvalid.bind ?_
  rintro amount _ rfl
  refine alike_draw.bind fun drawn drawn' _ =>
    (Store.alike_account rfl).bind fun first first' hfirst =>
    (Store.alike_account rfl).bind fun second second' hsecond => ?_
  unfold resolveRoles
  rw [Account.id_of_core hfirst]
  by_cases hrole : first'.id = command.source
  · rw [if_pos hrole, if_pos hrole]
    exact alike_postBoth _ _ hfirst hsecond amount
  · rw [if_neg hrole, if_neg hrole]
    exact alike_postBoth _ _ hsecond hfirst amount

theorem alike_performAll (commands : List Command) :
    (performAll commands).Alike
      (fun entries entries' => entries.map (·.core) = entries'.map (·.core))
      (performAll commands) := by
  induction commands with
  | nil => exact alike_pure rfl
  | cons command commands ih =>
    refine (alike_perform command).bind fun entry entry' hentry =>
      ih.bind fun entries entries' hentries => alike_pure ?_
    rw [List.map_cons, List.map_cons, hentry, hentries]

end Transfer

/-! ## Units of work -/

namespace UnitOfWork

variable {unit : UnitOfWork}

theorem alike_handBack {reply reply' : Reply} (h : reply.core = reply'.core) :
    (handBack reply).Alike (fun reply reply' => reply.core = reply'.core) (handBack reply') :=
  .giveBack (.done h)

theorem alike_ending (unit : UnitOfWork) {result result' : Except Failure Reply}
    (h : ResultsAlike (fun reply reply' => reply.core = reply'.core) result result') :
    (unit.ending result).Alike (fun reply reply' => reply.core = reply'.core)
      (unit.ending result') := by
  cases result with
  | ok reply =>
    cases result' with
    | error => cases h
    | ok reply' =>
      refine .exec (.frame .commit rfl) ?_
      rintro answer _ rfl
      cases answer with
      | ok rows => exact alike_handBack h
      | error error => exact alike_handBack rfl
  | error failure =>
    cases result' with
    | ok => cases h
    | error failure' =>
      obtain rfl : failure = failure' := h
      exact .exec (.frame .rollback rfl) fun _ _ _ => alike_handBack rfl

/-- A unit does the same whatever is generated, if its body does. -/
theorem alike_work
    (h : unit.body.Alike (fun reply reply' => reply.core = reply'.core) unit.body) :
    unit.work.Alike (fun reply reply' => reply.core = reply'.core) unit.work := by
  have hworking : (unit.working unit.body.run).Alike
      (fun reply reply' => reply.core = reply'.core) (unit.working unit.body.run) :=
    Work.Alike.bind h fun _ _ => unit.alike_ending
  have hbegun : unit.begun.Alike (fun reply reply' => reply.core = reply'.core) unit.begun := by
    unfold begun
    split
    · refine .exec (.frame _ rfl) ?_
      rintro answer _ rfl
      cases answer with
      | ok rows => exact hworking
      | error error => exact alike_handBack rfl
    · exact hworking
  rw [work_eq]
  refine .connect ?_
  intro result
  cases result with
  | error error => exact .done rfl
  | ok =>
    refine .exec (.frame .begin rfl) ?_
    rintro answer _ rfl
    cases answer with
    | ok rows => exact hbegun
    | error error => exact alike_handBack rfl

theorem IsTransfer.alike (h : unit.IsTransfer) :
    unit.work.Alike (fun reply reply' => reply.core = reply'.core) unit.work := by
  refine alike_work ?_
  cases h with
  | single runner command =>
    exact (Transfer.alike_perform command).bind fun _ _ hentry =>
      alike_pure (congrArg Reply.entry hentry)
  | batch runner name commands =>
    exact (Transfer.alike_performAll commands).bind fun _ _ hentries =>
      alike_pure (congrArg Reply.entries hentries)

end UnitOfWork

/-! ## Alone -/

/-- What comes first when work is done alone, and how it goes on. -/
inductive Alone.First (db final : Database) (reply : Reply) : Work Reply → Prop
  | done : final = db → First db final reply (.done reply)
  | connect {next : Except StorageError Unit → Work Reply} : Alone db (next (.ok ())) final reply →
      First db final reply (.connect next)
  | giveBack {rest : Work Reply} : Alone (db.close 0) rest final reply →
      First db final reply (.giveBack rest)
  | exec {statement : Statement} {next : statement.Answer → Work Reply} {ended : Database}
      {answer : statement.Answer} : db.run 0 statement = .answered ended answer →
      Alone ended (next answer) final reply → First db final reply (.exec statement next)
  | draw {next : Draw → Work Reply} :
      Alone { db with serial := db.serial + 1 } (next db.draw) final reply →
      First db final reply (.draw next)
  | report {interim : Reply} {rest : Work Reply} : Alone db rest final reply →
      First db final reply (.report interim rest)

/-- Time passes and identifiers are drawn, and then comes what comes first. -/
theorem Alone.first {db final : Database} {work : Work Reply} {reply : Reply}
    (h : Alone db work final reply) :
    ∃ clock serial, First { db with clock, serial } final reply work := by
  have hfirst : ∀ {start}, Relation.ReflTransGen Lone start (final, .done reply) →
      ∃ clock serial, First { start.1 with clock, serial } final reply start.2 := by
    intro start h
    induction h using Relation.ReflTransGen.head_induction_on with
    | refl => exact ⟨final.clock, final.serial, .done rfl⟩
    | head hstep hrest ih =>
      cases hstep with
      | drift => exact ih
      | connect db => exact ⟨db.clock, db.serial, .connect hrest⟩
      | giveBack db => exact ⟨db.clock, db.serial, .giveBack hrest⟩
      | @exec db _ _ _ _ hrun => exact ⟨db.clock, db.serial, .exec hrun hrest⟩
      | draw db => exact ⟨db.clock, db.serial, .draw hrest⟩
      | report db => exact ⟨db.clock, db.serial, .report hrest⟩
  exact hfirst h

section

variable {db db' final final' : Database} {work work' : Work Reply} {reply reply' : Reply}

/-- It is enough to compare what comes first. -/
theorem Alone.alike_of_first
    (h : ∀ {db db' : Database}, Database.Alike 0 db db' → First db final reply work →
      First db' final' reply' work' → Database.Alike 0 final final' ∧ reply.core = reply'.core)
    (hdb : Database.Alike 0 db db') (halone : Alone db work final reply)
    (halone' : Alone db' work' final' reply') :
    Database.Alike 0 final final' ∧ reply.core = reply'.core := by
  obtain ⟨clock, serial, hfirst⟩ := halone.first
  obtain ⟨clock', serial', hfirst'⟩ := halone'.first
  have hdrift : Database.Alike 0 { db with clock, serial }
      { db' with clock := clock', serial := serial' } := ⟨hdb.books, hdb.transaction⟩
  exact h hdrift hfirst hfirst'

theorem Work.Alike.first (h : work.Alike (fun reply reply' => reply.core = reply'.core) work')
    (hdb : Database.Alike 0 db db') (hfirst : Alone.First db final reply work)
    (hfirst' : Alone.First db' final' reply' work') :
    Database.Alike 0 final final' ∧ reply.core = reply'.core := by
  induction h generalizing db db' with
  | done hr =>
    cases hfirst with
    | done => cases hfirst' with | done => subst_vars; exact ⟨hdb, hr⟩
  | connect _ ih =>
    cases hfirst with
    | connect hnext =>
      cases hfirst' with
      | connect hnext' => exact Alone.alike_of_first (ih _) hdb hnext hnext'
  | giveBack _ ih =>
    cases hfirst with
    | giveBack hnext =>
      cases hfirst' with
      | giveBack hnext' => exact Alone.alike_of_first ih hdb.close hnext hnext'
  | exec hs _ ih =>
    cases hfirst with
    | exec hrun hnext =>
      cases hfirst' with
      | exec hrun' hnext' =>
        obtain ⟨hended, hanswers⟩ := hdb.run hs hrun hrun'
        exact Alone.alike_of_first (ih _ _ hanswers) hended hnext hnext'
  | draw _ ih =>
    cases hfirst with
    | draw hnext =>
      cases hfirst' with
      | draw hnext' =>
        have hdrawn : Database.Alike 0 { db with serial := db.serial + 1 }
            { db' with serial := db'.serial + 1 } := ⟨hdb.books, hdb.transaction⟩
        exact Alone.alike_of_first (ih _ _) hdrawn hnext hnext'
  | report _ _ ih =>
    cases hfirst with
    | report hnext =>
      cases hfirst' with
      | report hnext' => exact Alone.alike_of_first ih hdb hnext hnext'

end

/-- Alone, a transfer comes to the same reply and to the same books, up to generated values. -/
theorem UnitOfWork.IsTransfer.determined {unit : UnitOfWork} (h : unit.IsTransfer)
    {db db' final final' : Database} {reply reply' : Reply} (hdb : Database.Alike 0 db db')
    (halone : Alone db unit.work final reply) (halone' : Alone db' unit.work final' reply') :
    Database.Alike 0 final final' ∧ reply.core = reply'.core :=
  Alone.alike_of_first h.alike.first hdb halone halone'

end Passbook
