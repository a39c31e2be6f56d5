import Passbook.Proofs.Locality.Abreast
import Passbook.Proofs.Locality.Heard
import Passbook.Proofs.Locality.Locked

/-! # Tasks in lockstep

In two systems there is a task each, and the two are abreast (`System.Abreast`). When both make the same
move and find the same at that moment (`Agreed`), they are abreast again, and what they have made public
is alike (`Abreast.joined`); what others do does not matter (`Abreast.of_untouched`). So they stay
abreast as long as they move in step (`InStep.abreast`), and whenever they find the same they wait for
the same holders (`Abreast.concerted`). -/

namespace Passbook

/-- The same move of another task. -/
def Move.reindex (index : Nat) : Move → Move
  | connect _ => connect index
  | turnAway _ => turnAway index
  | send _ => send index
  | wake _ => wake index
  | expire _ => expire index
  | abandon _ => abandon index

@[simp] theorem Move.index_reindex (index : Nat) (move : Move) : (move.reindex index).index = index := by
  cases move <;> rfl

namespace System

open Database

variable {Mine : Int → Prop} {system system' after after' : System} {index index' connection : Nat}
  {task task' : Task} {statement : Statement} {next : statement.Answer → Work Reply} {event : Event}

/-! ## Systems that are abreast -/

/-- The connections that the task works on. -/
def hands (system : System) (index : Nat) : List Nat :=
  ((system.tasks[index]?).map Task.claims).getD []

/-- The unit of work whose deadline a task has. -/
def unit? (system : System) (index : Nat) : Option String :=
  (system.tasks[index]?.bind (·.deadline)).map (·.unit)

/-- In each of the systems there is a task, and the two are abreast. -/
def Abreast (Mine : Int → Prop) (index index' : Nat) (system system' : System) : Prop :=
  ∃ task task', system.tasks[index]? = some task ∧ system'.tasks[index']? = some task' ∧
    Task.Abreast Mine system.db system'.db task task'

/-- At this moment the two tasks find the same: no faults, the pool open or closed, the rows of the given
accounts alike and locked by the same others. -/
structure Agreed (Mine : Int → Prop) (index index' : Nat) (system system' : System) : Prop where
  faults : system.faults = []
  faults' : system'.faults = []
  closed : system'.closed = system.closed
  concurs : Concurs Mine (system.hands index) (system'.hands index') system.db system'.db

theorem Stages.unstall {connected : Bool} {stage stage' : Stage} (h : Stages Mine connected stage stage')
    (now now' : Nat) : stage.unstall now = stage ∧ stage'.unstall now' = stage' := by
  cases h <;> exact ⟨rfl, rfl⟩

theorem hands_eq {db db' : Database} (h : Task.Abreast Mine db db' task task')
    (ht : system.tasks[index]? = some task) (ht' : system'.tasks[index']? = some task') :
    system.hands index = task.connections ∧ system'.hands index' = task'.connections := by
  obtain ⟨connected, hhands, hstages⟩ := h.stands
  simp only [hands, ht, ht', Option.map_some, Option.getD_some, Task.claims]
  generalize task.stage = stage at hstages
  generalize task'.stage = stage' at hstages
  cases hstages with
  | queued | ready | sent => exact ⟨rfl, rfl⟩
  | finished =>
    generalize task.connections = own at hhands
    generalize task'.connections = own' at hhands
    cases hhands
    exact ⟨rfl, rfl⟩

/-! ## A move on both sides -/

/-- A move of the task has left it what it had in hand, unless it is finished; it has been done to these
connections only, and they have locked none but rows of the given accounts. -/
structure Minds (Mine : Int → Prop) (index : Nat) (hands : List Nat) (system after : System) :
    Prop where
  keeps : ∀ task, after.tasks[index]? = some task → task.stage.isFinished = false →
    task.connections = hands
  others : ∀ other, other ∉ hands → Untouched other system.db after.db
  mine : ∀ connection ∈ hands, ∀ id, after.db.Holds connection id → Mine id

/-- The task has moved in both systems, and the two are abreast again. -/
structure Joined (Mine : Int → Prop) (index index' : Nat) (hands hands' : List Nat)
    (system system' after after' : System) : Prop where
  abreast : Abreast Mine index index' after after'
  changes : ChangeAlike Mine system.db system'.db after.db after'.db
  minds : Minds Mine index hands system after
  minds' : Minds Mine index' hands' system' after'

theorem Hands.mine {db db' : Database} {connected : Bool} {hands hands' : List Nat}
    (h : Hands Mine db db' connected hands hands') :
    (∀ connection ∈ hands, ∀ id, db.Holds connection id → Mine id) ∧
      ∀ connection ∈ hands', ∀ id, db'.Holds connection id → Mine id := by
  cases h with
  | empty => exact ⟨by simp, by simp⟩
  | one hmirrors =>
    simp only [List.mem_singleton, forall_eq]
    exact ⟨hmirrors.mine, fun id hheld => hmirrors.mine id ((hmirrors.holds id).mp hheld)⟩

/-- A connection that is given back keeps no locks but those that it has. -/
theorem holds_of_proceed {work : Work Reply} {id : Int}
    (h : (system.proceed task work).1.db.Holds connection id) : system.db.Holds connection id := by
  induction work generalizing system task with
  | done | connect | exec => exact h
  | giveBack rest ih =>
    unfold proceed at h
    split at h
    · exact ih h
    · have hgiven := ih h
      unfold giveBack at hgiven
      dsimp only at hgiven
      split at hgiven
      · exact hgiven
      · exact ((mem_locks_close ..).mp hgiven).1
  | draw next ih => exact @ih _ { system with db.serial := system.db.serial + 1 } task h
  | report reply rest ih => exact ih h

theorem Minds.of_proceed {base : System} (hi : index < base.tasks.length)
    (hbase : ∀ other, other ∉ task.connections → Untouched other system.db base.db)
    (hmine : ∀ connection ∈ task.connections, ∀ id, base.db.Holds connection id → Mine id)
    {work : Work Reply} (hkeeps : (base.proceed task work).2.stage.isFinished = false →
      (base.proceed task work).2.connections = task.connections) :
    Minds Mine index task.connections system (base.carryOn index task work) where
  keeps moved hmoved hf := by
    rw [getElem?_carryOn_self hi] at hmoved
    cases hmoved
    exact hkeeps hf
  others other hother := (hbase other hother).trans (Spares.carryOn hother index work).untouched
  mine connection hc id hheld := hmine connection hc id (holds_of_proceed hheld)

/-- Both go on with what is left to do. -/
theorem joined_carryOn {base base' : System} {connected : Bool} {work work' : Work Reply}
    (hi : index < base.tasks.length) (hi' : index' < base'.tasks.length)
    (hwork : work.Abreast Mine connected work')
    (hhands : Hands Mine base.db base'.db connected task.connections task'.connections)
    (hreply : task.reply.map (·.core) = task'.reply.map (·.core))
    (hbase : ∀ other, other ∉ task.connections → Untouched other system.db base.db)
    (hbase' : ∀ other, other ∉ task'.connections → Untouched other system'.db base'.db)
    (hchanges : ChangeAlike Mine system.db system'.db base.db base'.db) :
    Joined Mine index index' task.connections task'.connections system system'
      (base.carryOn index task work) (base'.carryOn index' task' work') where
  abreast := ⟨_, _, getElem?_carryOn_self hi _ _, getElem?_carryOn_self hi' _ _,
    abreast_proceed hwork hhands hreply⟩
  changes := hchanges.trans (.refl Mine (books_carryOn ..) (books_carryOn ..))
  minds := .of_proceed hi hbase hhands.mine.1 (connections_proceed hwork base base' task task').1
  minds' := .of_proceed hi' hbase' hhands.mine.2 (connections_proceed hwork base base' task task').2

/-- Both wait for an answer. -/
theorem joined_setTask {base base' : System} (hi : index < base.tasks.length)
    (hi' : index' < base'.tasks.length) (h : Task.Abreast Mine base.db base'.db task task')
    (hbase : ∀ other, other ∉ task.connections → Untouched other system.db base.db)
    (hbase' : ∀ other, other ∉ task'.connections → Untouched other system'.db base'.db)
    (hbooks : base.db.books = system.db.books) (hbooks' : base'.db.books = system'.db.books) :
    Joined Mine index index' task.connections task'.connections system system'
      (base.setTask index task) (base'.setTask index' task') := by
  have hplace : (base.setTask index task).tasks[index]? = some task := List.getElem?_set_self hi
  have hplace' : (base'.setTask index' task').tasks[index']? = some task' :=
    List.getElem?_set_self hi'
  obtain ⟨connected, hhands, -⟩ := h.stands
  refine ⟨⟨task, task', hplace, hplace', h⟩, .refl Mine hbooks hbooks',
    ⟨fun moved hmoved _ => ?_, hbase, hhands.mine.1⟩,
    ⟨fun moved hmoved _ => ?_, hbase', hhands.mine.2⟩⟩
  · cases hplace.symm.trans hmoved
    rfl
  · cases hplace'.symm.trans hmoved
    rfl

section

variable (h : Task.Abreast Mine system.db system'.db task task')
  (ht : system.tasks[index]? = some task) (ht' : system'.tasks[index']? = some task')
include h ht ht'

theorem joined_connect (ho : Orderly [] [] system) (ho' : Orderly [] [] system')
    (hs : system.step (.move (.connect index)) = some after)
    (hs' : system'.step (.move (.connect index')) = some after') :
    Joined Mine index index' [system.nextConnection] [system'.nextConnection] system system' after
      after' := by
  have hi := (List.getElem?_eq_some_iff.mp ht).1
  have hi' := (List.getElem?_eq_some_iff.mp ht').1
  obtain ⟨connected, hhands, hstages⟩ := h.stands
  generalize hstage : task.stage = stage at hstages
  generalize hstage' : task'.stage = stage' at hstages
  cases hstages with
  | queued hwork =>
    cases hwork with | connect hnext
    obtain rfl := of_step_connect ht hstage hs
    obtain rfl := of_step_connect ht' hstage' hs'
    have hfresh := ho.fresh _ fun hin => Nat.lt_irrefl _ (ho.lt_next _ hin)
    have hfresh' := ho'.fresh _ fun hin => Nat.lt_irrefl _ (ho'.lt_next _ hin)
    generalize hown : task.connections = own at hhands
    generalize hown' : task'.connections = own' at hhands
    cases hhands with | empty
    have hmirrors : Mirrors Mine system.nextConnection system'.nextConnection system.db system'.db :=
      .of_fresh hfresh hfresh' ho.locks ho'.locks
    exact @joined_carryOn _ _ _ _ _ { task with connections := [_] }
      { task' with connections := [_] } _ _ _ _ _ hi hi' hnext (.one hmirrors) h.reply
      (fun other _ => .refl other _) (fun other _ => .refl other _) (.refl Mine rfl rfl)
  | ready | sent | finished => simp [step, move, ht, hstage] at hs

theorem joined_turnAway (hclosed : system'.closed = system.closed)
    (hs : system.step (.move (.turnAway index)) = some after)
    (hs' : system'.step (.move (.turnAway index')) = some after') :
    Joined Mine index index' task.connections task'.connections system system' after after' := by
  have hi := (List.getElem?_eq_some_iff.mp ht).1
  have hi' := (List.getElem?_eq_some_iff.mp ht').1
  obtain ⟨connected, hhands, hstages⟩ := h.stands
  generalize hstage : task.stage = stage at hstages
  generalize hstage' : task'.stage = stage' at hstages
  cases hstages with
  | queued hwork =>
    cases hwork with | connect _ herror
    obtain rfl := of_step_turnAway ht hstage hs
    obtain rfl := of_step_turnAway ht' hstage' hs'
    rw [hclosed]
    exact joined_carryOn hi hi' (herror _) hhands h.reply (fun other _ => .refl other _)
      (fun other _ => .refl other _) (.refl Mine rfl rfl)
  | ready | sent | finished => simp [step, move, ht, hstage] at hs

/-- Two statements that are heard at once. -/
theorem joined_hear {connection' : Nat} {statement' : Statement}
    {next' : statement'.Answer → Work Reply} (ho : Orderly [] [] system) (ho' : Orderly [] [] system')
    (hwork : (Work.exec statement next).Abreast Mine true (.exec statement' next'))
    (hown : task.connections = [connection]) (hown' : task'.connections = [connection'])
    (hmirrors : Mirrors Mine connection connection' system.db system'.db)
    (hc : Concurs Mine [connection] [connection'] system.db system'.db) :
    Joined Mine index index' task.connections task'.connections system system'
      (system.hear index task connection statement next)
      (system'.hear index' task' connection' statement' next') := by
  have hi := (List.getElem?_eq_some_iff.mp ht).1
  have hi' := (List.getElem?_eq_some_iff.mp ht').1
  have hwork' := hwork
  cases hwork with | exec hs hm hnext
  unfold hear
  rcases hmirrors.heed hs hm hc ho.locks ho'.locks with
    ⟨hheed, hheed', hq⟩ | ⟨db, answer, db', answer', hheed, hheed', hanswers, hchanges, hended⟩
  · rw [hheed, hheed']
    refine @joined_setTask _ _ _ _ _
      { task with stage := .sent statement next .none (.locked system.now) }
      { task' with stage := .sent statement' next' .none (.locked system'.now) }
      { system with db := system.db.wait connection }
      { system' with db := system'.db.wait connection' } hi hi'
      ⟨⟨true, ?_, .sent hq hwork'⟩, h.reply, nofun⟩ (fun other hother => ?_) (fun other hother => ?_)
      (books_wait ..) (books_wait ..)
    · rw [hown, hown']
      exact .one hmirrors.wait
    · exact .wait (by simpa [hown] using hother) _
    · exact .wait (by simpa [hown'] using hother) _
  · rw [hheed, hheed']
    obtain ⟨ran, htells⟩ := tells_of_heed hheed
    obtain ⟨ran', htells'⟩ := tells_of_heed hheed'
    have hnames : ∀ found, answer = .ok found → ∀ row ∈ found, statement.Names row := by
      rintro found rfl
      exact htells.names
    refine joined_carryOn (by exact hi) (by exact hi') (hnext _ _ hanswers hnames) ?_ h.reply ?_ ?_
      hchanges
    · rw [hown, hown']
      exact .one hended
    · rw [hown]
      exact fun other hother => htells.untouched (by simpa using hother)
    · rw [hown']
      exact fun other hother => htells'.untouched (by simpa using hother)

/-- Both send their statements. -/
theorem joined_send (ho : Orderly [] [] system) (ho' : Orderly [] [] system')
    (hf : system.faults = []) (hf' : system'.faults = [])
    (hc : Concurs Mine task.connections task'.connections system.db system'.db)
    (hs : system.step (.move (.send index)) = some after)
    (hs' : system'.step (.move (.send index')) = some after') :
    Joined Mine index index' task.connections task'.connections system system' after after' := by
  obtain ⟨connected, hhands, hstages⟩ := h.stands
  generalize hstage : task.stage = stage at hstages
  generalize hstage' : task'.stage = stage' at hstages
  cases hstages with
  | ready hwork =>
    obtain ⟨connection, connection', hown, hown', hmirrors⟩ := hhands.of_true
    rw [hown, hown'] at hc
    have hsend := step_send_eq hf ht hstage (by rw [hown]; rfl)
    have hsend' := step_send_eq hf' ht' hstage' (by rw [hown']; rfl)
    cases hsend.symm.trans hs
    cases hsend'.symm.trans hs'
    exact joined_hear h ht ht' ho ho' hwork hown hown' hmirrors hc
  | queued | sent | finished =>
    have hsuits := suits_of_step (by exact ht) hs
    rw [hstage] at hsuits
    cases hsuits

/-- The locks that both have waited for are free. -/
theorem joined_wake (ho : Orderly [] [] system) (ho' : Orderly [] [] system') (hu : system.Underway)
    (hc : Concurs Mine task.connections task'.connections system.db system'.db)
    (hs : system.step (.move (.wake index)) = some after)
    (hs' : system'.step (.move (.wake index')) = some after') :
    Joined Mine index index' task.connections task'.connections system system' after after' := by
  obtain ⟨connected, hhands, hstages⟩ := h.stands
  generalize hstage : task.stage = stage at hstages
  generalize hstage' : task'.stage = stage' at hstages
  cases hstages with
  | @sent _ statement' _ _ _ _ hq hwork =>
    obtain ⟨connection, connection', hown, hown', hmirrors⟩ := hhands.of_true
    rw [hown, hown'] at hc
    have hhead : task.connections.head? = some connection := by rw [hown]; rfl
    have hhead' : task'.connections.head? = some connection' := by rw [hown']; rfl
    have halive := hu index task connection ht (by rw [hstage]; rfl) hhead
    have hq' : statement'.isQuery = true := by
      cases hwork with | exec hs => exact hs.isQuery.trans hq
    have hwake := step_wake_eq ht hstage hhead halive hq (of_step_wake ht hstage hhead hs)
    have hwake' := step_wake_eq ht' hstage' hhead' (hmirrors.alive.trans halive) hq'
      (of_step_wake ht' hstage' hhead' hs')
    cases hwake.symm.trans hs
    cases hwake'.symm.trans hs'
    exact joined_hear h ht ht' ho ho' hwork hown hown' hmirrors hc
  | queued | ready | finished =>
    have hsuits := suits_of_step (by exact ht) hs
    rw [hstage] at hsuits
    cases hsuits

/-- Both have waited too long for a lock. -/
theorem joined_expire (hs : system.step (.move (.expire index)) = some after)
    (hs' : system'.step (.move (.expire index')) = some after') :
    Joined Mine index index' task.connections task'.connections system system' after after' := by
  have hi := (List.getElem?_eq_some_iff.mp ht).1
  have hi' := (List.getElem?_eq_some_iff.mp ht').1
  obtain ⟨connected, hhands, hstages⟩ := h.stands
  generalize hstage : task.stage = stage at hstages
  generalize hstage' : task'.stage = stage' at hstages
  cases hstages with
  | @sent statement statement' _ _ _ _ hq hwork =>
    obtain ⟨connection, connection', hown, hown', hmirrors⟩ := hhands.of_true
    have hend := Statement.isEnd_of_isQuery hq
    cases hwork with | exec hstatements _ hnext
    obtain rfl := of_step_expire ht hstage (by rw [hown]; rfl) hend hs
    obtain rfl := of_step_expire ht' hstage' (by rw [hown']; rfl) (hstatements.isEnd.trans hend) hs'
    refine joined_carryOn (by exact hi) (by exact hi') (hnext _ _ (hstatements.error _) nofun) ?_
      h.reply ?_ ?_ (.refl Mine (books_abort ..) (books_abort ..))
    · rw [hown, hown']
      exact .one hmirrors.abort
    · rw [hown]
      exact fun other hother => .abort (by simpa using hother) _
    · rw [hown']
      exact fun other hother => .abort (by simpa using hother) _
  | queued | ready | finished =>
    have hsuits := suits_of_step (by exact ht) hs
    rw [hstage] at hsuits
    cases hsuits

/-- The callers of both give up. -/
theorem joined_abandon (hunit : system.unit? index = system'.unit? index')
    (hs : system.step (.move (.abandon index)) = some after)
    (hs' : system'.step (.move (.abandon index')) = some after') :
    Joined Mine index index' task.connections task'.connections system system' after after' := by
  have hi := (List.getElem?_eq_some_iff.mp ht).1
  have hi' := (List.getElem?_eq_some_iff.mp ht').1
  obtain ⟨deadline, hd, hb, hleft⟩ := of_step_abandon ht hs
  obtain ⟨deadline', hd', -, hleft'⟩ := of_step_abandon ht' hs'
  obtain ⟨reply, hreply⟩ : ∃ reply, reply = (task.reply <|> some (.failed (.timeout deadline.unit))) :=
    ⟨_, rfl⟩
  obtain ⟨reply', hreply'⟩ :
      ∃ reply', reply' = (task'.reply <|> some (.failed (.timeout deadline'.unit))) := ⟨_, rfl⟩
  have hsame : reply.map (·.core) = reply'.map (·.core) := by
    rw [unit?, unit?, ht, ht', Option.bind_some, Option.bind_some, hd, hd'] at hunit
    have hsame : deadline.unit = deadline'.unit := Option.some.inj hunit
    rw [hreply, hreply', hsame]
    exact reply_orElse h.reply rfl
  rw [← hreply] at hleft
  rw [← hreply'] at hleft'
  obtain ⟨connected, hhands, hstages⟩ := h.stands
  have hleave : task.leave.Abreast Mine connected task'.leave := by
    unfold Task.leave
    generalize task.connections = own at hhands
    generalize task'.connections = own' at hhands
    cases hhands with
    | empty => exact .done rfl
    | one => exact .giveBack rfl
  generalize hstage : task.stage = stage at hstages
  generalize hstage' : task'.stage = stage' at hstages
  rw [hstage] at hleft hb
  rw [hstage'] at hleft'
  cases hstages with
  | queued | ready =>
    obtain ⟨-, rfl⟩ | ⟨_, _, _, _, ⟨⟩, -⟩ := hleft
    obtain ⟨-, rfl⟩ | ⟨_, _, _, _, ⟨⟩, -⟩ := hleft'
    exact @joined_carryOn _ _ _ _ _ { task with stage := _, deadline := none, reply }
      { task' with stage := _, deadline := none, reply := reply' } _ _ _ _ _ hi hi' hleave hhands hsame
      (fun other _ => .refl other _) (fun other _ => .refl other _) (.refl Mine rfl rfl)
  | sent hq hwork =>
    obtain ⟨⟨⟩, -⟩ | ⟨_, _, _, _, ⟨⟩, rfl⟩ := hleft
    obtain ⟨⟨⟩, -⟩ | ⟨_, _, _, _, ⟨⟩, rfl⟩ := hleft'
    cases hwork with | exec hstatements hm
    exact @joined_setTask _ _ _ _ _ { task with deadline := none, reply, stage := .sent _ _ _ _ }
      { task' with deadline := none, reply := reply', stage := .sent _ _ _ _ } system system' hi hi'
      ⟨⟨_, hhands, .sent hq (.exec hstatements hm fun _ _ _ _ => hleave)⟩, hsame, nofun⟩
      (fun other _ => .refl other _) (fun other _ => .refl other _) rfl rfl
  | finished => cases hb

end

/-- What a task has in hand after a move, unless it is finished. -/
def inHand (system : System) (index : Nat) : Move → List Nat
  | .connect _ => [system.nextConnection]
  | _ => system.hands index

/-- The tasks make a move of the same kind. -/
theorem Abreast.joined (h : Abreast Mine index index' system system') (ho : Orderly [] [] system)
    (ho' : Orderly [] [] system') (hu : system.Underway)
    (hagreed : Agreed Mine index index' system system') (move : Move)
    (hunit : ∀ own, move = .abandon own → system.unit? index = system'.unit? index')
    (hs : system.step (.move (move.reindex index)) = some after)
    (hs' : system'.step (.move (move.reindex index')) = some after') :
    Joined Mine index index' (system.inHand index move) (system'.inHand index' move) system system'
      after after' := by
  obtain ⟨task, task', ht, ht', h⟩ := h
  have hc := hagreed.concurs
  simp only [inHand]
  rw [(hands_eq h ht ht').1, (hands_eq h ht ht').2] at hc ⊢
  cases move with
  | connect => exact joined_connect h ht ht' ho ho' hs hs'
  | turnAway => exact joined_turnAway h ht ht' hagreed.closed hs hs'
  | send => exact joined_send h ht ht' ho ho' hagreed.faults hagreed.faults' hc hs hs'
  | wake => exact joined_wake h ht ht' ho ho' hu hc hs hs'
  | expire => exact joined_expire h ht ht' hs hs'
  | abandon => exact joined_abandon h ht ht' (hunit _ rfl) hs hs'

/-! ## Moves of others -/

/-- What the others do is not done to the task. -/
theorem stands_step (ho : Orderly [] [] system) (hs : system.step event = some after)
    (hm : event.mover? ≠ some index) (ht : system.tasks[index]? = some task)
    (hstage : task.stage.unstall system.now = task.stage) :
    after.tasks[index]? = some task ∧
      ∀ connection ∈ task.claims, Untouched connection system.db after.db := by
  refine ⟨?_, fun connection hc => (spares_of_claims ho hs ht hc hm).untouched⟩
  rcases getElem?_step hs ht hm with hsame | ⟨-, hunstalled⟩
  · exact hsame
  · rwa [hstage] at hunstalled

theorem Abreast.of_untouched (h : Abreast Mine index index' system system')
    (hstands : ∀ task, system.tasks[index]? = some task → task.stage.unstall system.now = task.stage →
      after.tasks[index]? = some task ∧
        ∀ connection ∈ task.claims, Untouched connection system.db after.db)
    (hstands' : ∀ task, system'.tasks[index']? = some task →
      task.stage.unstall system'.now = task.stage → after'.tasks[index']? = some task ∧
        ∀ connection ∈ task.claims, Untouched connection system'.db after'.db) :
    Abreast Mine index index' after after' := by
  obtain ⟨task, task', ht, ht', ⟨connected, hhands, hstages⟩, htold, hanswered⟩ := h
  have hunstall := hstages.unstall system.now system'.now
  obtain ⟨hafter, hspared⟩ := hstands task ht hunstall.1
  obtain ⟨hafter', hspared'⟩ := hstands' task' ht' hunstall.2
  refine ⟨task, task', hafter, hafter', ⟨connected, ?_, hstages⟩, htold, hanswered⟩
  unfold Task.claims at hspared hspared'
  generalize task.stage = stage at hstages hspared
  generalize task'.stage = stage' at hstages hspared'
  cases hstages with
  | queued | ready | sent => exact hhands.of_untouched hspared hspared'
  | finished =>
    generalize task.connections = own at hhands
    generalize task'.connections = own' at hhands
    cases hhands
    exact .empty

/-! ## What the two find -/

/-- The two wait for the same lock of the same holder or neither waits, the same can happen to both
next, and what they publish is alike. -/
structure Concerted (Mine : Int → Prop) (index index' : Nat) (system system' : System) : Prop where
  waits : system.wanted? index = system'.wanted? index'
  holders : ∀ id, system.wanted? index = some id →
    (system.db.holder? id).isSome = true ∧ system.db.holder? id = system'.db.holder? id
  sends : (system.step (.move (.send index))).isSome = (system'.step (.move (.send index'))).isSome
  wakes : (system.step (.move (.wake index))).isSome = (system'.step (.move (.wake index'))).isSome
  changes : ∀ (move : Move) (after after' : System),
    (∀ own, move = .abandon own → system.unit? index = system'.unit? index') →
    system.step (.move (move.reindex index)) = some after →
    system'.step (.move (move.reindex index')) = some after' →
    ChangeAlike Mine system.db system'.db after.db after'.db

theorem wanted?_of_not_isSent (ht : system.tasks[index]? = some task) (hs : task.stage.isSent = false) :
    system.wanted? index = none := by
  cases hstage : task.stage with
  | sent => rw [hstage] at hs; cases hs
  | _ => simp [wanted?, ht, hstage, Stage.underWay?]

theorem isSome_wake_iff {since : Nat} {twist : Twist} (ht : system.tasks[index]? = some task)
    (hstage : task.stage = .sent statement next twist (.locked since))
    (hc : task.connections.head? = some connection) :
    (system.step (.move (.wake index))).isSome = (system.db.obstacle? connection statement).isNone := by
  cases ho : system.db.obstacle? connection statement with
  | none => rw [isSome_wake ht hstage hc ho, Option.isNone_none]
  | some => simp [step, System.move, arrival?, ht, hstage, hc, mayWake, ho]

/-- Who has locked a row that a task waits for is not the task itself. -/
theorem holder?_of_obstacle {id : Int} (h : system.db.obstacle? connection statement = some id) :
    ∃ holder, system.db.holder? id = some holder ∧ system.db.rival? [connection] id = some holder := by
  obtain ⟨-, hbusy⟩ := Option.filter_eq_some_iff.mp h
  rw [lockable_eq] at hbusy
  cases hrival : system.db.rival? [connection] id with
  | none => simp [hrival] at hbusy
  | some holder => exact ⟨holder, (Option.filter_eq_some_iff.mp hrival).1, rfl⟩

theorem Abreast.concerted (h : Abreast Mine index index' system system') (ho : Orderly [] [] system)
    (ho' : Orderly [] [] system') (hu : system.Underway)
    (hagreed : Agreed Mine index index' system system') :
    Concerted Mine index index' system system' := by
  have hchanges := fun move after after' hunit hs hs' =>
    (@Abreast.joined Mine system system' after after' index index' h ho ho' hu hagreed move hunit hs
      hs').changes
  obtain ⟨task, task', ht, ht', habreast⟩ := h
  have hc := hagreed.concurs
  rw [(hands_eq habreast ht ht').1, (hands_eq habreast ht ht').2] at hc
  obtain ⟨connected, hhands, hstages⟩ := habreast.stands
  generalize hstage : task.stage = stage at hstages
  generalize hstage' : task'.stage = stage' at hstages
  have hsilent : stage.isSent = false → stage'.isSent = false →
      system.wanted? index = none ∧ system'.wanted? index' = none := fun hs hs' =>
    ⟨wanted?_of_not_isSent ht (by rwa [hstage]), wanted?_of_not_isSent ht' (by rwa [hstage'])⟩
  cases hstages with
  | queued | finished =>
    obtain ⟨hwanted, hwanted'⟩ := hsilent rfl rfl
    refine ⟨hwanted.trans hwanted'.symm, by simp [hwanted], ?_, ?_, hchanges⟩
    all_goals rw [step_eq_none ht (by rw [hstage]; rfl), step_eq_none ht' (by rw [hstage']; rfl)]
  | ready =>
    obtain ⟨hwanted, hwanted'⟩ := hsilent rfl rfl
    obtain ⟨connection, connection', hown, hown', -⟩ := hhands.of_true
    refine ⟨hwanted.trans hwanted'.symm, by simp [hwanted], ?_, ?_, hchanges⟩
    · rw [isSome_send ht hstage (by rw [hown]; rfl), isSome_send ht' hstage' (by rw [hown']; rfl)]
    · rw [step_eq_none ht (by rw [hstage]; rfl), step_eq_none ht' (by rw [hstage']; rfl)]
  | sent _ hwork =>
    obtain ⟨connection, connection', hown, hown', -⟩ := hhands.of_true
    have hhead : task.connections.head? = some connection := by rw [hown]; rfl
    have hhead' : task'.connections.head? = some connection' := by rw [hown']; rfl
    rw [hown, hown'] at hc
    cases hwork with | exec hs hm
    have hobstacle := hc.obstacle? hs hm
    have hwanted := wanted?_of_work ht hhead (by rw [hstage]; rfl)
    have hwanted' := wanted?_of_work ht' hhead' (by rw [hstage']; rfl)
    simp only [hstage, hstage', Stage.isSent, if_true] at hwanted hwanted'
    refine ⟨by rw [hwanted, hwanted', hobstacle], fun id hid => ?_, ?_, ?_, hchanges⟩
    · obtain ⟨holder, hholder, hrival⟩ := holder?_of_obstacle (hwanted.symm.trans hid)
      obtain ⟨holder', hholder', hrival'⟩ :=
        holder?_of_obstacle ((hobstacle.trans hwanted.symm).trans hid)
      have hmine := hm id (Statement.subject?_of_locked
        (Option.filter_eq_some_iff.mp (hwanted.symm.trans hid)).1)
      refine ⟨by rw [hholder]; rfl, ?_⟩
      rw [hholder, hholder', ← hrival, ← hrival', hc.rivals id hmine]
    · rw [step_eq_none ht (by rw [hstage]; rfl), step_eq_none ht' (by rw [hstage']; rfl)]
    · rw [isSome_wake_iff ht hstage hhead, isSome_wake_iff ht' hstage' hhead', hobstacle]

/-- From two systems on, whenever the task moves in one of them it makes the same move in the other one,
and at that moment it finds the same. Everybody else does as they like. -/
inductive InStep (Mine : Int → Prop) (index index' : Nat) (start start' : System) :
    System → System → Prop
  | refl : InStep Mine index index' start start' start start'
  | both {system system' after after' : System} (move : Move) :
      InStep Mine index index' start start' system system' →
      Agreed Mine index index' system system' →
      (∀ own, move = .abandon own → system.unit? index = system'.unit? index') →
      system.step (.move (move.reindex index)) = some after →
      system'.step (.move (move.reindex index')) = some after' →
      InStep Mine index index' start start' after after'
  | left {system system' after : System} {event : Event} :
      InStep Mine index index' start start' system system' → event.mover? ≠ some index →
      system.step event = some after → InStep Mine index index' start start' after system'
  | right {system system' after' : System} {event : Event} :
      InStep Mine index index' start start' system system' → event.mover? ≠ some index' →
      system'.step event = some after' → InStep Mine index index' start start' system after'

/-- Tasks that are abreast stay so. -/
theorem InStep.abreast {start start' : System} (h : InStep Mine index index' start start' system system')
    (ho : Orderly [] [] start) (ho' : Orderly [] [] start') (hu : start.Underway)
    (habreast : Abreast Mine index index' start start') :
    Orderly [] [] system ∧ Orderly [] [] system' ∧ system.Underway ∧
      Abreast Mine index index' system system' := by
  induction h with
  | refl => exact ⟨ho, ho', hu, habreast⟩
  | both move _ hagreed hunit hs hs' ih =>
    obtain ⟨ho, ho', hu, hnow⟩ := ih
    exact ⟨ho.step hs, ho'.step hs', hu.step ho hs,
      (hnow.joined ho ho' hu hagreed move hunit hs hs').abreast⟩
  | left _ hm hs ih =>
    obtain ⟨ho, ho', hu, hnow⟩ := ih
    exact ⟨ho.step hs, ho', hu.step ho hs, hnow.of_untouched
      (fun _ ht => stands_step ho hs hm ht) fun _ ht _ => ⟨ht, fun connection _ => .refl connection _⟩⟩
  | right _ hm hs ih =>
    obtain ⟨ho, ho', hu, hnow⟩ := ih
    exact ⟨ho, ho'.step hs, hu, hnow.of_untouched
      (fun _ ht _ => ⟨ht, fun connection _ => .refl connection _⟩) fun _ ht => stands_step ho' hs hm ht⟩

end System

end Passbook
