import Runact.ActorStarvation
import Runact.LoopDescent
import Runact.PoolThreads

namespace Runact

/-!
# Waiting messages are served

While the stop flag is not set and every actor has a worker of its own, a
message that waits in a mailbox comes forward.  Its loop takes one envelope after
the other, as long as handler calls end and nobody keeps the loop inside of a
send or a reply for ever.
-/

universe u

variable {Value State Frame : Type u} {workers : Nat}

/-- How far a worker is from running the task in its queue. -/
def WorkerPosition.untilRunning {Task : Type} :
    WorkerPosition workers Task → Nat
  | .running _ => 0
  | .popping => 1
  | .checkingStop => 2
  | .stealing targets => 3 + targets.length
  | _ => 0

/-- How far a loop is from its next receive, its handler call aside. -/
def LoopPosition.untilReceiving : LoopPosition Value Frame → Nat
  | .receiving => 0
  | .top => 1
  | _ => 2

/-- Inside of a handler call a loop is as far from its next receive. -/
theorem LoopPosition.Moves.inside
    {actor : Actor Value State Frame}
    {before after : LoopPosition Value Frame}
    (moves : LoopPosition.Moves actor before after) :
    after.isRunning = true ∧ after.untilReceiving = before.untilReceiving := by
  cases moves <;> exact ⟨rfl, rfl⟩

/-- What is left until a loop receives. -/
noncomputable def ActorCell.untilReceiving
    (cell : ActorCell Value State Frame) : ℕ ×ₗ Ordinal.{u} :=
  toLex (cell.position.untilReceiving, cell.position.depth cell.actor)

namespace ActorPool

variable [NeZero workers]
  {before after : ActorPool workers Value State Frame}
  {label : Label workers Value State Frame}
  {events : List (RuntimeEvent Value)}
  {capacity ahead : Nat} {id : Fin workers}
  {actor : Actor Value State Frame} {envelope : MessageEnvelope Value}
  {message : Value}

/-! ## A worker for every actor -/

/-- The stop flag is not set, and there are as many workers as actors. -/
structure Manned
    (capacity : Nat)
    (pool : ActorPool workers Value State Frame) : Prop where
  reached :
    ∃ log,
      Machine.Run (machine workers Value State Frame)
        (withConfig workers Value State Frame capacity) log pool
  unstopped : pool.runtime.stop = false
  enough : pool.runtime.cells.length ≤ workers

theorem Manned.live (manned : Manned capacity before) : Live before := by
  obtain ⟨log, run⟩ := manned.reached
  exact (reachable_live run manned.unstopped).1

theorem Manned.housed (manned : Manned capacity before) : Housed before := by
  obtain ⟨log, run⟩ := manned.reached
  exact (reachable_live run manned.unstopped).2.1 manned.enough

omit [NeZero workers] in
/-- A worker is inside of no loop but that of its own number. -/
theorem Housed.running_eq
    {index : Nat}
    (housed : Housed before)
    (running : before.scheduler.positions id = .running index) :
    index = id.val := by
  cases housed.slots id with
  | vacant _ _ idle | claimed _ _ _ idle | queued _ _ _ idle =>
      rw [running] at idle
      exact idle.elim
  | running _ _ _ own =>
      rw [running] at own
      exact WorkerPosition.running.inj own
  | gone _ _ _ unwound _ _ =>
      rw [running] at unwound
      cases unwound

/-- An envelope of its type waits for an actor whose `spawn` has returned and
whose handler has not panicked. -/
structure Expects
    (pool : ActorPool workers Value State Frame)
    (index ahead : Nat)
    (actor : Actor Value State Frame)
    (envelope : MessageEnvelope Value)
    (message : Value) : Prop where
  unclaimed : ∀ claim ∈ pool.scheduler.claims, claim.2 ≠ index
  typed : envelope.payload.downcast actor.messageType = some message
  waits :
    ∃ cell,
      pool.runtime.cells[index]? = some cell ∧
        cell.actor = actor ∧
        cell.position.isRunning = true ∧
        cell.mailbox[ahead]? = some envelope

/-- What is left until the worker is inside of the loop of its actor, and the
loop receives. -/
noncomputable def untilTake
    (id : Fin workers)
    (pool : ActorPool workers Value State Frame) :
    ℕ ×ₗ ℕ ×ₗ Ordinal.{u} :=
  toLex
    ((pool.scheduler.positions id).untilRunning,
      (pool.runtime.cells[id.val]?).elim (toLex (0, 0))
        ActorCell.untilReceiving)

/-- The loop takes an envelope, or its handler panics. -/
def Advances (index : Nat) (events : List (RuntimeEvent Value)) : Prop :=
  .panicked index ∈ events ∨ ∃ envelope, .taken index envelope ∈ events

/-! ## The steps of others -/

/-- Nobody claims a queue for an actor again. -/
theorem Expects.stillUnclaimed
    {index : Nat}
    (expects : Expects before index ahead actor envelope message)
    (effect : Effect before after events) :
    ∀ claim ∈ after.scheduler.claims, claim.2 ≠ index := by
  obtain ⟨unclaimed, -, cell, here, -⟩ := expects
  have within := (List.getElem?_eq_some_iff.mp here).1
  cases effect with
  | spawned actor state runtime events free step =>
      intro claim newest
      obtain rfl := List.mem_singleton.mp newest
      exact Nat.ne_of_gt within
  | pushed call queue task claimed =>
      exact fun claim member =>
        unclaimed claim (List.mem_of_mem_eraseIdx member)
  | worker own scheduler shown step =>
      cases step <;> exact unclaimed
  | _ => exact unclaimed

/-- The steps of others leave the loop of a worker where it is, and its mailbox
as it is or with more at its end. -/
theorem Manned.step_cell_other
    (manned : Manned capacity before)
    (step :
      (machine workers Value State Frame).step? before label =
        some (after, events))
    (other : label.isOf id = false)
    {cell : ActorCell Value State Frame}
    (here : before.runtime.cells[id.val]? = some cell) :
    ∃ extra,
      after.runtime.cells[id.val]? =
        some { cell with mailbox := cell.mailbox ++ extra } := by
  have taken := step_inRuntime step
  cases seen : label.inRuntime? before with
  | none =>
      rw [seen] at taken
      exact ⟨[], by simp [taken.1, here]⟩
  | some own =>
      rw [seen] at taken
      obtain ⟨extra, there, -⟩ :=
        Runtime.step_others taken here fun answer same => by
          subst same
          obtain ⟨mover, isOf, running⟩ := inRuntime?_eq_loop seen
          obtain rfl : id = mover :=
            Fin.ext (manned.housed.running_eq running)
          rw [isOf] at other
          cases other
      exact ⟨extra, there⟩

/-- The steps of others show nothing of the loop of a worker. -/
theorem Manned.not_advances_other
    (manned : Manned capacity before)
    (step :
      (machine workers Value State Frame).step? before label =
        some (after, events))
    (other : label.isOf id = false) :
    ¬ Advances id.val events := by
  have silent
      {event : RuntimeEvent Value}
      (shown : event ∈ events) :
      Runtime.shownBy event ≠ some id.val := by
    intro byLoop
    obtain ⟨mover, isOf, running⟩ := shown_by_worker step shown byLoop
    obtain rfl : id = mover := Fin.ext (manned.housed.running_eq running)
    rw [isOf] at other
    cases other
  rintro (panicked | ⟨envelope, taken⟩)
  · exact silent panicked rfl
  · exact silent taken rfl

/-- The steps of others keep an envelope waiting, and bring it no further back. -/
theorem Expects.other
    (expects : Expects before id.val ahead actor envelope message)
    (manned : Manned capacity before)
    (step :
      (machine workers Value State Frame).step? before label =
        some (after, events))
    (other : label.isOf id = false) :
    Expects after id.val ahead actor envelope message ∧
      untilTake id after = untilTake id before := by
  have unclaimed := expects.stillUnclaimed (effect_of_step step)
  obtain ⟨-, typed, cell, here, same, running, there⟩ := expects
  obtain ⟨extra, now⟩ := manned.step_cell_other step other here
  refine ⟨⟨unclaimed, typed, _, now, same, running, ?_⟩, ?_⟩
  · rw [List.getElem?_append_left (List.getElem?_eq_some_iff.mp there).1]
    exact there
  · rw [untilTake, untilTake, step_positions_other step other, now, here]
    rfl

/-! ## The steps of the worker itself -/

/-- The worker is at the start of a handler call on the envelope. -/
structure CalledOn
    (pool : ActorPool workers Value State Frame)
    (id : Fin workers)
    (actor : Actor Value State Frame)
    (envelope : MessageEnvelope Value)
    (message : Value) : Prop where
  running : pool.scheduler.positions id = .running id.val
  here :
    ∃ cell draining,
      pool.runtime.cells[id.val]? = some cell ∧
        cell.actor = actor ∧
        cell.replySender = envelope.replySender ∧
        cell.position = .handling draining (actor.handle cell.state message)

/-- What a step of its own brings an envelope that waits: the handler is called on
it, it comes forward, its loop gets closer to a receive, or the handler panics. -/
inductive Service
    (before after : ActorPool workers Value State Frame)
    (id : Fin workers)
    (actor : Actor Value State Frame)
    (envelope : MessageEnvelope Value)
    (message : Value) :
    Nat → List (RuntimeEvent Value) → Prop where
  | panicked (ahead : Nat) :
      Service before after id actor envelope message ahead [.panicked id.val]
  | called :
      CalledOn after id actor envelope message →
      Service before after id actor envelope message 0
        [.taken id.val envelope, .called id.val message]
  | forward (ahead : Nat) (events : List (RuntimeEvent Value)) :
      Expects after id.val ahead actor envelope message →
      events.countP (isTake id.val) = 1 →
      Service before after id actor envelope message (ahead + 1) events
  | closer (ahead : Nat) (events : List (RuntimeEvent Value)) :
      Expects after id.val ahead actor envelope message →
      ¬ Advances id.val events →
      untilTake id after < untilTake id before →
      Service before after id actor envelope message ahead events

omit [NeZero workers] in
/-- Where the worker of a waiting actor stands. -/
theorem Expects.stands
    (expects : Expects before id.val ahead actor envelope message)
    (housed : Housed before) :
    before.scheduler.queues id = [id.val] ∧
        IsIdle (before.scheduler.positions id) ∨
      before.scheduler.positions id = .running id.val := by
  obtain ⟨unclaimed, -, cell, here, -, running, -⟩ := expects
  have within := (List.getElem?_eq_some_iff.mp here).1
  cases housed.slots id with
  | vacant beyond => exact absurd within (Nat.not_lt.mpr beyond)
  | claimed _ claimed => exact absurd rfl (unclaimed _ claimed)
  | queued _ _ queue idle => exact .inl ⟨queue, idle⟩
  | running _ _ _ runs => exact .inr runs
  | gone dropped _ _ _ found ended =>
      obtain rfl : cell = dropped := Option.some.inj (here.symm.trans found)
      rw [ended] at running
      cases running

/-- A worker outside of the loop of a waiting actor gets closer to it. -/
theorem Expects.worker
    (expects : Expects before id.val ahead actor envelope message)
    (manned : Manned capacity before)
    (step :
      (machine workers Value State Frame).step? before (.worker id) =
        some (after, events)) :
    Service before after id actor envelope message ahead events := by
  have unclaimed := expects.stillUnclaimed (effect_of_step step)
  have stands := expects.stands manned.housed
  have workersOn := manned.live.workersOn
  have short := fun other => (manned.housed.slots other).short
  obtain ⟨scheduler, shown, moved, rfl, rfl⟩ := step_worker step
  have closer
      (lower :
        (scheduler.positions id).untilRunning <
          (before.scheduler.positions id).untilRunning) :
      Service before { before with scheduler := scheduler } id actor envelope
        message ahead [] := by
    refine .closer ahead [] ?_ (by simp [Advances]) ?_
    · exact ⟨unclaimed, expects.typed, expects.waits⟩
    · exact Prod.Lex.toLex_lt_toLex.mpr (.inl lower)
  obtain ⟨queue, idle⟩ | running := stands
  · cases moved with
    | exit position stopping =>
        rw [workersOn] at stopping
        cases stopping
    | goOn position | start task rest position | yield position
    | refused target targets position =>
        apply closer
        simp [position, WorkerPosition.untilRunning]
    | empty position nothing =>
        rw [queue] at nothing
        cases nothing
    | steal target targets batch rest position stolen some =>
        rw [RunQueue.stealHalf_of_length_le_one (short target)] at stolen
        exact absurd (Prod.mk.inj stolen).1.symm some
    | pushed position | repush task batch position =>
        rw [position] at idle
        exact idle.elim
  · cases moved <;> simp_all

/-- A step of the loop of a waiting actor serves the envelope in front, or brings
it closer to a receive. -/
theorem Expects.loop
    (expects : Expects before id.val ahead actor envelope message)
    (manned : Manned capacity before)
    (terminates : actor.Terminates)
    {answer : Nat}
    (step :
      (machine workers Value State Frame).step? before (.loop id answer) =
        some (after, events)) :
    Service before after id actor envelope message ahead events := by
  have unclaimed := expects.stillUnclaimed (effect_of_step step)
  obtain ⟨-, fits, cell, here, rfl, running, there⟩ := expects
  obtain ⟨index, own, runs, found, moved, leaves⟩ := step_loop step
  obtain rfl := manned.housed.running_eq runs
  obtain rfl : cell = own := Option.some.inj (here.symm.trans found)
  have stillRuns :
      after.scheduler.positions id = before.scheduler.positions id := by
    generalize cell.position = place at leaves running
    generalize after.scheduler = scheduler at leaves ⊢
    cases leaves with
    | stays => rfl
    | returns | unwinds => cases running
  have settles : cell.position.Settles cell.actor := by
    obtain ⟨log, run⟩ := manned.reached
    obtain ⟨initial, -, serial⟩ :=
      Runtime.run_serial (run_inRuntime run) id.val cell here
    exact ActorCell.settles_of_serial terminates serial
  -- the message waits on in what has become of the loop
  have waits
      {next : ActorCell Value State Frame}
      (now : after.runtime.cells[id.val]? = some next)
      (actor : next.actor = cell.actor)
      (onward : next.position.isRunning = true)
      (front : Nat)
      (queued : next.mailbox[front]? = some envelope) :
      Expects after id.val front cell.actor envelope message :=
    ⟨unclaimed, fits, next, now, actor, onward, queued⟩
  have closer
      {next : ActorCell Value State Frame}
      (now : after.runtime.cells[id.val]? = some next)
      (actor : next.actor = cell.actor)
      (onward : next.position.isRunning = true)
      (queued : next.mailbox[ahead]? = some envelope)
      (silent : ¬ Advances id.val events)
      (lower : next.untilReceiving < cell.untilReceiving) :
      Service before after id cell.actor envelope message ahead events := by
    refine .closer ahead events (waits now actor onward ahead queued) silent ?_
    rw [untilTake, untilTake, stillRuns, now, here]
    exact Prod.Lex.toLex_lt_toLex.mpr (.inr ⟨rfl, lower⟩)
  have nearer
      {next : ActorCell Value State Frame}
      (lower :
        next.position.untilReceiving < cell.position.untilReceiving) :
      next.untilReceiving < cell.untilReceiving :=
    Prod.Lex.toLex_lt_toLex.mpr (.inl lower)
  -- the handler call goes on
  have inCall
      {next : ActorCell Value State Frame}
      (now : after.runtime.cells[id.val]? = some next)
      (actor : next.actor = cell.actor)
      (queued : next.mailbox[ahead]? = some envelope)
      (silent : ¬ Advances id.val events)
      (moves : LoopPosition.Moves cell.actor cell.position next.position) :
      Service before after id cell.actor envelope message ahead events := by
    refine closer now actor moves.inside.1 queued silent ?_
    refine Prod.Lex.toLex_lt_toLex.mpr (.inr ⟨moves.inside.2, ?_⟩)
    rw [actor]
    exact moves.depth_lt settles
  have begins
      {next : ActorCell Value State Frame}
      {draining : Bool}
      (now : after.runtime.cells[id.val]? = some next)
      (actor : next.actor = cell.actor)
      (sender : next.replySender = envelope.replySender)
      (position :
        next.position =
          .handling draining (cell.actor.handle next.state message)) :
      CalledOn after id cell.actor envelope message :=
    ⟨stillRuns.trans runs, next, draining, now, actor, sender, position⟩
  obtain ⟨same, again, effect⟩ := Runtime.loopStep_cases moved
  obtain rfl : cell = same := Option.some.inj (here.symm.trans again)
  generalize after.runtime = runtime at effect waits closer inCall begins
  have unstopped := manned.unstopped
  have notDraining := manned.live.unstopped.notStopping id.val cell here
  cases effect with
  | emptied shape queue | timedOut shape queue =>
      rw [queue] at there
      cases there
  | dropped shape =>
      rcases shape with shape | shape <;>
        · rw [shape] at running
          cases running
  | started shape joined =>
      refine closer (Runtime.modifyCell_here _ here) rfl rfl there ?_ (nearer ?_)
      · simp [Advances]
      · simp [shape, LoopPosition.untilReceiving]
  | checked shape =>
      rw [unstopped] at closer
      refine closer (Runtime.modifyCell_here _ here) rfl rfl there ?_ (nearer ?_)
      · simp [Advances]
      · simp [shape, LoopPosition.atReceive, LoopPosition.untilReceiving]
  | called draining first rest on shape queue typed =>
      rw [queue] at there
      cases ahead with
      | zero =>
          obtain rfl : first = envelope := by simpa using there
          obtain rfl : on = message := Option.some.inj (typed.symm.trans fits)
          exact .called (begins (Runtime.modifyCell_here _ here) rfl rfl rfl)
      | succ ahead =>
          refine .forward ahead _ (waits (Runtime.modifyCell_here _ here) rfl rfl ahead ?_) ?_
          · simpa using there
          · simp [isTake]
  | skipped draining first rest reductions yields shape queue foreign shown =>
      rw [queue] at there
      cases ahead with
      | zero =>
          obtain rfl : first = envelope := by simpa using there
          rw [foreign] at fits
          cases fits
      | succ ahead =>
          refine .forward ahead _ (waits (Runtime.modifyCell_here _ here) rfl rfl ahead ?_) ?_
          · simpa using there
          · rcases shown with rfl | rfl <;> simp [isTake]
  | returned draining frame state reductions yields shape action shown =>
      refine closer (Runtime.modifyCell_here _ here) rfl rfl there ?_ (nearer ?_)
      · rcases shown with rfl | rfl <;> simp [Advances]
      · simp [shape, LoopPosition.untilReceiving]
  | panicked draining frame shape action => exact .panicked ahead
  | sendRefused draining frame target send resume shape action missing =>
      refine inCall (Runtime.modifyCell_here _ here) rfl there ?_ ?_
      · simp [Advances]
      · rw [shape]
        exact .goesOn (.sendTo _ action)
  | sendStarted draining frame target send resume channel shape action listed =>
      refine inCall (Runtime.modifyCell_here _ here) rfl there ?_ ?_
      · simp [Advances]
      · rw [shape]
        exact .sends channel _ action
  | sent draining channel sent resume delivered shape accepted =>
      obtain ⟨extra, extended, -⟩ := Runtime.OnlyExtended.offered accepted here
      refine inCall (Runtime.modifyCell_here _ extended) rfl ?_ ?_ ?_
      · exact (List.getElem?_append_left
          (List.getElem?_eq_some_iff.mp there).1).trans there
      · simp [Advances]
      · rw [shape]
        exact .sent _
  | sendFailed draining channel sent resume shape disconnected =>
      refine inCall (Runtime.modifyCell_here _ here) rfl there ?_ ?_
      · simp [Advances]
      · rw [shape]
        exact .sent _
  | replyIgnored draining frame reply resume shape action kept =>
      refine inCall (Runtime.modifyCell_here _ here) rfl there ?_ ?_
      · simp [Advances]
      · rw [shape]
        exact .goesOn (.reply _ action)
  | replyStarted draining frame reply resume channel shape action kept =>
      refine inCall (Runtime.modifyCell_here _ here) rfl there ?_ ?_
      · simp [Advances]
      · rw [shape]
        exact .replies channel action
  | replied draining channel reply resume shape empty =>
      have unchanged :
          (before.runtime.setReply channel
            { buffer := some reply, handleAlive := true }).cells[id.val]? =
            some cell := here
      refine inCall (Runtime.modifyCell_here _ unchanged) rfl there ?_ ?_
      · simp [Advances]
      · rw [shape]
        exact .replied _
  | replyFailed draining channel reply resume buffer shape listed gone =>
      refine inCall (Runtime.modifyCell_here _ here) rfl there ?_ ?_
      · simp [Advances]
      · rw [shape]
        exact .replied _
  | askedIsRequest draining frame resume shape action =>
      refine inCall (Runtime.modifyCell_here _ here) rfl there ?_ ?_
      · simp [Advances]
      · rw [shape]
        exact .goesOn (.isRequest _ action)
  | computed draining frame resume answer shape action =>
      refine inCall (Runtime.modifyCell_here _ here) rfl there ?_ ?_
      · simp [Advances]
      · rw [shape]
        exact .goesOn (.other _ action)

/-- A step of the worker serves an envelope that waits, and every other step leaves
it as far from that. -/
theorem Expects.step
    (expects : Expects before id.val ahead actor envelope message)
    (manned : Manned capacity before)
    (terminates : actor.Terminates)
    (step :
      (machine workers Value State Frame).step? before label =
        some (after, events)) :
    Service before after id actor envelope message ahead events ∨
      label.isOf id = false ∧
        ¬ Advances id.val events ∧
        Expects after id.val ahead actor envelope message ∧
        untilTake id after = untilTake id before := by
  cases own : label.isOf id with
  | false =>
      obtain ⟨waits, same⟩ := expects.other manned step own
      exact .inr ⟨rfl, manned.not_advances_other step own, waits, same⟩
  | true =>
      refine .inl ?_
      cases label with
      | worker other =>
          obtain rfl : other = id := eq_of_beq own
          exact expects.worker manned step
      | loop other answer =>
          obtain rfl : other = id := eq_of_beq own
          exact expects.loop manned terminates step
      | _ => cases own

omit [NeZero workers] in
/-- Such a step takes an envelope, is a panic, or gets closer to one of these. -/
theorem Service.advances
    (service : Service before after id actor envelope message ahead events) :
    Advances id.val events ∨
      Expects after id.val ahead actor envelope message ∧
        untilTake id after < untilTake id before := by
  cases service with
  | panicked => exact .inl (.inl List.mem_cons_self)
  | called on => exact .inl (.inr ⟨envelope, List.mem_cons_self⟩)
  | forward ahead _ waits one =>
      have some : 0 < events.countP (isTake id.val) := by
        rw [one]
        exact Nat.one_pos
      obtain ⟨event, shown, take⟩ := List.countP_pos_iff.mp some
      cases event with
      | taken index first =>
          obtain rfl : index = id.val := eq_of_beq take
          exact .inl (.inr ⟨first, shown⟩)
      | _ => cases take
  | closer _ _ waits silent lower => exact .inr ⟨waits, lower⟩

/-! ## Fair executions -/

/-- The handler of a loop has come to a `send_to` call. -/
def callsSendTo (cell : ActorCell Value State Frame) : Bool :=
  match cell.position with
  | .handling _ frame =>
      match cell.actor.next frame with
      | .sendTo _ _ _ => true
      | _ => false
  | _ => false

/-- Who has come to no `send_to` call is not kept out of the senders. -/
theorem isKeptOut_of_not_callsSendTo
    {cell : ActorCell Value State Frame}
    (elsewhere : callsSendTo cell = false)
    (runtime : Runtime Value State Frame) :
    runtime.isKeptOut cell = false := by
  cases position : cell.position with
  | handling draining frame =>
      cases action : cell.actor.next frame <;>
        simp_all [callsSendTo, Runtime.isKeptOut, Runtime.keptOut]
  | _ => simp [Runtime.isKeptOut, position]

/-- The loop is not at or inside of a send, or inside of a reply, where others
may keep it. -/
def OutsideSends
    (index : Nat)
    (pool : ActorPool workers Value State Frame) : Prop :=
  ∀ cell,
    pool.runtime.cells[index]? = some cell →
    callsSendTo cell = false ∧
      cell.position.holdsSenders = false ∧
      cell.position.replyChannel? = none

instance
    (index : Nat)
    (pool : ActorPool workers Value State Frame) :
    Decidable (OutsideSends index pool) :=
  inferInstanceAs
    (Decidable
      (∀ cell ∈ pool.runtime.cells[index]?,
        callsSendTo cell = false ∧
          cell.position.holdsSenders = false ∧
          cell.position.replyChannel? = none))

/-- A worker inside of a loop that does not wait for others takes a step. -/
theorem Manned.enabled
    (manned : Manned capacity before)
    {index : Nat}
    {cell : ActorCell Value State Frame}
    (running : before.scheduler.positions id = .running index)
    (here : before.runtime.cells[index]? = some cell)
    (onward : cell.position.isRunning = true)
    (outside : OutsideSends index before) :
    (machine workers Value State Frame).Enabled before (Label.isOf id) := by
  obtain ⟨elsewhere, nobody, unreplying⟩ := outside cell here
  apply enabled_of_loopStep running
  apply Runtime.loopStep_enabled here
  · cases position : cell.position <;>
      simp_all [LoopPosition.isRunning, LoopPosition.isEnded]
  · exact fun _ => manned.live.unstopped.notJoined
  · exact nobody
  · exact isKeptOut_of_not_callsSendTo elsewhere _
  · intro draining channel reply resume replying
    rw [replying] at unreplying
    cases unreplying
  · intro channel replying
    rw [unreplying] at replying
    cases replying

/-- The worker of a waiting actor takes a step. -/
theorem Expects.enabled
    (expects : Expects before id.val ahead actor envelope message)
    (manned : Manned capacity before)
    (outside : OutsideSends id.val before) :
    (machine workers Value State Frame).Enabled before (Label.isOf id) := by
  obtain ⟨cell, here, -, onward, -⟩ := expects.waits
  obtain ⟨-, idle⟩ | running := expects.stands manned.housed
  · apply enabled_of_outside
    · cases position : before.scheduler.positions id <;>
        simp_all [IsIdle, WorkerPosition.isOut]
    · intro index running
      rw [running] at idle
      exact idle.elim
  · exact manned.enabled running here onward outside

/-- A worker whose loop is now and then outside of sends and replies goes on, if
it always can from there. -/
theorem worker_goes_on
    (execution : Machine.Execution (machine workers Value State Frame))
    (fair : execution.Fair (Label.isOf id))
    {time : Nat}
    (manned :
      ∀ later, time ≤ later → Manned capacity (execution.states later))
    (released :
      ∀ later, time ≤ later →
        ∃ beyond, later ≤ beyond ∧
          OutsideSends id.val (execution.states beyond))
    (enabled :
      ∀ later, time ≤ later →
        OutsideSends id.val (execution.states later) →
        (∃ cell, (execution.states later).runtime.cells[id.val]? = some cell) ∧
          (machine workers Value State Frame).Enabled (execution.states later)
            (Label.isOf id)) :
    ∃ later, time ≤ later ∧ (execution.labels later).isOf id = true := by
  by_contra never
  obtain ⟨beyond, notBefore, outside⟩ := released time (le_refl time)
  -- a worker that does not step stays outside of the send
  have stays (later : Nat) (since : beyond ≤ later) :
      OutsideSends id.val (execution.states later) := by
    induction later, since using Nat.le_induction with
    | base => exact outside
    | succ later since inductionHypothesis =>
        have still := notBefore.trans since
        have other : (execution.labels later).isOf id = false :=
          Bool.eq_false_iff.mpr fun own => never ⟨later, still, own⟩
        obtain ⟨⟨cell, here⟩, -⟩ := enabled later still inductionHypothesis
        obtain ⟨extra, now⟩ :=
          (manned later still).step_cell_other (execution.valid later) other
            here
        intro found shown
        obtain rfl := Option.some.inj (now.symm.trans shown)
        exact inductionHypothesis cell here
  obtain ⟨later, since, own⟩ := fair beyond fun later since =>
    (enabled later (notBefore.trans since) (stays later since)).2
  exact never ⟨later, notBefore.trans since, own⟩

omit [NeZero workers] in
/-- What is shown before counts, too. -/
theorem CalledAfter.prepend
    {index taken : Nat}
    {log : List (RuntimeEvent Value)}
    (called : CalledAfter index ahead message log)
    (front : List (RuntimeEvent Value))
    (counted : front.countP (isTake index) = taken) :
    CalledAfter index (taken + ahead) message (front ++ log) := by
  obtain ⟨earlier, later, rfl, count⟩ := called
  refine ⟨front ++ earlier, later, by rw [List.append_assoc], ?_⟩
  rw [List.countP_append, counted, count, Nat.add_assoc]

/-- The loop of a waiting actor takes an envelope in the end, or its handler
panics, and what waits stays where it was until then. -/
theorem next_advance
    (execution : Machine.Execution (machine workers Value State Frame))
    (fair : execution.Fair (Label.isOf id))
    {time : Nat}
    (manned :
      ∀ later, time ≤ later → Manned capacity (execution.states later))
    (released :
      ∀ later, time ≤ later →
        ∃ beyond, later ≤ beyond ∧
          OutsideSends id.val (execution.states beyond))
    (terminates : actor.Terminates)
    (expects :
      Expects (execution.states time) id.val ahead actor envelope message) :
    ∃ gap,
      Advances id.val (execution.events (time + gap)) ∧
        Expects (execution.states (time + gap)) id.val ahead actor envelope
          message ∧
        (execution.log time gap).countP (isTake id.val) = 0 := by
  obtain ⟨later, notBefore, advances, waits, silent⟩ :
      ∃ later, time ≤ later ∧
        Advances id.val (execution.events later) ∧
        Expects (execution.states later) id.val ahead actor envelope
          message ∧
        ∀ moment, time ≤ moment → moment < later →
          ¬ Advances id.val (execution.events moment) := by
    apply execution.reaches
      (fun pool => Expects pool id.val ahead actor envelope message)
      (fun moment => Advances id.val (execution.events moment))
      (untilTake id) _
      (fun moment since waits =>
        worker_goes_on execution fair
          (fun later notBefore => manned later (since.trans notBefore))
          (fun later notBefore => released later (since.trans notBefore))
          fun later notBefore outside =>
            ⟨(waits later notBefore).waits.imp fun _ waits => waits.1,
              (waits later notBefore).enabled
                (manned later (since.trans notBefore)) outside⟩)
      expects
    intro moment since waits
    obtain service | ⟨other, -, stillWaits, same⟩ :=
      waits.step (manned moment since) terminates (execution.valid moment)
    · obtain advances | ⟨stillWaits, lower⟩ := service.advances
      · exact .inl advances
      · exact .inr ⟨stillWaits, lower.le, fun _ => lower⟩
    · refine .inr ⟨stillWaits, same.le, fun own => ?_⟩
      rw [other] at own
      cases own
  obtain ⟨gap, rfl⟩ := Nat.exists_eq_add_of_le notBefore
  refine ⟨gap, advances, waits, ?_⟩
  refine List.countP_eq_zero.mpr fun event shown take => ?_
  obtain ⟨moment, since, earlier, found⟩ := execution.mem_log shown
  refine silent moment since earlier (.inr ?_)
  cases event with
  | taken index first =>
      obtain rfl : index = id.val := eq_of_beq take
      exact ⟨first, found⟩
  | _ => cases take

/-- An envelope that waits comes forward until its handler is called on it, unless
a handler call panics before. -/
theorem expects_served
    (execution : Machine.Execution (machine workers Value State Frame))
    (fair : execution.Fair (Label.isOf id))
    {time : Nat}
    (manned :
      ∀ later, time ≤ later → Manned capacity (execution.states later))
    (released :
      ∀ later, time ≤ later →
        ∃ beyond, later ≤ beyond ∧
          OutsideSends id.val (execution.states beyond))
    (terminates : actor.Terminates)
    (expects :
      Expects (execution.states time) id.val ahead actor envelope message) :
    ∃ count,
      .panicked id.val ∈ execution.log time count ∨
        CalledAfter id.val ahead message (execution.log time count) ∧
          CalledOn (execution.states (time + count)) id actor envelope
            message := by
  induction ahead using Nat.strong_induction_on generalizing time with
  | h ahead inductionHypothesis =>
      obtain ⟨gap, advances, waits, untaken⟩ :=
        next_advance execution fair manned released terminates expects
      have notBefore := Nat.le_add_right time gap
      have step :
          execution.log time (gap + 1) =
            execution.log time gap ++ execution.events (time + gap) :=
        rfl
      obtain service | ⟨-, still, -⟩ :=
        waits.step (manned _ notBefore) terminates
          (execution.valid (time + gap))
      · generalize execution.events (time + gap) = events
          at service advances step
        cases service with
        | panicked =>
            refine ⟨gap + 1, .inl ?_⟩
            rw [step]
            exact List.mem_append_right _ List.mem_cons_self
        | called on =>
            refine ⟨gap + 1, .inr ⟨?_, on⟩⟩
            rw [step, ← Nat.zero_add 0]
            apply CalledAfter.prepend _ _ untaken
            exact ⟨[.taken id.val envelope], [], rfl, by simp [isTake]⟩
        | forward fewer _ waitsThen one =>
            have onward := notBefore.trans (Nat.le_succ (time + gap))
            obtain ⟨count, outcome⟩ :=
              inductionHypothesis fewer (Nat.lt_succ_self fewer)
                (fun later since => manned later (onward.trans since))
                (fun later since => released later (onward.trans since))
                waitsThen
            have whole :
                execution.log time (gap + 1 + count) =
                  (execution.log time gap ++ events) ++
                    execution.log (time + gap + 1) count := by
              rw [execution.log_add, step]
              rfl
            refine ⟨gap + 1 + count, ?_⟩
            rw [whole, Nat.add_comm fewer]
            rcases outcome with panicked | ⟨called, on⟩
            · exact .inl (List.mem_append_right _ panicked)
            · refine .inr ⟨called.prepend _ ?_, ?_⟩
              · rw [List.countP_append, untaken, one]
              · rw [← Nat.add_assoc, ← Nat.add_assoc]
                exact on
        | closer _ _ waitsThen still => exact absurd advances still
      · exact absurd advances still

/-- What is known at every moment of an execution that is never stopped. -/
theorem manned_of_execution
    {log : List (RuntimeEvent Value)}
    (execution : Machine.Execution (machine workers Value State Frame))
    {time : Nat}
    (reached :
      Machine.Run (machine workers Value State Frame)
        (withConfig workers Value State Frame capacity) log
        (execution.states time))
    (unstopped :
      ∀ later, time ≤ later →
        (execution.states later).runtime.stop = false ∧
          (execution.states later).runtime.cells.length ≤ workers)
    (later : Nat)
    (since : time ≤ later) :
    Manned capacity (execution.states later) := by
  obtain ⟨count, rfl⟩ := Nat.exists_eq_add_of_le since
  exact ⟨⟨_, reached.append (execution.run time count)⟩,
    (unstopped _ since).1, (unstopped _ since).2⟩

/--
While the stop flag is not set and there are as many workers as actors, every
message that waits is served in its turn, or its actor panics before: if no worker
is left alone for ever, the handler calls of its actor end, and nobody keeps its
actor inside of a send or a reply for ever.
-/
theorem waiting_served
    {index : Nat}
    {log : List (RuntimeEvent Value)}
    (execution : Machine.Execution (machine workers Value State Frame))
    (fair : ∀ id, execution.Fair (Label.isOf id))
    {time : Nat}
    (reached :
      Machine.Run (machine workers Value State Frame)
        (withConfig workers Value State Frame capacity) log
        (execution.states time))
    (unstopped :
      ∀ later, time ≤ later →
        (execution.states later).runtime.stop = false ∧
          (execution.states later).runtime.cells.length ≤ workers)
    (released :
      ∀ later, time ≤ later →
        ∃ beyond, later ≤ beyond ∧
          OutsideSends index (execution.states beyond))
    (terminates :
      ∀ cell,
        (execution.states time).runtime.cells[index]? = some cell →
        cell.actor.Terminates)
    (waiting : (execution.states time).Waiting index ahead message) :
    ∃ count,
      .panicked index ∈ execution.log time count ∨
        CalledAfter index ahead message (execution.log time count) := by
  obtain ⟨unclaimed, cell, envelope, here, running, queued, typed⟩ := waiting
  have within := (List.getElem?_eq_some_iff.mp here).1
  have enough := (unstopped time (le_refl time)).2
  obtain ⟨id, rfl⟩ : ∃ id : Fin workers, index = id.val :=
    ⟨⟨index, within.trans_le enough⟩, rfl⟩
  obtain ⟨count, outcome⟩ :=
    expects_served execution (fair id)
      (manned_of_execution execution reached unstopped) released
      (terminates cell here)
      ⟨unclaimed, typed, cell, here, rfl, running, queued⟩
  exact ⟨count, outcome.imp_right fun served => served.1⟩

/-- One actor with two messages, the first of a foreign type. -/
def behindForeign : List (Label 1 Unit Unit Unit) :=
  [.spawn Runtime.idle (), .push 0, .client (.send ⟨1⟩ ⟨1, ()⟩),
    .client (.send ⟨1⟩ ⟨0, ()⟩)]

/-- The worker enters the loop, which skips the first message, handles the other
and finds its mailbox empty. -/
def skipsAndHandles (only : Fin 1) : List (Label 1 Unit Unit Unit) :=
  [.worker only, .worker only, .loop only 0, .loop only 0, .loop only 0,
    .loop only 0, .loop only 0, .loop only 0, .loop only 0, .loop only 0]

/-- The loop goes round and receives nothing. -/
def timesOut (only : Fin 1) : List (Label 1 Value State Frame) :=
  [.loop only 0, .loop only 0]

theorem run?_timesOut
    {pool : ActorPool 1 Value State Frame}
    {cell : ActorCell Value State Frame}
    (running : pool.scheduler.positions 0 = .running 0)
    (unstopped : pool.runtime.stop = false)
    (cells : pool.runtime.cells = [cell])
    (position : cell.position = .top)
    (empty : cell.mailbox = [])
    (fresh : cell.reductions = 0) :
    (machine 1 Value State Frame).run? pool (timesOut 0) =
      some (pool, [.timedOut 0]) := by
  have here : pool.runtime.cells[0]? = some cell := by simp [cells]
  have checks :
      (machine 1 Value State Frame).step? pool (.loop 0 0) =
        some ({ pool with runtime := pool.runtime.moveTo 0 .receiving }, []) := by
    rw [loop_step 0 running here (by simp [position])]
    simp [Runtime.loopStep?, here, position, unstopped]
  have receives :
      (machine 1 Value State Frame).step?
          { pool with runtime := pool.runtime.moveTo 0 .receiving }
          (.loop 0 0) =
        some (pool, [.timedOut 0]) := by
    have moved :
        (pool.runtime.moveTo 0 .receiving).cells[0]? =
          some { cell with position := .receiving } :=
      Runtime.modifyCell_here _ here
    have same :
        (pool.runtime.moveTo 0 .receiving).modifyCell 0
            (fun cell => { cell with reductions := 0, position := .top }) =
          pool.runtime := by
      have unchanged :
          (pool.runtime.cells.modify 0 fun cell =>
              { cell with position := .receiving }).modify 0
            (fun cell => { cell with reductions := 0, position := .top }) =
            pool.runtime.cells := by
        rw [cells]
        obtain ⟨id, actor, state, mailbox, sender, reductions, place⟩ := cell
        obtain rfl : place = .top := position
        obtain rfl : reductions = 0 := fresh
        rfl
      simp only [Runtime.moveTo, Runtime.modifyCell, unchanged]
    have stillRuns :
        ({ pool with runtime := pool.runtime.moveTo 0 .receiving } :
          ActorPool 1 Value State Frame).scheduler.positions 0 =
          .running 0 := running
    refine (loop_step 0 stillRuns moved (by simp)).trans ?_
    simp [Runtime.loopStep?, moved, empty, same]
  simp [timesOut, Machine.run?, checks, receives]

theorem waiting_served_behindForeign :
    ∃ (execution : Machine.Execution (machine 1 Unit Unit Unit)) (log : _),
      (machine 1 Unit Unit Unit).run? (withConfig 1 Unit Unit Unit 10)
          behindForeign = some (execution.states 0, log) ∧
        ∃ count,
          .panicked 0 ∈ execution.log 0 count ∨
            CalledAfter 0 1 () (execution.log 0 count) := by
  obtain ⟨pool, log, final, later, cell, executed, onward, round, good, here,
      actor, place, queued, claims⟩ :
      ∃ pool log final later cell,
        (machine 1 Unit Unit Unit).run? (withConfig 1 Unit Unit Unit 10)
            behindForeign = some (pool, log) ∧
          (machine 1 Unit Unit Unit).run? pool (skipsAndHandles 0) =
            some (final, later) ∧
          (machine 1 Unit Unit Unit).run? final (timesOut 0) =
            some (final, [.timedOut 0]) ∧
          (∀ step ∈ (machine 1 Unit Unit Unit).taken pool (skipsAndHandles 0) ++
              (machine 1 Unit Unit Unit).taken final (timesOut 0),
            (step.1.runtime.stop = false ∧
              step.1.runtime.cells.length ≤ 1) ∧
                OutsideSends 0 step.1) ∧
          pool.runtime.cells[0]? = some cell ∧
          cell.actor = Runtime.idle ∧
          cell.position = .queued ∧
          cell.mailbox[1]? = some (.message ⟨0, ()⟩) ∧
          pool.scheduler.claims = [] :=
    ⟨_, _, _, _, _, rfl, rfl, run?_timesOut rfl rfl rfl rfl rfl rfl, by decide,
      rfl, rfl, rfl, rfl, rfl⟩
  obtain ⟨execution, rfl, -, among, fair⟩ :=
    Machine.Execution.exists_of_lasso (skipsAndHandles 0) onward (timesOut 0)
      (List.cons_ne_nil _ _) round
  have fairly (id : Fin 1) : execution.Fair (Label.isOf id) := by
    obtain rfl : id = 0 := Subsingleton.elim id 0
    exact (fair _ _ (.inl rfl)).fair
  have terminates : Actor.Terminates Runtime.idle := fun state message =>
    .intro _ fun next goes => by cases goes <;> contradiction
  have waiting : (execution.states 0).Waiting 0 1 () := by
    refine ⟨by simp [claims], cell, _, here, ?_, queued, ?_⟩
    · rw [place]
      rfl
    · rw [actor]
      rfl
  refine ⟨execution, log, executed, ?_⟩
  apply waiting_served execution fairly (Machine.run?_sound _ executed) _ _ _
    waiting
  · exact fun moment _ => (good _ (among moment)).1
  · exact fun moment _ =>
      ⟨moment, le_refl moment, (good _ (among moment)).2⟩
  · intro other found
    obtain rfl : cell = other := Option.some.inj (here.symm.trans found)
    rw [actor]
    exact terminates

end ActorPool

end Runact
