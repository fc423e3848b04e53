import Runact.MessageService
import Runact.ReplyChannels

namespace Runact

/-!
# Accepted requests are answered

An actor whose handler replies before it returns answers every request that is in
its mailbox, where waiting messages are served: the reply is the one its handler
makes on that very message, and it is put in the channel of that very request.
-/

universe u

variable {Value State Frame : Type u} {workers : Nat}

/-- The handler call on a message comes to a control point without a reply. -/
def Actor.Unreplied
    (actor : Actor Value State Frame)
    (state : State)
    (message : Value) : Frame → Prop :=
  Relation.ReflTransGen
    (fun before after =>
      actor.GoesOn before after ∧
        ∀ reply resume, actor.next before ≠ .reply reply resume)
    (actor.handle state message)

/-- No handler call returns before it has replied. -/
def Actor.AlwaysReplies (actor : Actor Value State Frame) : Prop :=
  ∀ state message frame,
    actor.Unreplied state message frame →
    ∀ after, actor.next frame ≠ .returns after

theorem Actor.Unreplied.comesTo
    {actor : Actor Value State Frame}
    {state : State}
    {message : Value}
    {frame : Frame}
    (unreplied : actor.Unreplied state message frame) :
    actor.ComesTo state message frame :=
  Relation.ReflTransGen.mono (fun _ _ goes => goes.1) _ _ unreplied

/-- Inside of the handler call on a request that is not replied to yet. -/
def LoopPosition.Owes
    (actor : Actor Value State Frame)
    (state : State)
    (message : Value)
    (channel : Nat) : LoopPosition Value Frame → Prop
  | .handling _ frame => actor.Unreplied state message frame
  | .sending _ _ _ resume =>
      ∃ frame target sent,
        actor.Unreplied state message frame ∧
          actor.next frame = .sendTo target sent resume
  | .replying _ on reply resume =>
      on = channel ∧
        ∃ frame,
          actor.Unreplied state message frame ∧
            actor.next frame = .reply reply resume
  | _ => False

namespace ActorPool

variable [NeZero workers]
  {before after : ActorPool workers Value State Frame}
  {label : Label workers Value State Frame}
  {events : List (RuntimeEvent Value)}
  {capacity channel : Nat} {id : Fin workers}
  {actor : Actor Value State Frame} {state : State} {message : Value}

/-! ## A call that has not replied yet -/

/-- The worker is inside of a call on a request that is not replied to yet. -/
structure Owes
    (pool : ActorPool workers Value State Frame)
    (id : Fin workers)
    (actor : Actor Value State Frame)
    (state : State)
    (message : Value)
    (channel : Nat) : Prop where
  running : pool.scheduler.positions id = .running id.val
  inside :
    ∃ cell,
      pool.runtime.cells[id.val]? = some cell ∧
        cell.actor = actor ∧
        cell.replySender = some channel ∧
        cell.position.Owes actor state message channel

/-- What is left of the handler call the worker is inside of. -/
noncomputable def callRest
    (id : Fin workers)
    (pool : ActorPool workers Value State Frame) : Ordinal.{u} :=
  (pool.runtime.cells[id.val]?).elim 0 fun cell =>
    cell.position.depth cell.actor

/-- The call replies, its handler panics, or there is nobody to reply to. -/
def Settles
    (id : Fin workers)
    (actor : Actor Value State Frame)
    (state : State)
    (message : Value)
    (channel : Nat)
    (events : List (RuntimeEvent Value))
    (after : ActorPool workers Value State Frame) : Prop :=
  .panicked id.val ∈ events ∨
    (∃ reply,
      actor.Replies state message reply ∧
        .replied id.val channel reply ∈ events) ∨
    after.runtime.HandleDropped channel

/-- The steps of others leave the call where it is. -/
theorem Owes.other
    (owes : Owes before id actor state message channel)
    (manned : Manned capacity before)
    (step :
      (machine workers Value State Frame).step? before label =
        some (after, events))
    (other : label.isOf id = false) :
    Owes after id actor state message channel ∧
      callRest id after = callRest id before := by
  obtain ⟨running, cell, here, same, sender, owing⟩ := owes
  obtain ⟨extra, now⟩ := manned.step_cell_other step other here
  refine ⟨⟨?_, _, now, same, sender, owing⟩, ?_⟩
  · exact (step_positions_other step other).trans running
  · rw [callRest, callRest, now, here]
    rfl

/-- A step of the call settles it, or leaves less of it. -/
theorem Owes.loop
    (owes : Owes before id actor state message channel)
    (manned : Manned capacity before)
    (terminates : actor.Terminates)
    (replies : actor.AlwaysReplies)
    {answer : Nat}
    (step :
      (machine workers Value State Frame).step? before (.loop id answer) =
        some (after, events)) :
    Settles id actor state message channel events after ∨
      Owes after id actor state message channel ∧
        callRest id after < callRest id before := by
  obtain ⟨running, cell, here, rfl, sender, owing⟩ := owes
  obtain ⟨index, own, runs, found, moved, leaves⟩ := step_loop step
  obtain rfl : id.val = index :=
    WorkerPosition.running.inj (running.symm.trans runs)
  obtain rfl : cell = own := Option.some.inj (here.symm.trans found)
  have stillRuns : after.scheduler.positions id = .running id.val := by
    generalize cell.position = place at leaves owing
    generalize after.scheduler = scheduler at leaves ⊢
    cases leaves with
    | stays => exact running
    | returns | unwinds => exact owing.elim
  have settles : cell.position.Settles cell.actor := by
    obtain ⟨log, run⟩ := manned.reached
    obtain ⟨initial, -, serial⟩ :=
      Runtime.run_serial (run_inRuntime run) id.val cell here
    exact ActorCell.settles_of_serial terminates serial
  have goesOn
      {next : ActorCell Value State Frame}
      (now : after.runtime.cells[id.val]? = some next)
      (same : next.actor = cell.actor)
      (stillSender : next.replySender = cell.replySender)
      (stillOwing : next.position.Owes cell.actor state message channel)
      (moves : LoopPosition.Moves cell.actor cell.position next.position) :
      Settles id cell.actor state message channel events after ∨
        Owes after id cell.actor state message channel ∧
          callRest id after < callRest id before := by
    refine .inr
      ⟨⟨stillRuns, next, now, same, stillSender.trans sender, stillOwing⟩, ?_⟩
    rw [callRest, callRest, now, here, Option.elim_some, Option.elim_some, same]
    exact moves.depth_lt settles
  have nobody
      {reply : ReplyChannel Value}
      (there : after.runtime.replies[channel]? = some reply)
      (gone : reply.handleAlive = false) :
      Settles id cell.actor state message channel events after :=
    .inr (.inr ⟨reply.buffer, by rw [there, ← gone]⟩)
  obtain ⟨same, again, effect⟩ := Runtime.loopStep_cases moved
  obtain rfl : cell = same := Option.some.inj (here.symm.trans again)
  generalize after.runtime = runtime at effect goesOn nobody
  cases effect with
  | started shape | checked shape | emptied shape queue | timedOut shape queue =>
      rw [shape] at owing
      exact owing.elim
  | called draining first rest on shape queue typed
  | skipped draining first rest reductions yields shape queue foreign shown =>
      rw [shape] at owing
      cases draining <;> exact owing.elim
  | dropped shape =>
      rcases shape with shape | shape <;>
        · rw [shape] at owing
          exact owing.elim
  | returned draining frame final reductions yields shape action shown =>
      rw [shape] at owing
      exact absurd action (replies state message frame owing final)
  | panicked draining frame shape action =>
      exact .inl (.inl List.mem_cons_self)
  | sendRefused draining frame target sent resume shape action missing =>
      rw [shape] at owing
      refine goesOn (Runtime.modifyCell_here _ here) rfl rfl ?_ ?_
      · exact owing.tail ⟨.sendTo _ action, by simp [action]⟩
      · rw [shape]
        exact .goesOn (.sendTo _ action)
  | sendStarted draining frame target sent resume receiver shape action listed =>
      rw [shape] at owing
      refine goesOn (Runtime.modifyCell_here _ here) rfl rfl ?_ ?_
      · exact ⟨frame, target, sent, owing, action⟩
      · rw [shape]
        exact .sends receiver _ action
  | sent draining receiver envelope resume delivered shape accepted =>
      rw [shape] at owing
      obtain ⟨frame, target, sent, unreplied, action⟩ := owing
      obtain ⟨extra, extended, -⟩ := Runtime.OnlyExtended.offered accepted here
      refine goesOn (Runtime.modifyCell_here _ extended) rfl rfl ?_ ?_
      · exact unreplied.tail ⟨.sendTo _ action, by simp [action]⟩
      · rw [shape]
        exact .sent _
  | sendFailed draining receiver envelope resume shape disconnected =>
      rw [shape] at owing
      obtain ⟨frame, target, sent, unreplied, action⟩ := owing
      refine goesOn (Runtime.modifyCell_here _ here) rfl rfl ?_ ?_
      · exact unreplied.tail ⟨.sendTo _ action, by simp [action]⟩
      · rw [shape]
        exact .sent _
  | replyIgnored draining frame reply resume shape action none =>
      rw [none] at sender
      cases sender
  | replyStarted draining frame reply resume on shape action kept =>
      rw [shape] at owing
      obtain rfl : on = channel := Option.some.inj (kept.symm.trans sender)
      refine goesOn (Runtime.modifyCell_here _ here) rfl rfl ?_ ?_
      · exact ⟨rfl, frame, owing, action⟩
      · rw [shape]
        exact .replies on action
  | replied draining on reply resume shape empty =>
      rw [shape] at owing
      obtain ⟨rfl, frame, unreplied, action⟩ := owing
      exact .inl (.inr (.inl
        ⟨reply, ⟨frame, resume, unreplied.comesTo, action⟩,
          List.mem_cons_self⟩))
  | replyFailed draining on reply resume buffer shape found gone =>
      rw [shape] at owing
      obtain ⟨rfl, -⟩ := owing
      exact .inl (nobody found gone)
  | askedIsRequest draining frame resume shape action =>
      rw [shape] at owing
      refine goesOn (Runtime.modifyCell_here _ here) rfl rfl ?_ ?_
      · exact owing.tail ⟨.isRequest _ action, by simp [action]⟩
      · rw [shape]
        exact .goesOn (.isRequest _ action)
  | computed draining frame resume answer shape action =>
      rw [shape] at owing
      refine goesOn (Runtime.modifyCell_here _ here) rfl rfl ?_ ?_
      · exact owing.tail ⟨.other _ action, by simp [action]⟩
      · rw [shape]
        exact .goesOn (.other _ action)

/-- Every step settles the call or leaves it as it is, and a step of its own
leaves less of it. -/
theorem Owes.step
    (owes : Owes before id actor state message channel)
    (manned : Manned capacity before)
    (terminates : actor.Terminates)
    (replies : actor.AlwaysReplies)
    (step :
      (machine workers Value State Frame).step? before label =
        some (after, events)) :
    Settles id actor state message channel events after ∨
      Owes after id actor state message channel ∧
        callRest id after ≤ callRest id before ∧
        (label.isOf id = true → callRest id after < callRest id before) := by
  cases own : label.isOf id with
  | false =>
      obtain ⟨stillOwes, same⟩ := owes.other manned step own
      exact .inr ⟨stillOwes, same.le, fun own => by cases own⟩
  | true =>
      cases label with
      | worker other =>
          obtain rfl : other = id := eq_of_beq own
          obtain ⟨scheduler, shown, moved, -, -⟩ := step_worker step
          have running := owes.running
          cases moved <;> simp_all
      | loop other answer =>
          obtain rfl : other = id := eq_of_beq own
          obtain settled | ⟨stillOwes, lower⟩ :=
            owes.loop manned terminates replies step
          · exact .inl settled
          · exact .inr ⟨stillOwes, lower.le, fun _ => lower⟩
      | _ => cases own

omit [NeZero workers] in
/-- A call on a request starts without a reply. -/
theorem CalledOn.owes
    {envelope : MessageEnvelope Value}
    (called : CalledOn before id actor envelope message)
    (asked : envelope.replySender = some channel) :
    ∃ state, Owes before id actor state message channel := by
  obtain ⟨running, cell, draining, here, same, sender, position⟩ := called
  refine ⟨cell.state, running, cell, here, same, sender.trans asked, ?_⟩
  rw [position]
  exact Relation.ReflTransGen.refl

/-! ## Fair executions -/

/-- The call settles, if nobody keeps its loop inside of a send or a reply for
ever. -/
theorem owes_settled
    (execution : Machine.Execution (machine workers Value State Frame))
    (fair : execution.Fair (Label.isOf id))
    {time : Nat}
    (manned :
      ∀ later, time ≤ later → Manned capacity (execution.states later))
    (released :
      ∀ later, time ≤ later →
        ∃ beyond, later ≤ beyond ∧
          OutsideSends id.val (execution.states beyond))
    (terminates : actor.Terminates)
    (replies : actor.AlwaysReplies)
    (owes : Owes (execution.states time) id actor state message channel) :
    ∃ gap,
      Settles id actor state message channel (execution.events (time + gap))
        (execution.states (time + gap + 1)) := by
  obtain ⟨later, notBefore, settled, -⟩ :
      ∃ later, time ≤ later ∧
        Settles id actor state message channel (execution.events later)
          (execution.states (later + 1)) ∧
        Owes (execution.states later) id actor state message channel ∧
        ∀ moment, time ≤ moment → moment < later →
          ¬ Settles id actor state message channel (execution.events moment)
            (execution.states (moment + 1)) := by
    apply execution.reaches
      (fun pool => Owes pool id actor state message channel)
      (fun moment =>
        Settles id actor state message channel (execution.events moment)
          (execution.states (moment + 1)))
      (callRest id)
      (fun moment since owes =>
        owes.step (manned moment since) terminates replies
          (execution.valid moment))
      _ owes
    intro moment since owes
    apply worker_goes_on execution fair
      (fun later notBefore => manned later (since.trans notBefore))
      (fun later notBefore => released later (since.trans notBefore))
    intro later notBefore outside
    obtain ⟨running, cell, here, -, -, owing⟩ := owes later notBefore
    refine ⟨⟨cell, here⟩, ?_⟩
    apply (manned later (since.trans notBefore)).enabled running here _ outside
    cases position : cell.position with
    | leaving | unwinding | ended =>
        rw [position] at owing
        exact owing.elim
    | _ => rfl
  obtain ⟨gap, rfl⟩ := Nat.exists_eq_add_of_le notBefore
  exact ⟨gap, settled⟩

/--
While the stop flag is not set and there are as many workers as actors, every
request that waits in the mailbox of an actor that always replies is replied to on
its own channel, with a reply its handler makes to its message, unless the actor
panics before or the requester has dropped its handle: if no worker is left alone
for ever, the handler calls of the actor end, and nobody keeps the actor inside of
a send or a reply for ever.
-/
theorem request_answered
    {index ahead : Nat}
    {envelope : MessageEnvelope Value}
    {log : List (RuntimeEvent Value)}
    (execution : Machine.Execution (machine workers Value State Frame))
    (fair : ∀ id, execution.Fair (Label.isOf id))
    {time : Nat}
    (reached :
      Machine.Run (machine workers Value State Frame)
        (withConfig workers Value State Frame capacity) log
        (execution.states time))
    (unstopped :
      ∀ later, time ≤ later →
        (execution.states later).runtime.stop = false ∧
          (execution.states later).runtime.cells.length ≤ workers)
    (released :
      ∀ later, time ≤ later →
        ∃ beyond, later ≤ beyond ∧
          OutsideSends index (execution.states beyond))
    (terminates : actor.Terminates)
    (replies : actor.AlwaysReplies)
    (waits :
      Expects (execution.states time) index ahead actor envelope message)
    (asked : envelope.replySender = some channel) :
    ∃ count,
      .panicked index ∈ execution.log time count ∨
        (∃ state reply,
          actor.Replies state message reply ∧
            .replied index channel reply ∈ execution.log time count) ∨
        (execution.states (time + count)).runtime.HandleDropped channel := by
  have manned := manned_of_execution execution reached unstopped
  obtain ⟨cell, here, -⟩ := waits.waits
  have within := (List.getElem?_eq_some_iff.mp here).1
  have enough := (unstopped time (le_refl time)).2
  obtain ⟨id, rfl⟩ : ∃ id : Fin workers, index = id.val :=
    ⟨⟨index, within.trans_le enough⟩, rfl⟩
  obtain ⟨count, panicked | ⟨-, called⟩⟩ :=
    expects_served execution (fair id) manned released terminates waits
  · exact ⟨count, .inl panicked⟩
  · obtain ⟨state, owes⟩ := called.owes asked
    have notBefore := Nat.le_add_right time count
    obtain ⟨gap, settled⟩ :=
      owes_settled execution (fair id)
        (fun later since => manned later (notBefore.trans since))
        (fun later since => released later (notBefore.trans since))
        terminates replies owes
    rw [Nat.add_assoc time] at settled
    have shown (event : RuntimeEvent Value)
        (newest : event ∈ execution.events (time + (count + gap))) :
        event ∈ execution.log time (count + gap + 1) :=
      List.mem_append_right _ newest
    refine ⟨count + gap + 1, ?_⟩
    obtain panicked | ⟨reply, made, replied⟩ | dropped := settled
    · exact .inl (shown _ panicked)
    · exact .inr (.inl ⟨state, reply, made, shown _ replied⟩)
    · exact .inr (.inr dropped)

/-- An actor that replies to every message and returns. -/
def echo : Actor Unit Unit Bool where
  messageType := 0
  handle _ _ := false
  next
    | false => .reply ⟨0, ()⟩ fun _ => true
    | true => .returns ()

theorem echo_terminates : echo.Terminates := by
  have returned : Acc (fun next frame => echo.GoesOn frame next) true :=
    .intro _ fun next goes => by cases goes <;> contradiction
  intro state message
  refine .intro _ fun next goes => ?_
  cases goes with
  | reply result action =>
      obtain ⟨-, rfl⟩ := HandlerAction.reply.inj action
      exact returned
  | sendTo | isRequest | other => contradiction

theorem echo_alwaysReplies : echo.AlwaysReplies := by
  intro state message frame unreplied
  suffices atReply : frame = false by
    subst atReply
    exact fun after action => by cases action
  induction unreplied with
  | refl => rfl
  | tail earlier last inductionHypothesis =>
      subst inductionHypothesis
      exact absurd rfl (last.2 _ _)

/-- An actor with a request in its mailbox. -/
def askEcho : List (Label 1 Unit Unit Bool) :=
  [.spawn echo (), .push 0, .client .claimRequest,
    .client (.request 0 ⟨1⟩ ⟨0, ()⟩)]

/-- The worker enters the loop, which replies and finds its mailbox empty. -/
def echoReplies (only : Fin 1) : List (Label 1 Unit Unit Bool) :=
  [.worker only, .worker only, .loop only 0, .loop only 0, .loop only 0,
    .loop only 0, .loop only 0, .loop only 0, .loop only 0, .loop only 0]

theorem request_answered_askEcho :
    ∃ (execution : Machine.Execution (machine 1 Unit Unit Bool)) (log : _),
      (machine 1 Unit Unit Bool).run? (withConfig 1 Unit Unit Bool 10)
          askEcho = some (execution.states 0, log) ∧
        ∃ count,
          .panicked 0 ∈ execution.log 0 count ∨
            (∃ state reply,
              echo.Replies state () reply ∧
                .replied 0 0 reply ∈ execution.log 0 count) ∨
            (execution.states (0 + count)).runtime.HandleDropped 0 := by
  obtain ⟨pool, log, final, later, cell, executed, onward, round, good, here,
      same, place, queued, claims⟩ :
      ∃ pool log final later cell,
        (machine 1 Unit Unit Bool).run? (withConfig 1 Unit Unit Bool 10)
            askEcho = some (pool, log) ∧
          (machine 1 Unit Unit Bool).run? pool (echoReplies 0) =
            some (final, later) ∧
          (machine 1 Unit Unit Bool).run? final (timesOut 0) =
            some (final, [.timedOut 0]) ∧
          (∀ step ∈
              (machine 1 Unit Unit Bool).taken pool (echoReplies 0) ++
                (machine 1 Unit Unit Bool).taken final (timesOut 0),
            (step.1.runtime.stop = false ∧
              step.1.runtime.cells.length ≤ 1) ∧
                (OutsideSends 0 step.1 ∨
                  ∀ next ∈ (machine 1 Unit Unit Bool).step? step.1 step.2,
                    OutsideSends 0 next.1)) ∧
          pool.runtime.cells[0]? = some cell ∧
          cell.actor = echo ∧
          cell.position = .queued ∧
          cell.mailbox[0]? = some (.request 0 ⟨0, ()⟩ 0) ∧
          pool.scheduler.claims = [] :=
    ⟨_, _, _, _, _, rfl, rfl, run?_timesOut rfl rfl rfl rfl rfl rfl, by decide,
      rfl, rfl, rfl, rfl, rfl⟩
  obtain ⟨execution, rfl, -, among, fair⟩ :=
    Machine.Execution.exists_of_lasso (echoReplies 0) onward (timesOut 0)
      (List.cons_ne_nil _ _) round
  have fairly (id : Fin 1) : execution.Fair (Label.isOf id) := by
    obtain rfl : id = 0 := Subsingleton.elim id 0
    exact (fair _ _ (.inl rfl)).fair
  have waits :
      Expects (execution.states 0) 0 0 echo (.request 0 ⟨0, ()⟩ 0) () :=
    ⟨by simp [claims], rfl, cell, here, same, by rw [place]; rfl, queued⟩
  refine ⟨execution, log, executed, ?_⟩
  apply request_answered execution fairly (Machine.run?_sound _ executed) _ _
    echo_terminates echo_alwaysReplies waits rfl
  · exact fun moment _ => (good _ (among moment)).1
  · intro moment _
    obtain outside | released := (good _ (among moment)).2
    · exact ⟨moment, le_refl moment, outside⟩
    · exact ⟨moment + 1, Nat.le_succ moment,
        released _ (execution.valid moment)⟩

end ActorPool

end Runact
