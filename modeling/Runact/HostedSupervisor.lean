import Runact.SupervisorStatus
import Runact.SerialActors

namespace Runact

/-!
# The supervisor as an actor of the runtime

`SupervisorActor` is spawned like any other actor, told of its children by
messages, and asked for their status by a request.  Its handler reads the clock
in the middle of a crash, and panics where an arithmetic operation does.  Hosted
in a runtime it does what the supervisor machine does, message by message, and
`GetStatus` is answered with the children as the messages accepted before the
request have left them.

A runtime has one type of states and one of frames for all its actors; an actor
with types of its own is hosted along two embeddings.
-/

universe u

/-- A type inside another one, with a way back. -/
structure Retract (Inner Outer : Type u) where
  embed : Inner → Outer
  project : Outer → Inner
  project_embed : ∀ inner, project (embed inner) = inner

namespace HandlerAction

variable {Value State Frame Outer OuterFrame : Type u}

/-- The same action, of a handler with other states and frames. -/
def map
    (onState : State → Outer)
    (onFrame : Frame → OuterFrame) :
    HandlerAction Value State Frame → HandlerAction Value Outer OuterFrame
  | .returns state => .returns (onState state)
  | .panics => .panics
  | .sendTo target message resume =>
      .sendTo target message fun result => onFrame (resume result)
  | .reply message resume => .reply message fun result => onFrame (resume result)
  | .isRequest resume => .isRequest fun answer => onFrame (resume answer)
  | .other resume => .other fun answer => onFrame (resume answer)

end HandlerAction

namespace Actor

variable {Value State Frame Outer OuterFrame : Type u}

/-- An actor among actors with other states and frames. -/
def hosted
    (actor : Actor Value State Frame)
    (states : Retract State Outer)
    (frames : Retract Frame OuterFrame) : Actor Value Outer OuterFrame where
  messageType := actor.messageType
  handle state message :=
    frames.embed (actor.handle (states.project state) message)
  next frame :=
    (actor.next (frames.project frame)).map states.embed frames.embed

section Hosted

variable {actor : Actor Value State Frame} {states : Retract State Outer}
  {frames : Retract Frame OuterFrame}

theorem hosted_next (frame : Frame) :
    (actor.hosted states frames).next (frames.embed frame) =
      (actor.next frame).map states.embed frames.embed := by
  simp only [hosted, frames.project_embed]

/-- A hosted handler goes on as the handler does. -/
theorem goesOn_of_hosted
    {frame : Frame}
    {after : OuterFrame}
    (goes : (actor.hosted states frames).GoesOn (frames.embed frame) after) :
    ∃ next, after = frames.embed next ∧ actor.GoesOn frame next := by
  cases goes with
  | sendTo result action =>
      rw [hosted_next] at action
      cases own : actor.next frame <;> rw [own] at action <;> cases action
      exact ⟨_, rfl, .sendTo result own⟩
  | reply result action =>
      rw [hosted_next] at action
      cases own : actor.next frame <;> rw [own] at action <;> cases action
      exact ⟨_, rfl, .reply result own⟩
  | isRequest answer action =>
      rw [hosted_next] at action
      cases own : actor.next frame <;> rw [own] at action <;> cases action
      exact ⟨_, rfl, .isRequest answer own⟩
  | other answer action =>
      rw [hosted_next] at action
      cases own : actor.next frame <;> rw [own] at action <;> cases action
      exact ⟨_, rfl, .other answer own⟩

theorem comesTo_of_hosted
    {state : State}
    {message : Value}
    {after : OuterFrame}
    (comes :
      (actor.hosted states frames).ComesTo (states.embed state) message
        after) :
    ∃ frame, after = frames.embed frame ∧ actor.ComesTo state message frame := by
  induction comes with
  | refl =>
      refine ⟨actor.handle state message, ?_, .refl⟩
      simp only [hosted, states.project_embed]
  | tail earlier goes inductionHypothesis =>
      obtain ⟨frame, rfl, comes⟩ := inductionHypothesis
      obtain ⟨next, rfl, onward⟩ := goesOn_of_hosted goes
      exact ⟨next, rfl, comes.tail onward⟩

theorem returns_of_hosted
    {state : State}
    {message : Value}
    {after : Outer}
    (returns :
      (actor.hosted states frames).Returns (states.embed state) message
        after) :
    ∃ inner, after = states.embed inner ∧ actor.Returns state message inner := by
  obtain ⟨outer, comes, action⟩ := returns
  obtain ⟨frame, rfl, inside⟩ := comesTo_of_hosted comes
  rw [hosted_next] at action
  cases own : actor.next frame <;> rw [own] at action <;> cases action
  exact ⟨_, rfl, frame, inside, own⟩

theorem replies_of_hosted
    {state : State}
    {message : Value}
    {reply : AnyBox Value}
    (replies :
      (actor.hosted states frames).Replies (states.embed state) message
        reply) :
    actor.Replies state message reply := by
  obtain ⟨outer, resume, comes, action⟩ := replies
  obtain ⟨frame, rfl, inside⟩ := comesTo_of_hosted comes
  rw [hosted_next] at action
  cases own : actor.next frame <;> rw [own] at action <;> cases action
  exact ⟨frame, _, inside, own⟩

/-- A hosted actor serves messages as the actor does. -/
theorem serves_of_hosted
    {initial : State}
    {messages : List Value}
    {final : Outer}
    (serves :
      (actor.hosted states frames).Serves (states.embed initial) messages
        final) :
    ∃ inner,
      final = states.embed inner ∧ actor.Serves initial messages inner := by
  induction serves with
  | nil => exact ⟨initial, rfl, .nil⟩
  | snoc message earlier returns inductionHypothesis =>
      obtain ⟨inner, rfl, serves⟩ := inductionHypothesis
      obtain ⟨after, rfl, returned⟩ := returns_of_hosted returns
      exact ⟨after, rfl, .snoc message serves returned⟩

end Hosted

end Actor

/-! ## The handler of the supervisor -/

/-- The types of the supervisor as boxed values: its messages, and the lists it
replies with. -/
structure SupervisorBoxes (Value : Type) where
  messageType : TypeId
  message : Value → SupervisorMessage
  statuses : List ChildStatus → AnyBox Value

/-- The control points of `SupervisorActor::handle`.  Clock readings are counted
from the last one the supervisor has made. -/
inductive SupervisorFrame where
  | handling (state : Supervised) (message : SupervisorMessage)
  /-- `last.elapsed()` has read the clock. -/
  | elapsed (state : Supervised) (childId : ActorId) (entry : ChildEntry)
      (newRestartCount delay last now : Nat)
  /-- `Instant::now()` has read the clock. -/
  | restarting (state : Supervised) (childId : ActorId) (entry : ChildEntry)
      (newRestartCount now : Nat)
  /-- `ctx.reply` has returned. -/
  | replied (state : Supervised)

namespace SupervisorActor

/-- The handling of a crash, up to the first look at the clock. -/
def crashAction
    {Value : Type}
    (state : Supervised)
    (childId : ActorId) : HandlerAction Value Supervised SupervisorFrame :=
  match state.supervisor.children.lookup childId with
  | none =>
      match state.supervisor.backoffDelay? 0 with
      | none => .panics
      | some _ => .returns state
  | some entry =>
      match incrementUsize entry.restartCount with
      | none => .panics
      | some newRestartCount =>
          match state.supervisor.backoffDelay? newRestartCount with
          | none => .panics
          | some delay =>
              if newRestartCount ≤ state.supervisor.maxRestarts then
                match entry.lastRestartAt with
                | some last =>
                    .other fun passed =>
                      .elapsed state childId entry newRestartCount delay last
                        (state.now + passed)
                | none =>
                    .other fun passed =>
                      .restarting state childId entry newRestartCount
                        (state.now + passed)
              else
                .returns
                  { state with
                    supervisor := state.supervisor.setEntry childId
                      { entry with
                        restartCount := newRestartCount, alive := false } }

/-- `impl Actor for SupervisorActor`. -/
def asActor
    {Value : Type}
    (boxes : SupervisorBoxes Value) :
    Actor Value Supervised SupervisorFrame where
  messageType := boxes.messageType
  handle state value := .handling state (boxes.message value)
  next
    | .handling state (.childStarted childId name) =>
        .returns
          { state with
            supervisor := state.supervisor.setEntry childId
              { name := name
                restartCount := 0
                alive := true
                lastRestartAt := none } }
    | .handling state (.childCrashed childId _) => crashAction state childId
    | .handling state .getStatus =>
        .reply (boxes.statuses state.supervisor.statuses)
          fun _ => .replied state
    | .elapsed state childId entry newRestartCount delay last now =>
        if now - last < delay then
          .returns
            { supervisor := state.supervisor.setEntry childId
                { entry with
                  restartCount := newRestartCount, alive := false }
              now := now }
        else
          .other fun passed =>
            .restarting state childId entry newRestartCount (now + passed)
    | .restarting state childId entry newRestartCount now =>
        .returns
          { supervisor := state.supervisor.setEntry childId
              { entry with
                restartCount := newRestartCount
                alive := true
                lastRestartAt := some now }
            now := now }
    | .replied state => .returns state

/-- Where a handler call can be, and what it has found out on the way. -/
inductive At (state : Supervised) :
    SupervisorMessage → SupervisorFrame → Prop where
  | handling (message : SupervisorMessage) :
      At state message (.handling state message)
  | elapsed
      (childId : ActorId) (reason : String) (entry : ChildEntry)
      (newRestartCount delay last passed : Nat) :
      state.supervisor.children.lookup childId = some entry →
      incrementUsize entry.restartCount = some newRestartCount →
      state.supervisor.backoffDelay? newRestartCount = some delay →
      newRestartCount ≤ state.supervisor.maxRestarts →
      entry.lastRestartAt = some last →
      At state (.childCrashed childId reason)
        (.elapsed state childId entry newRestartCount delay last
          (state.now + passed))
  | restarting
      (childId : ActorId) (reason : String) (entry : ChildEntry)
      (newRestartCount delay passed waited : Nat) :
      state.supervisor.children.lookup childId = some entry →
      incrementUsize entry.restartCount = some newRestartCount →
      state.supervisor.backoffDelay? newRestartCount = some delay →
      newRestartCount ≤ state.supervisor.maxRestarts →
      backoffPending entry.lastRestartAt (state.now + passed) delay = false →
      At state (.childCrashed childId reason)
        (.restarting state childId entry newRestartCount
          (state.now + passed + waited))
  | replied : At state .getStatus (.replied state)

section Hosted

variable {Value : Type} {boxes : SupervisorBoxes Value}

/-- What the handling of a crash does first, one rule for each branch. -/
inductive CrashAction
    (state : Supervised)
    (childId : ActorId) :
    HandlerAction Value Supervised SupervisorFrame → Prop where
  | ignored (delay : Nat) :
      state.supervisor.children.lookup childId = none →
      state.supervisor.backoffDelay? 0 = some delay →
      CrashAction state childId (.returns state)
  | panics :
      (∀ reason readings,
        state.supervisor.handle? (.childCrashed childId reason) readings =
          none) →
      CrashAction state childId .panics
  | waits (entry : ChildEntry) (newRestartCount delay last : Nat) :
      state.supervisor.children.lookup childId = some entry →
      incrementUsize entry.restartCount = some newRestartCount →
      state.supervisor.backoffDelay? newRestartCount = some delay →
      newRestartCount ≤ state.supervisor.maxRestarts →
      entry.lastRestartAt = some last →
      CrashAction state childId
        (.other fun passed =>
          .elapsed state childId entry newRestartCount delay last
            (state.now + passed))
  | restarts (entry : ChildEntry) (newRestartCount delay : Nat) :
      state.supervisor.children.lookup childId = some entry →
      incrementUsize entry.restartCount = some newRestartCount →
      state.supervisor.backoffDelay? newRestartCount = some delay →
      newRestartCount ≤ state.supervisor.maxRestarts →
      entry.lastRestartAt = none →
      CrashAction state childId
        (.other fun passed =>
          .restarting state childId entry newRestartCount
            (state.now + passed))
  | givesUp (entry : ChildEntry) (newRestartCount delay : Nat) :
      state.supervisor.children.lookup childId = some entry →
      incrementUsize entry.restartCount = some newRestartCount →
      state.supervisor.backoffDelay? newRestartCount = some delay →
      ¬ newRestartCount ≤ state.supervisor.maxRestarts →
      CrashAction state childId
        (.returns
          { state with
            supervisor := state.supervisor.setEntry childId
              { entry with
                restartCount := newRestartCount, alive := false } })

theorem crashAction_cases (state : Supervised) (childId : ActorId) :
    CrashAction state childId
      (crashAction state childId :
        HandlerAction Value Supervised SupervisorFrame) := by
  unfold crashAction
  cases registered : state.supervisor.children.lookup childId with
  | none =>
      cases computed : state.supervisor.backoffDelay? 0 with
      | none => exact .panics (by simp [handle?, registered, computed])
      | some delay => exact .ignored delay registered computed
  | some entry =>
      cases incremented : incrementUsize entry.restartCount with
      | none =>
          simp only [incremented]
          exact .panics (by simp [handle?, registered, incremented])
      | some count =>
          cases computed : state.supervisor.backoffDelay? count with
          | none =>
              simp only [incremented, computed]
              exact .panics
                (by simp [handle?, registered, incremented, computed])
          | some delay =>
              by_cases below : count ≤ state.supervisor.maxRestarts
              · cases restarted : entry.lastRestartAt with
                | none =>
                    simpa [incremented, computed, below, restarted] using
                      CrashAction.restarts entry count delay registered
                        incremented computed below restarted
                | some last =>
                    simpa [incremented, computed, below, restarted] using
                      CrashAction.waits entry count delay last registered
                        incremented computed below restarted
              · simpa [incremented, computed, below] using
                  CrashAction.givesUp entry count delay registered
                    incremented computed below

theorem crash_next
    (boxes : SupervisorBoxes Value)
    (state : Supervised)
    (childId : ActorId)
    (reason : String) :
    CrashAction state childId
      ((asActor boxes).next
        (.handling state (.childCrashed childId reason))) :=
  crashAction_cases state childId

/-- A handler call goes on from one of its control points to another one. -/
theorem At.goOn
    {state : Supervised}
    {message : SupervisorMessage}
    {frame next : SupervisorFrame}
    (here : At state message frame)
    (goes : (asActor boxes).GoesOn frame next) :
    At state message next := by
  cases here with
  | handling =>
      cases message with
      | childStarted childId name =>
          cases goes <;> rename_i action <;> cases action
      | getStatus =>
          cases goes <;> rename_i action <;> cases action
          exact .replied
      | childCrashed childId reason =>
          have branch := crash_next boxes state childId reason
          cases goes <;> rename_i action <;> rw [action] at branch <;>
            cases branch
          · exact .elapsed childId reason _ _ _ _ _ ‹_› ‹_› ‹_› ‹_› ‹_›
          · rename_i entry count delay registered incremented computed below
              never
            exact .restarting childId reason entry count delay _ 0 registered
              incremented computed below (by simp [never, backoffPending])
  | elapsed childId reason entry count delay last passed registered
      incremented computed below restarted =>
      cases goes <;> rename_i action <;> simp only [asActor] at action <;>
        split at action <;> cases action
      rename_i ready
      exact .restarting childId reason entry count delay passed _ registered
        incremented computed below (by simpa [restarted, backoffPending] using ready)
  | restarting => cases goes <;> rename_i action <;> cases action
  | replied => cases goes <;> rename_i action <;> cases action

/-- Every control point of a handler call is one of these. -/
theorem at_of_comesTo
    {state : Supervised}
    {value : Value}
    {frame : SupervisorFrame}
    (comes : (asActor boxes).ComesTo state value frame) :
    At state (boxes.message value) frame := by
  induction comes with
  | refl => exact .handling _
  | tail earlier goes inductionHypothesis => exact inductionHypothesis.goOn goes

/-- The readings of a handler call, made in this order. -/
def readings (first waited : Nat) : Readings where
  first := first
  second := first + waited
  ordered := Nat.le_add_right first waited

/-- What a handler call that returns has done is a step of the supervisor
machine. -/
theorem step_of_returns
    {state after : Supervised}
    {value : Value}
    (returns : (asActor boxes).Returns state value after) :
    ∃ delivery events,
      delivery.message = boxes.message value ∧
        Supervised.machine.step? state delivery = some (after, events) := by
  obtain ⟨frame, comes, action⟩ := returns
  have here := at_of_comesTo comes
  generalize boxes.message value = message at here ⊢
  cases here with
  | handling =>
      cases message with
      | childStarted childId name =>
          cases action
          exact ⟨⟨_, readings state.now 0⟩, _, rfl, by
            simp only [Supervised.machine, readings, le_refl, ↓reduceIte,
              handle?, Option.map_some, Nat.add_zero]; rfl⟩
      | getStatus => cases action
      | childCrashed childId reason =>
          have branch := crash_next boxes state childId reason
          rw [action] at branch
          cases branch with
          | ignored delay registered computed =>
              exact ⟨⟨_, readings state.now 0⟩, _, rfl, by
                simp only [Supervised.machine, readings, le_refl, ↓reduceIte,
                  handle?, registered, computed, Option.map_some,
                  Nat.add_zero]; rfl⟩
          | givesUp entry count delay registered incremented computed above =>
              exact ⟨⟨_, readings state.now 0⟩, _, rfl, by
                simp only [Supervised.machine, readings, le_refl, ↓reduceIte,
                  handle?, registered, incremented, computed, crashed, above,
                  Option.map_some, Nat.add_zero]; rfl⟩
  | elapsed childId reason entry count delay last passed registered
      incremented computed below restarted =>
      simp only [asActor] at action
      split at action <;> cases action
      rename_i early
      exact ⟨⟨_, readings (state.now + passed) 0⟩, _, rfl, by
        simp only [Supervised.machine, readings, Nat.le_add_right, ↓reduceIte,
          handle?, registered, incremented, computed, crashed, below,
          restarted, backoffPending, early, decide_true, Option.map_some,
          Nat.add_zero]; rfl⟩
  | restarting childId reason entry count delay passed waited registered
      incremented computed below ready =>
      cases action
      exact ⟨⟨_, readings (state.now + passed) waited⟩, _, rfl, by
        simp only [Supervised.machine, readings, Nat.le_add_right, ↓reduceIte,
          handle?, registered, incremented, computed, crashed, below, ready,
          Bool.false_eq_true, Option.map_some]; rfl⟩
  | replied =>
      cases action
      exact ⟨⟨_, readings state.now 0⟩, _, rfl, by
        simp only [Supervised.machine, readings, le_refl, ↓reduceIte, handle?,
          Option.map_some, Nat.add_zero]; rfl⟩

/-- A handler call panics only on a message the supervisor machine refuses. -/
theorem refused_of_panics
    {state : Supervised}
    {value : Value}
    {frame : SupervisorFrame}
    (comes : (asActor boxes).ComesTo state value frame)
    (action : (asActor boxes).next frame = .panics)
    (delivery : Delivery)
    (same : delivery.message = boxes.message value) :
    Supervised.machine.step? state delivery = none := by
  have here := at_of_comesTo comes
  obtain ⟨message, readings⟩ := delivery
  obtain rfl : message = boxes.message value := same
  generalize boxes.message value = message at here ⊢
  cases here with
  | handling =>
      cases message with
      | childStarted childId name => cases action
      | getStatus => cases action
      | childCrashed childId reason =>
          have branch := crash_next boxes state childId reason
          rw [action] at branch
          cases branch with
          | panics refuses => simp [Supervised.machine, refuses]
  | elapsed =>
      simp only [asActor] at action
      split at action <;> cases action
  | restarting => cases action
  | replied => cases action

/-- The supervisor replies to `GetStatus`, with its statuses. -/
theorem statuses_of_replies
    {state : Supervised}
    {value : Value}
    {reply : AnyBox Value}
    (replies : (asActor boxes).Replies state value reply) :
    boxes.message value = .getStatus ∧
      reply = boxes.statuses state.supervisor.statuses := by
  obtain ⟨frame, resume, comes, action⟩ := replies
  have here := at_of_comesTo comes
  generalize boxes.message value = message at here ⊢
  cases here with
  | handling =>
      cases message with
      | childStarted childId name => cases action
      | getStatus =>
          cases action
          exact ⟨rfl, rfl⟩
      | childCrashed childId reason =>
          have branch := crash_next boxes state childId reason
          rw [action] at branch
          cases branch
  | elapsed =>
      simp only [asActor] at action
      split at action <;> cases action
  | restarting => cases action
  | replied => cases action

/-- The supervisor machine on a list of messages, at some clock readings. -/
def Supervises
    (initial : Supervised)
    (messages : List SupervisorMessage)
    (final : Supervised) : Prop :=
  ∃ steps events,
    Machine.Trace Supervised.machine initial steps events final ∧
      Supervised.deliveredMessages steps = messages

/-- The supervisor actor serves messages as the supervisor machine does. -/
theorem supervises_of_serves
    {initial final : Supervised}
    {values : List Value}
    (serves : (asActor boxes).Serves initial values final) :
    Supervises initial (values.map boxes.message) final := by
  induction serves with
  | nil => exact ⟨[], [], .nil, rfl⟩
  | snoc value earlier returns inductionHypothesis =>
      obtain ⟨steps, events, trace, same⟩ := inductionHypothesis
      obtain ⟨delivery, shown, message, step⟩ := step_of_returns returns
      refine ⟨_, _, .snoc delivery trace step, ?_⟩
      rw [Supervised.deliveredMessages, List.map_append, List.map_append,
        ← same, List.map_singleton, List.map_singleton, ← message]
      rfl

end Hosted

end SupervisorActor

namespace Runtime

variable {Value State Frame : Type} {boxes : SupervisorBoxes Value}
  {states : Retract Supervised State} {frames : Retract SupervisorFrame Frame}
  {strategy : RestartStrategy} {now : Nat}

/--
A supervisor spawned in a runtime, among whatever other actors, does message by
message what the supervisor machine does: between two calls its state is one the
machine reaches on the messages it was called on, and its loop is unwound only
by a message the machine refuses there.
-/
theorem supervisor_hosted
    {spawned final : Runtime Value State Frame}
    {log : List (RuntimeEvent Value)}
    {index : Nat}
    {id : ActorId}
    (run : Machine.Run (machine Value State Frame) spawned log final)
    (born :
      spawned.cells[index]? =
        some (.new id ((SupervisorActor.asActor boxes).hosted states frames)
          (states.embed (.new strategy now)))) :
    ∃ cell,
      final.cells[index]? = some cell ∧
        (cell.position.isRunning = true →
          cell.position.stage ≠ .handling →
          ∃ supervised,
            cell.state = states.embed supervised ∧
              SupervisorActor.Supervises (.new strategy now)
                ((calledMessages index log).map boxes.message)
                supervised) ∧
        (cell.position = .unwinding →
          ∃ earlier message supervised,
            (calledMessages index log).map boxes.message =
                earlier ++ [message] ∧
              SupervisorActor.Supervises (.new strategy now) earlier
                supervised ∧
              ∀ delivery : Delivery,
                delivery.message = message →
                Supervised.machine.step? supervised delivery = none) := by
  obtain ⟨cell, here, sameActor, serial, -⟩ := actor_serial run born
  refine ⟨cell, here, fun running idle => ?_, fun unwinding => ?_⟩
  · have serves :
        ((SupervisorActor.asActor boxes).hosted states frames).Serves
          (states.embed (.new strategy now)) (calledMessages index log)
          cell.state := by
      rw [← sameActor]
      unfold ActorCell.Serial at serial
      cases position : cell.position <;>
        simp_all [LoopPosition.isRunning, LoopPosition.stage]
    obtain ⟨supervised, same, served⟩ := Actor.serves_of_hosted serves
    exact ⟨supervised, same, SupervisorActor.supervises_of_serves served⟩
  · simp only [ActorCell.Serial, unwinding, sameActor] at serial
    obtain ⟨outer, ⟨earlier, value, called, serves, comes⟩, action⟩ := serial
    obtain ⟨supervised, same, served⟩ := Actor.serves_of_hosted serves
    rw [same] at comes
    obtain ⟨frame, rfl, inside⟩ := Actor.comesTo_of_hosted comes
    rw [Actor.hosted_next] at action
    have panics : (SupervisorActor.asActor boxes).next frame = .panics := by
      cases own : (SupervisorActor.asActor boxes).next frame <;>
        rw [own] at action <;> cases action
    refine ⟨earlier.map boxes.message, boxes.message value, supervised, ?_,
      SupervisorActor.supervises_of_serves served,
      SupervisorActor.refused_of_panics inside panics⟩
    rw [called, List.map_append, List.map_singleton]

/-- The values of a runtime that hosts supervisors only. -/
abbrev SupervisionValue := SupervisorMessage ⊕ List ChildStatus

/-- Type zero is `SupervisorMessage`, type one is `Vec<ChildStatus>`. -/
def supervisionBoxes : SupervisorBoxes SupervisionValue where
  messageType := 0
  message
    | .inl message => message
    | .inr _ => .getStatus
  statuses statuses := ⟨1, .inr statuses⟩

/-- A type inside itself. -/
def itself (Inner : Type) : Retract Inner Inner := ⟨id, id, fun _ => rfl⟩

/-- The actor of `runtime.spawn(SupervisorActor::new(strategy))`. -/
def lonelySupervisor :
    Actor SupervisionValue Supervised SupervisorFrame :=
  (SupervisorActor.asActor supervisionBoxes).hosted (itself Supervised)
    (itself SupervisorFrame)

/-- The longest base backoff: the second repetition overflows. -/
def longBackoff : RestartStrategy := .oneForOne 5 0 maxDuration

/-- A child that crashes twice. -/
def crashTwice : List (Label SupervisionValue Supervised SupervisorFrame) :=
  [.send ⟨1⟩ ⟨0, .inl (.childStarted ⟨7⟩ "child")⟩,
    .send ⟨1⟩ ⟨0, .inl (.childCrashed ⟨7⟩ "first")⟩,
    .send ⟨1⟩ ⟨0, .inl (.childCrashed ⟨7⟩ "second")⟩] ++
  List.replicate 11 (.loop 0 5)

/-- The first crash is handled, and the second unwinds the loop. -/
theorem supervisor_hosted_crashTwice :
    ∃ final log earlier message supervised,
      (machine _ _ _).run?
          ((withConfig _ _ _ 8).spawn lonelySupervisor (.new longBackoff 0)).1
          crashTwice = some (final, log) ∧
        (calledMessages 0 log).map supervisionBoxes.message =
            earlier ++ [message] ∧
        SupervisorActor.Supervises (.new longBackoff 0) earlier supervised ∧
        ∀ delivery : Delivery,
          delivery.message = message →
          Supervised.machine.step? supervised delivery = none := by
  obtain ⟨final, log, cell, executed, here, unwinding⟩ :
      ∃ final log cell,
        (machine _ _ _).run?
            ((withConfig _ _ _ 8).spawn lonelySupervisor
              (.new longBackoff 0)).1
            crashTwice = some (final, log) ∧
          final.cells[0]? = some cell ∧
          cell.position = .unwinding :=
    ⟨_, _, _, rfl, rfl, rfl⟩
  have born :
      ((withConfig _ _ _ 8).spawn lonelySupervisor
          (.new longBackoff 0)).1.cells[0]? =
        some (.new ⟨1⟩
          ((SupervisorActor.asActor supervisionBoxes).hosted
            (itself Supervised) (itself SupervisorFrame))
          ((itself Supervised).embed (.new longBackoff 0))) :=
    rfl
  obtain ⟨found, foundHere, -, unwound⟩ :=
    supervisor_hosted (Machine.run?_sound _ executed) born
  obtain rfl : found = cell := by simpa [here] using foundHere.symm
  obtain ⟨earlier, message, supervised, called, served, refused⟩ :=
    unwound unwinding
  exact ⟨final, log, earlier, message, supervised, executed, called, served,
    refused⟩

/--
A requester that receives a reply from a supervisor has asked for its status,
and is told of every child started by a message accepted before the request:
once, under the name it was last started with, and with the number of its
crashes since then.
-/
theorem status_reported
    {mailboxCapacity : Nat}
    {past birth log : List (RuntimeEvent Value)}
    {before spawned final : Runtime Value State Frame}
    (earlier :
      Machine.Run (machine Value State Frame)
        (withConfig Value State Frame mailboxCapacity) past before)
    (spawns :
      (machine Value State Frame).step? before
          (.spawn ((SupervisorActor.asActor boxes).hosted states frames)
            (states.embed (.new strategy now))) =
        some (spawned, birth))
    (run : Machine.Run (machine Value State Frame) spawned log final)
    {request : Request Value}
    (sent : request ∈ requests log)
    (toSupervisor : request.target = before.cells.length)
    {reply : AnyBox Value}
    (received : .replyReceived request.channel reply ∈ log) :
    ∃ ahead behind statuses,
      acceptedEnvelopes request.target log =
          ahead ++ request.envelope :: behind ∧
        (request.payload.downcast boxes.messageType).map boxes.message =
          some .getStatus ∧
        reply = boxes.statuses statuses ∧
        Supervised.StatusesTell strategy
          ((typedMessages boxes.messageType ahead).map boxes.message)
          statuses := by
  obtain ⟨ahead, behind, value, state, accepted, typed, serves, replies⟩ :=
    request_served earlier spawns run sent toSupervisor received
  obtain ⟨supervised, rfl, served⟩ := Actor.serves_of_hosted serves
  obtain ⟨asks, told⟩ :=
    SupervisorActor.statuses_of_replies (Actor.replies_of_hosted replies)
  obtain ⟨steps, events, trace, messages⟩ :=
    SupervisorActor.supervises_of_serves served
  have records := Supervised.trace_records trace
  rw [messages] at records
  refine ⟨ahead, behind, supervised.supervisor.statuses, accepted, ?_, told,
    records.statusesTell⟩
  have typedMessage :
      request.payload.downcast boxes.messageType = some value :=
    typed
  rw [typedMessage, ← asks]
  rfl

/-- At most two restarts, without a backoff. -/
def twoRestarts : RestartStrategy := .oneForOne 2 (fromSecs 60) 0

/-- A child is started and crashes three times, and a status is requested
between its second and its third crash. -/
def statusBetweenCrashes :
    List (Label SupervisionValue Supervised SupervisorFrame) :=
  [.send ⟨1⟩ ⟨0, .inl (.childStarted ⟨7⟩ "child")⟩,
    .send ⟨1⟩ ⟨0, .inl (.childCrashed ⟨7⟩ "first")⟩,
    .send ⟨1⟩ ⟨0, .inl (.childCrashed ⟨7⟩ "second")⟩,
    .claimRequest, .request 0 ⟨1⟩ ⟨0, .inl .getStatus⟩,
    .send ⟨1⟩ ⟨0, .inl (.childCrashed ⟨7⟩ "third")⟩] ++
  List.replicate 21 (.loop 0 5) ++
  [.receiveReply 0]

/-- The request between the crashes. -/
def statusRequest : Request SupervisionValue where
  target := 0
  requestId := 0
  payload := ⟨0, .inl .getStatus⟩
  channel := 0

/-- Two crashes were accepted before the request. -/
def statusReply : AnyBox SupervisionValue :=
  supervisionBoxes.statuses
    [{ id := ⟨7⟩, name := "child", restartCount := 2, alive := true }]

theorem status_reported_betweenCrashes :
    ∃ final log,
      (machine _ _ _).run?
          ((withConfig _ _ _ 8).spawn lonelySupervisor (.new twoRestarts 0)).1
          statusBetweenCrashes = some (final, log) ∧
        ∃ ahead behind statuses,
          acceptedEnvelopes 0 log = ahead ++ statusRequest.envelope :: behind ∧
            statusReply = supervisionBoxes.statuses statuses ∧
            Supervised.StatusesTell twoRestarts
              ((typedMessages 0 ahead).map supervisionBoxes.message)
              statuses := by
  obtain ⟨final, log, executed, sent, received⟩ :
      ∃ final log,
        (machine _ _ _).run?
            ((withConfig _ _ _ 8).spawn lonelySupervisor
              (.new twoRestarts 0)).1
            statusBetweenCrashes = some (final, log) ∧
          (requests log)[0]? = some statusRequest ∧
          log.getLast? = some (.replyReceived 0 statusReply) :=
    ⟨_, _, rfl, rfl, rfl⟩
  have spawns :
      (machine _ _ _).step? (withConfig _ _ _ 8)
          (.spawn
            ((SupervisorActor.asActor supervisionBoxes).hosted
              (itself Supervised) (itself SupervisorFrame))
            ((itself Supervised).embed (.new twoRestarts 0))) =
        some ((withConfig _ _ _ 8).spawn lonelySupervisor
          (.new twoRestarts 0)) :=
    rfl
  obtain ⟨ahead, behind, statuses, accepted, -, told, tells⟩ :=
    status_reported .nil spawns (Machine.run?_sound _ executed)
      (List.mem_of_getElem? sent) rfl (List.mem_of_getLast? received)
  exact ⟨final, log, executed, ahead, behind, statuses, accepted, told, tells⟩

end Runtime

end Runact
