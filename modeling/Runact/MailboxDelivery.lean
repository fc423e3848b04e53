import Runact.RuntimeFrame
import Runact.Fifo

namespace Runact.Runtime

/-!
# Mailbox delivery

Each mailbox is a first-in first-out queue: five ways to put an envelope at its
back, two receive paths that take one from its front, and one drop.  What a step
can do to one actor loop is said once, by `CellEffect`; the simulation of the
abstract queue and the handler calls follow from it.
-/

universe u

variable {Value State Frame : Type u}

/-- The queue operations an event shows at one mailbox. -/
def mailboxEvents
    (index : Nat) :
    RuntimeEvent Value → List (Fifo.Event (MessageEnvelope Value))
  | .accepted cell envelope => if cell = index then [.entered envelope] else []
  | .taken cell envelope => if cell = index then [.left envelope] else []
  | .dropped cell => if cell = index then [.discarded] else []
  | _ => []

/-- The envelopes accepted for one actor loop, in the order of acceptance. -/
def acceptedEnvelopes
    (index : Nat)
    (log : List (RuntimeEvent Value)) : List (MessageEnvelope Value) :=
  log.filterMap fun
    | .accepted cell envelope => if cell = index then some envelope else none
    | _ => none

/-- The envelopes one actor loop has taken, in order. -/
def takenEnvelopes
    (index : Nat)
    (log : List (RuntimeEvent Value)) : List (MessageEnvelope Value) :=
  log.filterMap fun
    | .taken cell envelope => if cell = index then some envelope else none
    | _ => none

/-- The messages one actor's handler was called on, in order. -/
def calledMessages
    (index : Nat)
    (log : List (RuntimeEvent Value)) : List Value :=
  log.filterMap fun
    | .called cell message => if cell = index then some message else none
    | _ => none

/-- The messages of the actor's own type among some envelopes. -/
def typedMessages
    (messageType : TypeId)
    (envelopes : List (MessageEnvelope Value)) : List Value :=
  envelopes.filterMap fun envelope => envelope.payload.downcast messageType

/-- What a step does to one actor loop, and what it shows of it. -/
inductive CellEffect
    (index : Nat)
    (before after : ActorCell Value State Frame)
    (events : List (RuntimeEvent Value)) : Prop where
  | quiet :
      after.mailbox = before.mailbox →
      after.position.isEnded = before.position.isEnded →
      events.flatMap (mailboxEvents index) = [] →
      calledMessages index events = [] →
      CellEffect index before after events
  | accepted (envelope : MessageEnvelope Value) :
      before.position.isEnded = false →
      after.position.isEnded = false →
      after.mailbox = before.mailbox ++ [envelope] →
      events.flatMap (mailboxEvents index) = [.entered envelope] →
      calledMessages index events = [] →
      CellEffect index before after events
  | taken (envelope : MessageEnvelope Value) :
      before.position.isEnded = false →
      after.position.isEnded = false →
      before.mailbox = envelope :: after.mailbox →
      events.flatMap (mailboxEvents index) = [.left envelope] →
      calledMessages index events =
        typedMessages before.actor.messageType [envelope] →
      CellEffect index before after events
  | dropped :
      before.position.isEnded = false →
      after.position.isEnded = true →
      after.mailbox = [] →
      events.flatMap (mailboxEvents index) = [.discarded] →
      calledMessages index events = [] →
      CellEffect index before after events

/-- The loop is still there after the step, with the same actor. -/
def HasEffect
    (index : Nat)
    (before : ActorCell Value State Frame)
    (after : Runtime Value State Frame)
    (events : List (RuntimeEvent Value)) : Prop :=
  ∃ cell,
    after.cells[index]? = some cell ∧
      cell.actor = before.actor ∧
      CellEffect index before cell events

/-- An effect on a loop is seen in the cells only. -/
theorem HasEffect.sameCells
    {index : Nat}
    {before : ActorCell Value State Frame}
    {after other : Runtime Value State Frame}
    {events : List (RuntimeEvent Value)}
    (effect : HasEffect index before after events)
    (same : other.cells = after.cells) :
    HasEffect index before other events := by
  unfold HasEffect
  rw [same]
  exact effect

/-- Events that show nothing at one mailbox. -/
def Mute
    (index : Nat)
    (events : List (RuntimeEvent Value)) : Prop :=
  events.flatMap (mailboxEvents index) = [] ∧
    calledMessages index events = []

/-- A step that leaves the loop alone has a quiet effect on it. -/
theorem HasEffect.untouched
    {index : Nat}
    {before : ActorCell Value State Frame}
    {after : Runtime Value State Frame}
    {events : List (RuntimeEvent Value)}
    (same : after.cells[index]? = some before)
    (mute : Mute index events) :
    HasEffect index before after events :=
  ⟨before, same, rfl, .quiet rfl rfl mute.1 mute.2⟩

/-- A step that changes one loop: its effect there, and silence elsewhere. -/
theorem HasEffect.modify
    {runtime : Runtime Value State Frame}
    {changed index : Nat}
    {change : ActorCell Value State Frame → ActorCell Value State Frame}
    {before : ActorCell Value State Frame}
    {events : List (RuntimeEvent Value)}
    (here : runtime.cells[index]? = some before)
    (elsewhere : changed ≠ index → Mute index events)
    (self :
      changed = index →
        (change before).actor = before.actor ∧
          CellEffect index before (change before) events) :
    HasEffect index before (runtime.modifyCell changed change) events := by
  by_cases same : changed = index
  · obtain ⟨sameActor, effect⟩ := self same
    refine ⟨change before, ?_, sameActor, effect⟩
    rw [modifyCell_cells, here]
    simp [same]
  · refine .untouched ?_ (elsewhere same)
    rw [modifyCell_cells, here]
    simp [same]

/-- An accepted envelope is the only thing a sending step shows. -/
theorem HasEffect.offered
    {runtime after : Runtime Value State Frame}
    {blocking : Bool}
    {channel index : Nat}
    {envelope : MessageEnvelope Value}
    {before : ActorCell Value State Frame}
    {events : List (RuntimeEvent Value)}
    (accepted : runtime.offer blocking channel envelope = .accepted after)
    (here : runtime.cells[index]? = some before)
    (mute : Mute index events) :
    HasEffect index before after (.accepted channel envelope :: events) := by
  obtain ⟨cell, there, opened, -, rfl⟩ := offer_eq_accepted accepted
  refine .modify here (fun elsewhere => ?_) (fun same => ?_)
  · simpa [Mute, mailboxEvents, elsewhere, calledMessages] using mute
  · subst same
    obtain rfl : cell = before := by simpa [there] using here
    refine ⟨rfl, .accepted envelope opened opened rfl ?_ ?_⟩
    · simp [mailboxEvents, mute.1]
    · simpa [calledMessages] using mute.2

/-- Moving a loop whose receiver is still there changes no mailbox. -/
theorem HasEffect.moveTo
    {after : Runtime Value State Frame}
    {index moved : Nat}
    {before : ActorCell Value State Frame}
    {events : List (RuntimeEvent Value)}
    {position : LoopPosition Value Frame}
    (effect : HasEffect index before after events)
    (there : position.isEnded = false)
    (stillOpen :
      moved = index →
        ∀ cell, after.cells[index]? = some cell →
          cell.position.isEnded = false) :
    HasEffect index before (after.moveTo moved position) events := by
  obtain ⟨cell, here, sameActor, effect⟩ := effect
  by_cases same : moved = index
  · have opened := stillOpen same cell here
    refine ⟨{ cell with position := position }, ?_, sameActor, ?_⟩
    · simp [Runtime.moveTo, modifyCell_cells, same, here]
    · cases effect with
      | quiet mailbox ended silent uncalled =>
          exact .quiet mailbox (there.trans (opened.symm.trans ended))
            silent uncalled
      | accepted envelope wasOpen _ mailbox shown uncalled =>
          exact .accepted envelope wasOpen there mailbox shown uncalled
      | taken envelope wasOpen _ mailbox shown called =>
          exact .taken envelope wasOpen there mailbox shown called
      | dropped wasOpen ended _ _ _ =>
          simp [opened] at ended
  · refine ⟨cell, ?_, sameActor, effect⟩
    simp [Runtime.moveTo, modifyCell_cells, same, here]

/-- A loop that moves on by itself, showing nothing at any mailbox. -/
theorem HasEffect.step
    {runtime : Runtime Value State Frame}
    {index moved : Nat}
    {before : ActorCell Value State Frame}
    {events : List (RuntimeEvent Value)}
    {position : LoopPosition Value Frame}
    (here : runtime.cells[index]? = some before)
    (mute : Mute index events)
    (there : position.isEnded = false)
    (stillOpen :
      moved = index → before.position.isEnded = false) :
    HasEffect index before (runtime.moveTo moved position) events :=
  (HasEffect.untouched here mute).moveTo there fun same cell shape => by
    obtain rfl : before = cell := by simpa [here] using shape
    exact stillOpen same

theorem mute_nil (index : Nat) :
    Mute index ([] : List (RuntimeEvent Value)) := by
  simp [Mute, calledMessages]

/-- Ending an iteration moves the loop to its top and keeps its mailbox. -/
theorem finishIteration_spec
    (cell : ActorCell Value State Frame)
    (index : Nat)
    (draining : Bool) :
    (cell.finishIteration index draining).1.mailbox = cell.mailbox ∧
      (cell.finishIteration index draining).1.actor = cell.actor ∧
      (cell.finishIteration index draining).1.position = .top ∧
      ∀ other, Mute other (cell.finishIteration index draining).2 := by
  unfold ActorCell.finishIteration
  split
  · exact ⟨rfl, rfl, rfl, fun other => mute_nil other⟩
  · split
    · exact ⟨rfl, rfl, rfl, fun other => by
        simp [Mute, mailboxEvents, calledMessages]⟩
    · exact ⟨rfl, rfl, rfl, fun other => mute_nil other⟩

/-- Taking an envelope calls the handler exactly when the payload fits. -/
theorem takeEnvelope_effect
    {cell : ActorCell Value State Frame}
    (index : Nat)
    (draining : Bool)
    {envelope : MessageEnvelope Value}
    {rest : List (MessageEnvelope Value)}
    (shape : cell.mailbox = envelope :: rest)
    (opened : cell.position.isEnded = false) :
    (cell.takeEnvelope index draining envelope rest).1.actor = cell.actor ∧
      CellEffect index cell
        (cell.takeEnvelope index draining envelope rest).1
        (cell.takeEnvelope index draining envelope rest).2 ∧
      ∀ other, index ≠ other →
        Mute other (cell.takeEnvelope index draining envelope rest).2 := by
  unfold ActorCell.takeEnvelope
  cases fits : envelope.payload.downcast cell.actor.messageType with
  | some message =>
      refine ⟨rfl, .taken envelope opened rfl shape ?_ ?_,
        fun other different => ?_⟩
      · simp [mailboxEvents]
      · simp [calledMessages, typedMessages, fits]
      · simp [Mute, mailboxEvents, calledMessages, different]
  | none =>
      obtain ⟨mailbox, sameActor, position, mute⟩ :=
        finishIteration_spec { cell with mailbox := rest } index draining
      refine ⟨sameActor, .taken envelope opened ?_ ?_ ?_ ?_,
        fun other different => ?_⟩
      · simp [position, LoopPosition.isEnded]
      · simp [mailbox, shape]
      · simp [mailboxEvents, (mute index).1]
      · simpa [calledMessages, typedMessages, fits] using (mute index).2
      · simpa [Mute, mailboxEvents, calledMessages, different] using mute other

/-- Handler code by itself touches no mailbox. -/
theorem handlerStep_effect
    {runtime : Runtime Value State Frame}
    {loop index : Nat}
    {cell before : ActorCell Value State Frame}
    {draining : Bool}
    {frame : Frame}
    (answer : Nat)
    (loopCell : runtime.cells[loop]? = some cell)
    (opened : cell.position.isEnded = false)
    (here : runtime.cells[index]? = some before) :
    HasEffect index before
      (runtime.handlerStep loop cell draining frame answer).1
      (runtime.handlerStep loop cell draining frame answer).2 := by
  have stillOpen
      (same : loop = index) : before.position.isEnded = false := by
    subst same
    obtain rfl : cell = before := by simpa [loopCell] using here
    exact opened
  unfold handlerStep
  split
  · rename_i state action
    obtain ⟨mailbox, sameActor, position, mute⟩ :=
      finishIteration_spec { cell with state := state } loop draining
    refine .modify here (fun _ => ?_) (fun same => ?_)
    · simpa [Mute, mailboxEvents, calledMessages] using mute index
    · subst same
      obtain rfl : cell = before := by simpa [loopCell] using here
      refine ⟨sameActor, .quiet mailbox ?_ ?_ ?_⟩
      · rw [position]
        exact opened.symm
      · simp [mailboxEvents, (mute loop).1]
      · simpa [calledMessages] using (mute loop).2
  · exact .step here (by simp [Mute, mailboxEvents, calledMessages])
      rfl stillOpen
  · split
    · exact .step here (by simp [Mute, mailboxEvents, calledMessages])
        rfl stillOpen
    · exact .step here (mute_nil index) rfl stillOpen
  · split
    · exact .step here (by simp [Mute, mailboxEvents, calledMessages])
        rfl stillOpen
    · exact .step here (mute_nil index) rfl stillOpen
  · exact .step here (by simp [Mute, mailboxEvents, calledMessages])
      rfl stillOpen
  · exact .step here (mute_nil index) rfl stillOpen

/-- Dropping a receiver empties its mailbox for good. -/
theorem drop_effect
    {runtime : Runtime Value State Frame}
    {loop index : Nat}
    {cell before : ActorCell Value State Frame}
    (loopCell : runtime.cells[loop]? = some cell)
    (opened : cell.position.isEnded = false)
    (here : runtime.cells[index]? = some before) :
    HasEffect index before (runtime.modifyCell loop ActorCell.drop)
      [.dropped loop] := by
  refine .modify here (fun elsewhere => ?_) (fun same => ?_)
  · simp [Mute, mailboxEvents, calledMessages, elsewhere]
  · subst same
    obtain rfl : cell = before := by simpa [loopCell] using here
    exact ⟨rfl, .dropped opened rfl rfl (by simp [mailboxEvents])
      (by simp [calledMessages])⟩

/-- What a step of an actor loop does to the mailboxes. -/
theorem loopStep_effect
    {runtime after : Runtime Value State Frame}
    {loop answer index : Nat}
    {before : ActorCell Value State Frame}
    {events : List (RuntimeEvent Value)}
    (step : runtime.loopStep? loop answer = some (after, events))
    (here : runtime.cells[index]? = some before) :
    HasEffect index before after events := by
  unfold loopStep? at step
  cases loopCell : runtime.cells[loop]? with
  | none =>
      simp [loopCell] at step
  | some cell =>
      have sameCell
          (same : loop = index) : cell = before := by
        subst same
        simpa [loopCell] using here
      have stillOpen
          (opened : cell.position.isEnded = false)
          (same : loop = index) : before.position.isEnded = false :=
        sameCell same ▸ opened
      have received
          {draining : Bool}
          {envelope : MessageEnvelope Value}
          {rest : List (MessageEnvelope Value)}
          (opened : cell.position.isEnded = false)
          (shape : cell.mailbox = envelope :: rest) :
          HasEffect index before
            (runtime.modifyCell loop fun _ =>
              (cell.takeEnvelope loop draining envelope rest).1)
            (cell.takeEnvelope loop draining envelope rest).2 := by
        obtain ⟨sameActor, effect, mute⟩ :=
          takeEnvelope_effect loop draining shape opened
        refine .modify here (mute index) (fun same => ?_)
        obtain rfl := sameCell same
        subst same
        exact ⟨sameActor, effect⟩
      simp only [loopCell] at step
      cases shape : cell.position with
      | queued =>
          simp only [shape] at step
          split at step
          · cases step
          · simp only [Option.some.injEq, Prod.mk.injEq] at step
            obtain ⟨rfl, rfl⟩ := step
            exact .step here (mute_nil index) rfl
              (stillOpen (by simp [shape, LoopPosition.isEnded]))
      | top =>
          simp only [shape, Option.some.injEq, Prod.mk.injEq] at step
          obtain ⟨rfl, rfl⟩ := step
          refine .step here (mute_nil index) ?_
            (stillOpen (by simp [shape, LoopPosition.isEnded]))
          split <;> rfl
      | draining =>
          have opened : cell.position.isEnded = false := by
            simp [shape, LoopPosition.isEnded]
          cases queued : cell.mailbox with
          | nil =>
              simp only [shape, queued, Option.some.injEq,
                Prod.mk.injEq] at step
              obtain ⟨rfl, rfl⟩ := step
              exact .step here (mute_nil index) rfl (stillOpen opened)
          | cons envelope rest =>
              simp only [shape, queued, Option.some.injEq,
                Prod.mk.injEq] at step
              obtain ⟨rfl, rfl⟩ := step
              exact received opened queued
      | receiving =>
          have opened : cell.position.isEnded = false := by
            simp [shape, LoopPosition.isEnded]
          cases queued : cell.mailbox with
          | nil =>
              simp only [shape, queued, Option.some.injEq,
                Prod.mk.injEq] at step
              obtain ⟨rfl, rfl⟩ := step
              refine .modify here (fun _ => ?_) (fun same => ⟨rfl, ?_⟩)
              · simp [Mute, mailboxEvents, calledMessages]
              · exact .quiet rfl (stillOpen opened same).symm
                  (by simp [mailboxEvents]) (by simp [calledMessages])
          | cons envelope rest =>
              simp only [shape, queued, Option.some.injEq,
                Prod.mk.injEq] at step
              obtain ⟨rfl, rfl⟩ := step
              exact received opened queued
      | handling draining frame =>
          simp only [shape, Option.ite_none_left_eq_some,
            Option.some.injEq] at step
          have effect :
              HasEffect index before
                (runtime.handlerStep loop cell draining frame answer).1
                (runtime.handlerStep loop cell draining frame answer).2 :=
            handlerStep_effect answer loopCell
              (by simp [shape, LoopPosition.isEnded]) here
          rwa [step.2] at effect
      | sending draining channel envelope resume =>
          have opened : cell.position.isEnded = false := by
            simp [shape, LoopPosition.isEnded]
          simp only [shape] at step
          split at step
          · rename_i sent accepted
            simp only [Option.some.injEq, Prod.mk.injEq] at step
            obtain ⟨rfl, rfl⟩ := step
            have returned :
                Mute index
                  ([.sendReturned loop (.ok ())] :
                    List (RuntimeEvent Value)) := by
              simp [Mute, mailboxEvents, calledMessages]
            have effect := HasEffect.offered accepted here returned
            refine effect.moveTo rfl fun same after there => ?_
            obtain ⟨_, _, _, _, rfl⟩ := offer_eq_accepted accepted
            rw [modifyCell_cells, here] at there
            split at there
            · simp only [Option.map_some, Option.some.injEq] at there
              subst there
              exact stillOpen opened same
            · simp only [Option.some.injEq] at there
              subst there
              exact stillOpen opened same
          · cases step
          · simp only [Option.some.injEq, Prod.mk.injEq] at step
            obtain ⟨rfl, rfl⟩ := step
            exact .step here (by simp [Mute, mailboxEvents, calledMessages])
              rfl (stillOpen opened)
      | replying draining channel message resume =>
          have opened : cell.position.isEnded = false := by
            simp [shape, LoopPosition.isEnded]
          have mute :
              Mute index
                [.replied loop channel message,
                  .replyReturned loop (.ok ())] := by
            simp [Mute, mailboxEvents, calledMessages]
          simp only [shape] at step
          cases channelShape : runtime.replies[channel]? with
          | none =>
              simp [channelShape] at step
          | some reply =>
              simp only [channelShape] at step
              split at step
              · split at step
                · cases step
                · simp only [Option.some.injEq, Prod.mk.injEq] at step
                  obtain ⟨rfl, rfl⟩ := step
                  have sameCells :
                      (runtime.setReply channel
                        { reply with buffer := some message }).cells[index]? =
                          some before := here
                  exact .step sameCells mute rfl (stillOpen opened)
              · simp only [Option.some.injEq, Prod.mk.injEq] at step
                obtain ⟨rfl, rfl⟩ := step
                exact .step here
                  (by simp [Mute, mailboxEvents, calledMessages])
                  rfl (stillOpen opened)
      | leaving =>
          simp only [shape, Option.some.injEq, Prod.mk.injEq] at step
          obtain ⟨rfl, rfl⟩ := step
          exact drop_effect loopCell
            (by simp [shape, LoopPosition.isEnded]) here
      | unwinding =>
          simp only [shape, Option.some.injEq, Prod.mk.injEq] at step
          obtain ⟨rfl, rfl⟩ := step
          exact drop_effect loopCell
            (by simp [shape, LoopPosition.isEnded]) here
      | ended =>
          simp [shape] at step

/-- What a step of the machine does to an actor loop that is there. -/
theorem step_effect
    {runtime after : Runtime Value State Frame}
    {label : Label Value State Frame}
    {index : Nat}
    {before : ActorCell Value State Frame}
    {events : List (RuntimeEvent Value)}
    (step :
      (machine Value State Frame).step? runtime label = some (after, events))
    (here : runtime.cells[index]? = some before) :
    HasEffect index before after events := by
  have answered
      (result : Except RuntimeError Unit) :
      Mute index ([.answered result] : List (RuntimeEvent Value)) := by
    simp [Mute, mailboxEvents, calledMessages]
  have requestAnswered
      (requestId : Nat)
      (result : Except RuntimeError Nat) :
      Mute index
        ([.requestAnswered requestId result] :
          List (RuntimeEvent Value)) := by
    simp [Mute, mailboxEvents, calledMessages]
  cases label with
  | spawn actor state =>
      simp only [machine, Option.ite_none_right_eq_some] at step
      obtain ⟨-, step⟩ := step
      simp only [spawn, Option.some.injEq, Prod.mk.injEq] at step
      obtain ⟨rfl, rfl⟩ := step
      refine .untouched ?_ (by simp [Mute, mailboxEvents, calledMessages])
      have inside := (List.getElem?_eq_some_iff.mp here).1
      simp [List.getElem?_append_left inside, here]
  | awaitSenders waits =>
      simp only [machine, Option.ite_none_right_eq_some, Option.some.injEq,
        Prod.mk.injEq] at step
      obtain ⟨-, rfl, rfl⟩ := step
      exact .untouched here (mute_nil index)
  | spawnSupervisor =>
      simp only [machine, spawnSupervisor, Option.some.injEq,
        Prod.mk.injEq] at step
      obtain ⟨rfl, rfl⟩ := step
      exact .untouched here (by simp [Mute, mailboxEvents, calledMessages])
  | send target message =>
      simp only [machine, send, Option.ite_none_left_eq_some,
        Option.some.injEq] at step
      obtain ⟨-, step⟩ := step
      split at step
      · obtain ⟨rfl, rfl⟩ := Prod.mk.inj step
        exact .untouched here (answered _)
      · split at step <;> obtain ⟨rfl, rfl⟩ := Prod.mk.inj step
        · exact .offered ‹_› here (answered _)
        · exact .untouched here (answered _)
        · exact .untouched here (answered _)
  | sendBlocking target message =>
      simp only [machine, sendBlocking, Option.ite_none_left_eq_some,
        Option.some.injEq] at step
      obtain ⟨-, step⟩ := step
      split at step <;> obtain ⟨rfl, rfl⟩ := Prod.mk.inj step
      · exact .untouched here (answered _)
      · exact .untouched here (mute_nil index)
  | deliverTimer target message =>
      simp only [machine] at step
      split at step
      · cases step
      · simp only [deliverTimer, Option.some.injEq, Prod.mk.injEq] at step
        obtain ⟨rfl, rfl⟩ := step
        refine .untouched ?_ (mute_nil index)
        split <;> exact here
  | unblock waiting =>
      simp only [machine, unblock?] at step
      split at step
      · cases step
      · split at step
        · rename_i accepted
          simp only [Option.some.injEq, Prod.mk.injEq] at step
          obtain ⟨rfl, rfl⟩ := step
          have effect := HasEffect.offered accepted here (answered (.ok ()))
          exact effect.sameCells rfl
        · cases step
        · simp only [Option.some.injEq, Prod.mk.injEq] at step
          obtain ⟨rfl, rfl⟩ := step
          exact .untouched here (answered _)
  | claimRequest =>
      simp only [machine, Option.some.injEq, Prod.mk.injEq] at step
      obtain ⟨rfl, rfl⟩ := step
      exact .untouched here (mute_nil index)
  | request call target message =>
      simp only [machine] at step
      cases claimed : runtime.claimedRequests[call]? with
      | none =>
          simp [claimed] at step
      | some requestId =>
          simp only [claimed, request, Option.ite_none_left_eq_some,
            Option.some.injEq] at step
          obtain ⟨-, step⟩ := step
          split at step
          · obtain ⟨rfl, rfl⟩ := Prod.mk.inj step
            exact .untouched here (requestAnswered _ _)
          · split at step <;> obtain ⟨rfl, rfl⟩ := Prod.mk.inj step
            · rename_i accepted
              have effect :=
                HasEffect.offered accepted here
                  (requestAnswered requestId (.ok runtime.replies.length))
              exact effect.sameCells rfl
            · exact .untouched here (requestAnswered _ _)
            · exact .untouched here (requestAnswered _ _)
  | receiveReply channel =>
      simp only [machine] at step
      split at step
      · simp only [Option.some.injEq, Prod.mk.injEq] at step
        obtain ⟨rfl, rfl⟩ := step
        exact .untouched here (by simp [Mute, mailboxEvents, calledMessages])
      · cases step
  | dropHandle channel =>
      simp only [machine] at step
      split at step
      · simp only [Option.some.injEq, Prod.mk.injEq] at step
        obtain ⟨rfl, rfl⟩ := step
        exact .untouched here (mute_nil index)
      · cases step
  | shutdown =>
      simp only [machine, shutdownStep?] at step
      split at step
      · simp only [Option.some.injEq, Prod.mk.injEq] at step
        obtain ⟨rfl, rfl⟩ := step
        exact .untouched here (mute_nil index)
      · split at step
        · simp only [Option.some.injEq, Prod.mk.injEq] at step
          obtain ⟨rfl, rfl⟩ := step
          exact .untouched here (by simp [Mute, mailboxEvents, calledMessages])
        · cases step
      · simp only [Option.some.injEq, Prod.mk.injEq] at step
        obtain ⟨rfl, rfl⟩ := step
        exact .untouched here (by simp [Mute, mailboxEvents, calledMessages])
      · split at step
        · simp only [Option.some.injEq, Prod.mk.injEq] at step
          obtain ⟨rfl, rfl⟩ := step
          exact .untouched here (by simp [Mute, mailboxEvents, calledMessages])
        · cases step
  | loop moved answer =>
      exact loopStep_effect step here

/-- Nobody but its own loop calls the handler of an actor. -/
theorem calledMessages_of_notShown
    {index : Nat}
    {events : List (RuntimeEvent Value)}
    (notShown : ∀ event ∈ events, shownBy event ≠ some index) :
    calledMessages index events = [] := by
  refine filterMap_of_notShown (fun {event message} called => ?_) notShown
  split at called
  · split at called
    · rename_i same
      exact congrArg some same
    · cases called
  · cases called

/-- Nobody but its own loop takes envelopes out of a mailbox. -/
theorem takenEnvelopes_of_notShown
    {index : Nat}
    {events : List (RuntimeEvent Value)}
    (notShown : ∀ event ∈ events, shownBy event ≠ some index) :
    takenEnvelopes index events = [] := by
  refine filterMap_of_notShown (fun {event envelope} taken => ?_) notShown
  split at taken
  · split at taken
    · rename_i same
      exact congrArg some same
    · cases taken
  · cases taken

/-- Events neither shown by a loop nor sent to it are mute at its mailbox. -/
theorem mute_of_elsewhere
    {index : Nat}
    {events : List (RuntimeEvent Value)}
    (notShown : ∀ event ∈ events, shownBy event ≠ some index)
    (notSent : ∀ envelope, .accepted index envelope ∉ events) :
    Mute index events := by
  constructor
  · refine List.flatMap_eq_nil_iff.mpr fun event member => ?_
    have elsewhere := notShown event member
    unfold mailboxEvents
    split
    · rename_i cell envelope
      refine if_neg ?_
      rintro rfl
      exact notSent envelope member
    · exact if_neg fun same => elsewhere (congrArg some same)
    · exact if_neg fun same => elsewhere (congrArg some same)
    · rfl
  · exact calledMessages_of_notShown notShown

/-- A step shows nothing of a loop that is not there yet. -/
theorem step_absent
    {runtime after : Runtime Value State Frame}
    {label : Label Value State Frame}
    {index : Nat}
    {events : List (RuntimeEvent Value)}
    (step :
      (machine Value State Frame).step? runtime label = some (after, events))
    (absent : runtime.cells[index]? = none) :
    Mute index events ∧
      (after.cells[index]? = none ∨
        ∃ id actor state,
          after.cells[index]? = some (ActorCell.new id actor state)) := by
  have outside := List.getElem?_eq_none_iff.mp absent
  refine ⟨mute_of_elsewhere (fun event member shown => ?_)
    (fun envelope member => ?_), ?_⟩
  · have inside := (step_shows step event member).1 index shown
    omega
  · have inside := (step_shows step _ member).2 index envelope rfl
    omega
  · rcases step_cells_length step with same | ⟨id, actor, state, grown⟩
    · exact .inl (List.getElem?_eq_none (same ▸ outside))
    · rw [grown]
      by_cases newest : index = runtime.cells.length
      · exact .inr ⟨id, actor, state, by simp [newest]⟩
      · exact .inl (List.getElem?_eq_none (by simp; omega))

/-- One mailbox, seen as an abstract queue; it is open before its spawn. -/
def mailboxView
    (index : Nat)
    (runtime : Runtime Value State Frame) : Fifo (MessageEnvelope Value) :=
  match runtime.cells[index]? with
  | none => { items := [] }
  | some cell =>
      { items := cell.mailbox, accepting := !cell.position.isEnded }

theorem mailboxView_of_some
    {index : Nat}
    {runtime : Runtime Value State Frame}
    {cell : ActorCell Value State Frame}
    (here : runtime.cells[index]? = some cell) :
    mailboxView index runtime =
      { items := cell.mailbox, accepting := !cell.position.isEnded } := by
  simp [mailboxView, here]

/-- The runtime simulates one first-in first-out queue per actor. -/
def mailboxSimulation
    (Value State Frame : Type u)
    (index : Nat) :
    Machine.Simulation (machine Value State Frame)
      (Fifo.machine (MessageEnvelope Value)) where
  view := mailboxView index
  observe := mailboxEvents index
  good := fun _ => True
  preserved := fun _ _ => trivial
  matched := by
    intro runtime label after events _ step
    cases here : runtime.cells[index]? with
    | none =>
        obtain ⟨mute, stillAbsent | ⟨id, actor, state, spawned⟩⟩ :=
          step_absent step here
        · rw [mute.1, mailboxView, mailboxView, here, stillAbsent]
          exact .nil
        · rw [mute.1, mailboxView, mailboxView, here, spawned]
          exact .nil
    | some before =>
        obtain ⟨cell, there, -, effect⟩ := step_effect step here
        rw [mailboxView_of_some here, mailboxView_of_some there]
        cases effect with
        | quiet mailbox ended silent uncalled =>
            rw [mailbox, ended, silent]
            exact .nil
        | accepted envelope opened stillOpen mailbox shown uncalled =>
            rw [mailbox, opened, stillOpen, shown]
            exact Fifo.run_put before.mailbox envelope
        | taken envelope opened stillOpen mailbox shown called =>
            rw [mailbox, opened, stillOpen, shown]
            exact Fifo.run_take envelope cell.mailbox true
        | dropped opened ended emptied shown uncalled =>
            rw [emptied, opened, ended, shown]
            exact Fifo.run_discard before.mailbox

theorem enteredItems_mailboxEvents
    (index : Nat)
    (log : List (RuntimeEvent Value)) :
    Fifo.enteredItems (log.flatMap (mailboxEvents index)) =
      acceptedEnvelopes index log := by
  induction log with
  | nil =>
      rfl
  | cons event rest inductionHypothesis =>
      rw [List.flatMap_cons, Fifo.enteredItems_append, inductionHypothesis]
      cases event with
      | accepted cell envelope =>
          by_cases same : cell = index <;>
            simp [mailboxEvents, acceptedEnvelopes, same]
      | taken cell envelope =>
          by_cases same : cell = index <;>
            simp [mailboxEvents, acceptedEnvelopes, same]
      | dropped cell =>
          by_cases same : cell = index <;>
            simp [mailboxEvents, acceptedEnvelopes, same]
      | _ =>
          simp [mailboxEvents, acceptedEnvelopes]

theorem leftItems_mailboxEvents
    (index : Nat)
    (log : List (RuntimeEvent Value)) :
    Fifo.leftItems (log.flatMap (mailboxEvents index)) =
      takenEnvelopes index log := by
  induction log with
  | nil =>
      rfl
  | cons event rest inductionHypothesis =>
      rw [List.flatMap_cons, Fifo.leftItems_append, inductionHypothesis]
      cases event with
      | accepted cell envelope =>
          by_cases same : cell = index <;>
            simp [mailboxEvents, takenEnvelopes, same]
      | taken cell envelope =>
          by_cases same : cell = index <;>
            simp [mailboxEvents, takenEnvelopes, same]
      | dropped cell =>
          by_cases same : cell = index <;>
            simp [mailboxEvents, takenEnvelopes, same]
      | _ =>
          simp [mailboxEvents, takenEnvelopes]

/-- One step calls the handler on the typed envelopes it takes, and on no other. -/
theorem CellEffect.called_eq
    {index : Nat}
    {before after : ActorCell Value State Frame}
    {events : List (RuntimeEvent Value)}
    (effect : CellEffect index before after events) :
    calledMessages index events =
      typedMessages before.actor.messageType
        (takenEnvelopes index events) := by
  rw [← leftItems_mailboxEvents]
  cases effect with
  | quiet mailbox ended silent uncalled =>
      rw [silent, uncalled]
      rfl
  | accepted envelope opened stillOpen mailbox shown uncalled =>
      rw [shown, uncalled]
      rfl
  | taken envelope opened stillOpen mailbox shown called =>
      rw [shown, called]
      rfl
  | dropped opened ended emptied shown uncalled =>
      rw [shown, uncalled]
      rfl

theorem Mute.taken_eq_nil
    {index : Nat}
    {events : List (RuntimeEvent Value)}
    (mute : Mute index events) :
    takenEnvelopes index events = [] := by
  rw [← leftItems_mailboxEvents, mute.1]
  rfl

/-- Handler calls so far, for a loop that is there or not yet there. -/
def CallsMatch
    (index : Nat)
    (log : List (RuntimeEvent Value))
    (runtime : Runtime Value State Frame) : Prop :=
  (runtime.cells[index]? = none →
      takenEnvelopes index log = [] ∧ calledMessages index log = []) ∧
    ∀ cell, runtime.cells[index]? = some cell →
      calledMessages index log =
        typedMessages cell.actor.messageType (takenEnvelopes index log)

/-- Over every run, the handler was called on the typed envelopes taken. -/
theorem run_callsMatch
    {initial runtime : Runtime Value State Frame}
    {log : List (RuntimeEvent Value)}
    (run : Machine.Run (machine Value State Frame) initial log runtime)
    (index : Nat) :
    CallsMatch index log runtime := by
  refine run.history (CallsMatch index)
    (fun {log before label after events} calls step => ?_)
    ⟨fun _ => ⟨rfl, rfl⟩, fun _ _ => rfl⟩
  obtain ⟨whileAbsent, present⟩ := calls
  simp only [CallsMatch, takenEnvelopes, calledMessages,
    List.filterMap_append]
  cases here : before.cells[index]? with
  | none =>
      obtain ⟨mute, -⟩ := step_absent step here
      obtain ⟨noneTaken, noneCalled⟩ := whileAbsent here
      have newTaken := mute.taken_eq_nil
      have newCalled := mute.2
      simp only [takenEnvelopes, calledMessages] at *
      simp [noneTaken, noneCalled, newTaken, newCalled, typedMessages]
  | some cell =>
      obtain ⟨later, there, sameActor, effect⟩ := step_effect step here
      have earlier := present cell here
      have newest := effect.called_eq
      refine ⟨fun absent => by simp [there] at absent, fun found shape => ?_⟩
      obtain rfl : later = found := by simpa [there] using shape
      rw [sameActor]
      simp only [takenEnvelopes, calledMessages] at earlier newest
      rw [earlier, newest, typedMessages, typedMessages, typedMessages,
        List.filterMap_append]

/-- What a log says about the deliveries to one running actor loop. -/
structure Delivered
    (index : Nat)
    (log : List (RuntimeEvent Value))
    (cell : ActorCell Value State Frame) : Prop where
  /-- Taken and still queued envelopes are the accepted ones, in order. -/
  inOrder :
    acceptedEnvelopes index log =
      takenEnvelopes index log ++ cell.mailbox
  /-- The handler was called once on each taken envelope of the actor's type. -/
  handled :
    calledMessages index log =
      typedMessages cell.actor.messageType (takenEnvelopes index log)

/-- Until the receiver is dropped, what was accepted was taken or is queued. -/
theorem mailbox_inOrder
    {mailboxCapacity index : Nat}
    {log : List (RuntimeEvent Value)}
    {runtime : Runtime Value State Frame}
    {cell : ActorCell Value State Frame}
    (run :
      Machine.Run (machine Value State Frame)
        (withConfig Value State Frame mailboxCapacity) log runtime)
    (here : runtime.cells[index]? = some cell)
    (opened : cell.position.isEnded = false) :
    acceptedEnvelopes index log =
      takenEnvelopes index log ++ cell.mailbox := by
  have queueRun :=
    (mailboxSimulation Value State Frame index).run run trivial
  have account := (Fifo.run_accounts queueRun).1
  simp only [mailboxSimulation, mailboxView_of_some here, opened,
    enteredItems_mailboxEvents, leftItems_mailboxEvents] at account
  simpa [mailboxView, withConfig] using account rfl

/-- A running loop is delivered every accepted envelope once and in order. -/
theorem mailbox_delivered
    {mailboxCapacity index : Nat}
    {log : List (RuntimeEvent Value)}
    {runtime : Runtime Value State Frame}
    {cell : ActorCell Value State Frame}
    (run :
      Machine.Run (machine Value State Frame)
        (withConfig Value State Frame mailboxCapacity) log runtime)
    (here : runtime.cells[index]? = some cell)
    (running : cell.position.isRunning = true) :
    Delivered index log cell where
  inOrder := by
    refine mailbox_inOrder run here ?_
    cases shape : cell.position <;>
      simp_all [LoopPosition.isRunning, LoopPosition.isEnded]
  handled := (run_callsMatch run index).2 cell here

/-- An actor that accepts messages of one type and returns at once. -/
def echo : Actor Nat Nat Nat where
  messageType := 0
  handle := fun state message => state + message
  next := fun frame => .returns frame

/--
Three ways to send, one payload of a foreign type, and the stop flag set between
the first and the second envelope; the third is still queued.
-/
def mixedDelivery : List (Label Nat Nat Nat) :=
  [.spawn echo 0, .send ⟨1⟩ ⟨0, 10⟩, .sendBlocking ⟨1⟩ ⟨7, 11⟩, .unblock 0,
    .claimRequest, .request 0 ⟨1⟩ ⟨0, 12⟩,
    .loop 0 0, .loop 0 0, .loop 0 0, .loop 0 0, .shutdown,
    .loop 0 0, .loop 0 0, .loop 0 0]

theorem mailbox_delivered_mixed :
    ∃ runtime cell log,
      (machine Nat Nat Nat).run? (withConfig Nat Nat Nat 5) mixedDelivery =
          some (runtime, log) ∧
        runtime.cells[0]? = some cell ∧
        cell.mailbox = [.request 0 ⟨0, 12⟩ 0] ∧
        takenEnvelopes 0 log = [.message ⟨0, 10⟩, .message ⟨7, 11⟩] ∧
        calledMessages 0 log = [10] ∧
        Delivered 0 log cell := by
  obtain ⟨runtime, cell, log, executed, here, running, queued, taken,
      called⟩ :
      ∃ runtime cell log,
        (machine Nat Nat Nat).run? (withConfig Nat Nat Nat 5) mixedDelivery =
            some (runtime, log) ∧
          runtime.cells[0]? = some cell ∧
          cell.position.isRunning = true ∧
          cell.mailbox = [.request 0 ⟨0, 12⟩ 0] ∧
          takenEnvelopes 0 log = [.message ⟨0, 10⟩, .message ⟨7, 11⟩] ∧
          calledMessages 0 log = [10] :=
    ⟨_, _, _, rfl, rfl, rfl, rfl, rfl, rfl⟩
  exact ⟨runtime, cell, log, executed, here, queued, taken, called,
    mailbox_delivered (Machine.run?_sound _ executed) here running⟩

end Runact.Runtime
