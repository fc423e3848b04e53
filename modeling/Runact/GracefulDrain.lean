import Runact.RuntimeEffect
import Runact.MailboxDelivery

namespace Runact.Runtime

/-!
# Draining the mailbox

Once the stop flag is set, a loop takes what is left in its mailbox and ends when
it finds the mailbox empty.  Between that look and the drop of the receiver the
senders map still offers the mailbox to everyone, and what is accepted then is
thrown away.
-/

universe u

variable {Value State Frame : Type u}

/-- The end of a handler call of the actor. -/
def isHandled (index : Nat) : RuntimeEvent Value → Bool
  | .handled cell => cell == index
  | _ => false

/-- Nobody but its own loop ends the handler calls of an actor. -/
theorem countP_isHandled
    {index : Nat}
    {events : List (RuntimeEvent Value)}
    (notShown : ∀ event ∈ events, shownBy event ≠ some index) :
    events.countP (isHandled index) = 0 := by
  refine List.countP_eq_zero.mpr fun event member handled => ?_
  refine notShown event member ?_
  unfold isHandled at handled
  split at handled
  · exact congrArg some (beq_iff_eq.mp handled)
  · cases handled

/-- One, while a handler call of the loop is under way. -/
def callUnderWay (cell : ActorCell Value State Frame) : Nat :=
  if cell.position.stage = .handling then 1 else 0

/-- As long as no handler call panics, every call returns but the one under
way. -/
structure CallsReturn
    (log : List (RuntimeEvent Value))
    (index : Nat)
    (cell : ActorCell Value State Frame) : Prop where
  counted :
    .panicked index ∉ log →
    (calledMessages index log).length =
      log.countP (isHandled index) + callUnderWay cell
  unwinding : cell.position = .unwinding → .panicked index ∈ log

theorem CallsReturn.append
    {log events : List (RuntimeEvent Value)}
    {index : Nat}
    {cell moved : ActorCell Value State Frame}
    (returns : CallsReturn log index cell)
    (counted :
      (calledMessages index events).length + callUnderWay cell =
        events.countP (isHandled index) + callUnderWay moved)
    (notUnwinding : moved.position ≠ .unwinding) :
    CallsReturn (log ++ events) index moved where
  counted unpanicked := by
    have earlier :=
      returns.counted fun member =>
        unpanicked (List.mem_append_left events member)
    simp only [calledMessages, List.filterMap_append, List.length_append,
      List.countP_append] at earlier counted ⊢
    omega
  unwinding shape := absurd shape notUnwinding

theorem callsReturn_fresh
    {log : List (RuntimeEvent Value)}
    {index : Nat}
    (id : ActorId)
    (actor : Actor Value State Frame)
    (state : State)
    (notShown : ∀ event ∈ log, shownBy event ≠ some index) :
    CallsReturn log index (ActorCell.new id actor state) where
  counted _ := by
    simp [calledMessages_of_notShown notShown, countP_isHandled notShown,
      callUnderWay, ActorCell.new, LoopPosition.stage]
  unwinding shape := by cases shape

theorem callsReturn_elsewhere :
    Elsewhere fun log index (cell : ActorCell Value State Frame) =>
      CallsReturn log index cell := by
  intro log events index cell extra notShown returns
  by_cases unwinding : cell.position = .unwinding
  · have panicked := returns.unwinding unwinding
    exact ⟨fun unpanicked =>
        absurd (List.mem_append_left events panicked) unpanicked,
      fun _ => List.mem_append_left events panicked⟩
  · have counted :
        (calledMessages index events).length + callUnderWay cell =
          events.countP (isHandled index) + callUnderWay cell := by
      rw [calledMessages_of_notShown notShown, countP_isHandled notShown]
      rfl
    exact returns.append counted unwinding

/-- Every step of the loop keeps count of its calls. -/
theorem callsReturn_own :
    Own fun log index (cell : ActorCell Value State Frame) =>
      CallsReturn log index cell := by
  intro log events index cell runtime after here effect returns
  have changed
      {runtime : Runtime Value State Frame}
      {cell moved : ActorCell Value State Frame}
      {change : ActorCell Value State Frame → ActorCell Value State Frame}
      (here : runtime.cells[index]? = some cell)
      (same : change cell = moved)
      (kept : CallsReturn (log ++ events) index moved) :
      ∃ moved,
        (runtime.modifyCell index change).cells[index]? = some moved ∧
          CallsReturn (log ++ events) index moved :=
    ⟨moved, by rw [modifyCell_here change here, same], kept⟩
  cases effect with
  | checked shape =>
      refine changed here rfl (returns.append ?_ ?_) <;>
        cases runtime.stop <;>
        simp [callUnderWay, shape, LoopPosition.stage, calledMessages,
          LoopPosition.atReceive]
  | called draining envelope rest message shape queue typed =>
      refine changed here rfl (returns.append ?_ ?_) <;>
        cases draining <;>
        simp [callUnderWay, shape, LoopPosition.stage, calledMessages,
          LoopPosition.atReceive, isHandled]
  | skipped draining envelope rest reductions yields shape queue typed shown =>
      refine changed here rfl (returns.append ?_ ?_) <;>
        rcases shown with rfl | rfl <;> cases draining <;>
        simp [callUnderWay, shape, LoopPosition.stage, calledMessages,
          LoopPosition.atReceive, isHandled]
  | returned draining frame state reductions yields shape action shown =>
      refine changed here rfl (returns.append ?_ ?_) <;>
        rcases shown with rfl | rfl <;>
        simp [callUnderWay, shape, LoopPosition.stage, calledMessages,
          isHandled]
  | panicked draining frame shape action =>
      refine changed here rfl ⟨fun unpanicked => ?_, fun _ => by simp⟩
      simp at unpanicked
  | sent draining channel envelope resume sent shape accepted =>
      obtain ⟨extra, there, -⟩ := OnlyExtended.offered accepted here
      refine changed there rfl (returns.append ?_ ?_) <;>
        simp [callUnderWay, shape, LoopPosition.stage, calledMessages,
          isHandled]
  | replied draining channel message resume shape empty =>
      have there :
          (runtime.setReply channel
            { buffer := some message, handleAlive := true }).cells[index]? =
            some cell := here
      refine changed there rfl (returns.append ?_ ?_) <;>
        simp [callUnderWay, shape, LoopPosition.stage, calledMessages,
          isHandled]
  | dropped shape =>
      refine changed here rfl (returns.append ?_ ?_) <;>
        rcases shape with shape | shape <;>
        simp [callUnderWay, shape, LoopPosition.stage, calledMessages,
          isHandled, ActorCell.drop]
  | started shape _ | emptied shape _ | timedOut shape _ =>
      refine changed here rfl (returns.append ?_ ?_) <;>
        simp [callUnderWay, shape, LoopPosition.stage, calledMessages,
          isHandled]
  | sendRefused _ _ _ _ _ shape _ _ | sendStarted _ _ _ _ _ _ shape _ _
  | sendFailed _ _ _ _ shape _ | replyIgnored _ _ _ _ shape _ _
  | replyStarted _ _ _ _ _ shape _ _ | replyFailed _ _ _ _ _ shape _ _
  | askedIsRequest _ _ _ shape _ | computed _ _ _ _ shape _ =>
      refine changed here rfl (returns.append ?_ ?_) <;>
        simp [callUnderWay, shape, LoopPosition.stage, calledMessages,
          isHandled]

/-! ## Envelopes accepted too late -/

/-- The step puts an envelope of the actor's type into the mailbox of a loop
that has already found it empty. -/
def AcceptsLate
    (index : Nat)
    (runtime : Runtime Value State Frame)
    (label : Label Value State Frame) : Prop :=
  ∃ cell after events envelope,
    runtime.cells[index]? = some cell ∧
      cell.position = .leaving ∧
      (machine Value State Frame).step? runtime label =
        some (after, events) ∧
      .accepted index envelope ∈ events ∧
      (envelope.payload.downcast cell.actor.messageType).isSome = true

/-- Some step of the run accepts too late. -/
def LateIn
    (index : Nat)
    (steps :
      List (Runtime Value State Frame × Label Value State Frame)) : Prop :=
  ∃ step ∈ steps, AcceptsLate index step.1 step.2

/-- Every envelope of the actor's type that was accepted has been handled. -/
structure Drained
    (log : List (RuntimeEvent Value))
    (index : Nat)
    (cell : ActorCell Value State Frame) : Prop where
  /-- The handler was called on each of them. -/
  called :
    calledMessages index log =
      typedMessages cell.actor.messageType (acceptedEnvelopes index log)
  /-- Each of the calls has returned. -/
  returned :
    log.countP (isHandled index) = (calledMessages index log).length

/-- What has become of late envelopes, by the position of the loop. -/
structure LateLost
    (steps : List (Runtime Value State Frame × Label Value State Frame))
    (log : List (RuntimeEvent Value))
    (index : Nat)
    (cell : ActorCell Value State Frame) : Prop where
  before :
    cell.position ≠ .leaving →
    cell.position ≠ .ended →
    ¬ LateIn index steps
  leaving :
    cell.position = .leaving →
    (typedMessages cell.actor.messageType cell.mailbox = [] ↔
      ¬ LateIn index steps)
  ended :
    cell.position = .ended →
    .panicked index ∉ log →
    (calledMessages index log =
        typedMessages cell.actor.messageType (acceptedEnvelopes index log) ↔
      ¬ LateIn index steps)

theorem lateIn_snoc
    {index : Nat}
    {steps : List (Runtime Value State Frame × Label Value State Frame)}
    {runtime : Runtime Value State Frame}
    {label : Label Value State Frame} :
    LateIn index (steps ++ [(runtime, label)]) ↔
      LateIn index steps ∨ AcceptsLate index runtime label := by
  simp [LateIn, or_and_right, exists_or]

/-- How a step of its own can bring a loop to its end. -/
theorem LoopEffect.ends
    {runtime after : Runtime Value State Frame}
    {index : Nat}
    {cell : ActorCell Value State Frame}
    {events : List (RuntimeEvent Value)}
    (effect : LoopEffect runtime index cell after events)
    (here : runtime.cells[index]? = some cell) :
    ∃ moved,
      after.cells[index]? = some moved ∧
        (cell.position ≠ .leaving ∧ moved.position ≠ .leaving ∧
            moved.position ≠ .ended ∨
          cell.position = .draining ∧ cell.mailbox = [] ∧ events = [] ∧
            moved = { cell with position := .leaving } ∨
          (cell.position = .leaving ∨ cell.position = .unwinding) ∧
            events = [.dropped index] ∧ moved = cell.drop) := by
  cases effect with
  | emptied shape queue =>
      exact ⟨_, modifyCell_here _ here, .inr (.inl ⟨shape, queue, rfl, rfl⟩)⟩
  | dropped shape =>
      exact ⟨_, modifyCell_here _ here, .inr (.inr ⟨shape, rfl, rfl⟩)⟩
  | checked shape =>
      refine ⟨_, modifyCell_here _ here, .inl ⟨by simp [shape], ?_⟩⟩
      cases runtime.stop <;> simp [LoopPosition.atReceive]
  | sent draining channel envelope resume sent shape accepted =>
      obtain ⟨extra, there, -⟩ := OnlyExtended.offered accepted here
      exact ⟨_, modifyCell_here _ there, .inl ⟨by simp [shape], by simp⟩⟩
  | replied draining channel message resume shape empty =>
      have there :
          (runtime.setReply channel
            { buffer := some message, handleAlive := true }).cells[index]? =
            some cell := here
      exact ⟨_, modifyCell_here _ there, .inl ⟨by simp [shape], by simp⟩⟩
  | called draining _ _ _ shape _ _ | skipped draining _ _ _ _ shape _ _ _ =>
      refine ⟨_, modifyCell_here _ here, .inl ⟨?_, by simp⟩⟩
      cases draining <;> simp [shape, LoopPosition.atReceive]
  | started shape _ | timedOut shape _ | returned _ _ _ _ _ shape _ _
  | panicked _ _ shape _ | sendRefused _ _ _ _ _ shape _ _
  | sendStarted _ _ _ _ _ _ shape _ _ | sendFailed _ _ _ _ shape _
  | replyIgnored _ _ _ _ shape _ _ | replyStarted _ _ _ _ _ shape _ _
  | replyFailed _ _ _ _ _ shape _ _ | askedIsRequest _ _ _ shape _
  | computed _ _ _ _ shape _ =>
      exact ⟨_, modifyCell_here _ here, .inl ⟨by simp [shape], by simp⟩⟩

/-- A loop accepts nothing by a step of its own that drops it. -/
theorem not_acceptsLate_own
    {runtime : Runtime Value State Frame}
    {index answer : Nat} :
    ¬ AcceptsLate index runtime (.loop index answer) := by
  rintro ⟨cell, after, events, envelope, here, leaving, step, accepted, -⟩
  obtain ⟨same, shape, effect⟩ := loopStep_cases step
  obtain rfl : cell = same := by simpa [here] using shape
  obtain ⟨moved, -, ⟨notLeaving, -⟩ | ⟨draining, -⟩ | ⟨-, rfl, -⟩⟩ :=
    effect.ends here
  · exact notLeaving leaving
  · simp [leaving] at draining
  · simp at accepted

theorem mem_acceptedEnvelopes
    {index : Nat}
    {envelope : MessageEnvelope Value}
    {events : List (RuntimeEvent Value)} :
    envelope ∈ acceptedEnvelopes index events ↔
      .accepted index envelope ∈ events := by
  constructor
  · intro member
    obtain ⟨event, occurs, shape⟩ := List.mem_filterMap.mp member
    cases event with
    | accepted cell sent =>
        obtain ⟨rfl, rfl⟩ : cell = index ∧ sent = envelope := by
          simpa using shape
        exact occurs
    | _ => simp at shape
  · intro member
    exact List.mem_filterMap.mpr ⟨_, member, by simp⟩

section Step

variable {mailboxCapacity : Nat}
  {steps : List (Runtime Value State Frame × Label Value State Frame)}
  {log events : List (RuntimeEvent Value)}
  {before after : Runtime Value State Frame}
  {label : Label Value State Frame} {index : Nat}
  {cell : ActorCell Value State Frame}

/-- The loop's own step keeps late envelopes in its mailbox, or throws them
away with it. -/
theorem LateLost.own
    {answer : Nat}
    (lost : LateLost steps log index cell)
    (run :
      Machine.Run (machine Value State Frame)
        (withConfig Value State Frame mailboxCapacity) log before)
    (here : before.cells[index]? = some cell)
    (step : before.loopStep? index answer = some (after, events)) :
    ∃ moved,
      after.cells[index]? = some moved ∧
        LateLost (steps ++ [(before, .loop index answer)]) (log ++ events)
          index moved := by
  obtain ⟨same, shape, effect⟩ := loopStep_cases step
  obtain rfl : cell = same := by simpa [here] using shape
  have late :
      LateIn index (steps ++ [(before, .loop index answer)]) ↔
        LateIn index steps := by
    rw [lateIn_snoc, or_iff_left not_acceptsLate_own]
  obtain ⟨moved, there, cases⟩ := effect.ends here
  refine ⟨moved, there, ?_⟩
  have notEnded : cell.position ≠ .ended := by
    intro ended
    have opened := effect.opened
    simp [ended, LoopPosition.isEnded] at opened
  rcases cases with ⟨notLeaving, movedOn, movedOpen⟩ |
    ⟨draining, empty, rfl, rfl⟩ | ⟨leaves, rfl, rfl⟩
  · refine ⟨fun _ _ => ?_, fun leaving => absurd leaving movedOn,
      fun ended => absurd ended movedOpen⟩
    rw [late]
    exact lost.before notLeaving notEnded
  · refine ⟨fun notLeaving => absurd rfl notLeaving, fun _ => ?_,
      fun ended => by cases ended⟩
    rw [late]
    simp only [empty, typedMessages, List.filterMap_nil, true_iff]
    exact lost.before (by simp [draining]) notEnded
  · refine ⟨fun _ opened => absurd rfl opened, fun leaving => (by cases leaving),
      fun _ unpanicked => ?_⟩
    rcases leaves with leaving | unwinding
    · have accepted :=
        mailbox_inOrder run here (by simp [leaving, LoopPosition.isEnded])
      have called := (run_callsMatch run index).2 cell here
      have acceptedSame :
          acceptedEnvelopes index (log ++ [.dropped index]) =
            acceptedEnvelopes index log := by
        simp [acceptedEnvelopes, List.filterMap_append]
      have calledSame :
          calledMessages index (log ++ [.dropped index]) =
            calledMessages index log := by
        simp [calledMessages, List.filterMap_append]
      rw [late, ← lost.leaving leaving, acceptedSame, calledSame, called,
        accepted]
      simp [typedMessages, List.filterMap_append, ActorCell.drop]
    · have returns :=
        run_cells CallsReturn callsReturn_fresh callsReturn_elsewhere
          callsReturn_own run index cell here
      exact absurd
        (List.mem_append_left _ (returns.unwinding unwinding)) unpanicked

/-- A step of somebody else can add a late envelope. -/
theorem LateLost.elsewhere
    (lost : LateLost steps log index cell)
    (here : before.cells[index]? = some cell)
    (step :
      (machine Value State Frame).step? before label = some (after, events))
    (notOwn : ∀ answer, label ≠ .loop index answer) :
    ∃ moved,
      after.cells[index]? = some moved ∧
        LateLost (steps ++ [(before, label)]) (log ++ events) index
          moved := by
  obtain ⟨extra, there, -⟩ := step_others step here notOwn
  obtain ⟨moved, found, -, effect⟩ := step_effect step here
  obtain rfl : { cell with mailbox := cell.mailbox ++ extra } = moved := by
    simpa [there] using found
  refine ⟨_, there, ?_⟩
  have noCalls : calledMessages index events = [] :=
    calledMessages_of_notShown (notShown_of_notOwn step notOwn)
  have calledSame :
      calledMessages index (log ++ events) = calledMessages index log := by
    simp only [calledMessages, List.filterMap_append] at noCalls ⊢
    rw [noCalls, List.append_nil]
  have notLate
      (stays : cell.position ≠ .leaving) :
      ¬ AcceptsLate index before label := by
    rintro ⟨other, -, -, -, otherHere, leaving, -⟩
    obtain rfl : cell = other := by simpa [here] using otherHere
    exact stays leaving
  have late
      (stays : cell.position ≠ .leaving) :
      LateIn index (steps ++ [(before, label)]) ↔ LateIn index steps := by
    rw [lateIn_snoc, or_iff_left (notLate stays)]
  have accepted : acceptedEnvelopes index events = extra ∧
      (cell.position = .ended → extra = []) := by
    rw [← enteredItems_mailboxEvents]
    cases effect with
    | quiet mailbox ended silent uncalled =>
        have none : extra = [] := by simpa using mailbox
        rw [silent, none]
        exact ⟨rfl, fun _ => rfl⟩
    | accepted envelope opened stillOpen mailbox shown uncalled =>
        have one : extra = [envelope] := by simpa using mailbox
        rw [shown, one]
        refine ⟨rfl, fun ended => ?_⟩
        simp [ended, LoopPosition.isEnded] at opened
    | taken envelope opened stillOpen mailbox shown called =>
        have lengths := congrArg List.length mailbox
        simp at lengths
        omega
    | dropped opened ended emptied shown uncalled =>
        simp [opened] at ended
  refine ⟨fun stays opened => ?_, fun leaving => ?_,
    fun ended unpanicked => ?_⟩
  · rw [late stays]
    exact lost.before stays opened
  · have lateNow :
        AcceptsLate index before label ↔
          typedMessages cell.actor.messageType extra ≠ [] := by
      rw [← accepted.1, typedMessages, Ne, List.filterMap_eq_nil_iff]
      constructor
      · rintro ⟨other, next, shown, envelope, otherHere, -, again, member,
          typed⟩ none
        obtain rfl : cell = other := by simpa [here] using otherHere
        obtain ⟨-, rfl⟩ : after = next ∧ events = shown := by
          simpa [step] using again
        simp [none envelope (mem_acceptedEnvelopes.mpr member)] at typed
      · intro some
        obtain ⟨envelope, member, typed⟩ :
            ∃ envelope ∈ acceptedEnvelopes index events,
              envelope.payload.downcast cell.actor.messageType ≠ none := by
          simpa using some
        exact ⟨cell, after, events, envelope, here, leaving, step,
          mem_acceptedEnvelopes.mp member, Option.isSome_iff_ne_none.mpr typed⟩
    have earlier := lost.leaving leaving
    rw [lateIn_snoc, lateNow, not_or, ← earlier, not_not]
    simp [typedMessages, List.filterMap_append]
  · have stays : cell.position ≠ .leaving := by
      intro leaving
      simp [leaving] at ended
    have acceptedSame :
        acceptedEnvelopes index (log ++ events) =
          acceptedEnvelopes index log := by
      have none := accepted.1.trans (accepted.2 ended)
      simp only [acceptedEnvelopes, List.filterMap_append] at none ⊢
      rw [none, List.append_nil]
    rw [late stays, calledSame, acceptedSame]
    exact lost.ended ended fun member =>
      unpanicked (List.mem_append_left events member)

end Step

/-- Over every run, late envelopes are lost, and no others. -/
theorem trace_lateLost
    {mailboxCapacity : Nat}
    {steps : List (Runtime Value State Frame × Label Value State Frame)}
    {log : List (RuntimeEvent Value)}
    {runtime : Runtime Value State Frame}
    (trace :
      Machine.Trace (machine Value State Frame)
        (withConfig Value State Frame mailboxCapacity) steps log runtime)
    (index : Nat) :
    (runtime.cells[index]? = none → ¬ LateIn index steps) ∧
      ∀ cell, runtime.cells[index]? = some cell →
        LateLost steps log index cell := by
  induction trace with
  | nil => exact ⟨fun _ => by simp [LateIn], by simp [withConfig]⟩
  | @snoc steps log events middle final label earlier last
      inductionHypothesis =>
      obtain ⟨absent, present⟩ := inductionHypothesis
      cases here : middle.cells[index]? with
      | none =>
          have notLate : ¬ LateIn index (steps ++ [(middle, label)]) := by
            rw [lateIn_snoc]
            rintro (older | ⟨cell, -, -, -, there, -⟩)
            · exact absent here older
            · simp [here] at there
          refine ⟨fun _ => notLate, fun cell there => ?_⟩
          obtain ⟨-, none | ⟨id, actor, state, fresh⟩⟩ :=
            step_absent last here
          · simp [none] at there
          · obtain rfl : cell = ActorCell.new id actor state := by
              simpa [there] using fresh
            exact ⟨fun _ _ => notLate, fun leaving => (by cases leaving),
              fun ended => (by cases ended)⟩
      | some old =>
          have lost := present old here
          obtain ⟨moved, found, kept⟩ :
              ∃ moved,
                final.cells[index]? = some moved ∧
                  LateLost (steps ++ [(middle, label)]) (log ++ events)
                    index moved := by
            by_cases own : ∃ answer, label = .loop index answer
            · obtain ⟨answer, rfl⟩ := own
              exact lost.own earlier.run here last
            · exact lost.elsewhere here last fun answer same =>
                own ⟨answer, same⟩
          refine ⟨fun none => by simp [none] at found, fun cell there => ?_⟩
          obtain rfl : cell = moved := by simpa [there] using found
          exact kept

/--
A loop that has ended by the stop path has handled every envelope of its type
that was accepted, exactly when none was accepted after it had found its mailbox
empty.
-/
theorem mailbox_drained_iff
    {mailboxCapacity index : Nat}
    {steps : List (Runtime Value State Frame × Label Value State Frame)}
    {log : List (RuntimeEvent Value)}
    {runtime : Runtime Value State Frame}
    {cell : ActorCell Value State Frame}
    (trace :
      Machine.Trace (machine Value State Frame)
        (withConfig Value State Frame mailboxCapacity) steps log runtime)
    (here : runtime.cells[index]? = some cell)
    (ended : cell.position = .ended)
    (unpanicked : .panicked index ∉ log) :
    Drained log index cell ↔ ¬ LateIn index steps := by
  have lost := (trace_lateLost trace index).2 cell here
  have returns :=
    run_cells CallsReturn callsReturn_fresh callsReturn_elsewhere
      callsReturn_own trace.run index cell here
  have counted := returns.counted unpanicked
  simp only [callUnderWay, ended, LoopPosition.stage, reduceCtorEq,
    ↓reduceIte, Nat.add_zero] at counted
  rw [← lost.ended ended unpanicked]
  exact ⟨fun drained => drained.called, fun called => ⟨called, counted.symm⟩⟩

/-- The stop flag is set with one message queued; the loop takes it and finds
its mailbox empty. -/
def drainedOnce : List (Label Nat Nat Nat) :=
  [.spawn echo 0, .send ⟨1⟩ ⟨0, 10⟩, .shutdown, .loop 0 0, .loop 0 0,
    .loop 0 0, .loop 0 0, .loop 0 0, .loop 0 0]

theorem mailbox_drained_iff_once :
    ∃ steps runtime log cell,
      Machine.Trace (machine Nat Nat Nat) (withConfig Nat Nat Nat 5)
          steps log runtime ∧
        runtime.cells[0]? = some cell ∧
        cell.position = .ended ∧
        acceptedEnvelopes 0 log = [.message ⟨0, 10⟩] ∧
        Drained log 0 cell ∧
        ¬ LateIn 0 steps := by
  obtain ⟨runtime, log, cell, executed, here, ended, accepted, shown,
      called, returned⟩ :
      ∃ runtime log cell,
        (machine Nat Nat Nat).run? (withConfig Nat Nat Nat 5)
            (drainedOnce ++ [.loop 0 0]) = some (runtime, log) ∧
          runtime.cells[0]? = some cell ∧
          cell.position = .ended ∧
          acceptedEnvelopes 0 log = [.message ⟨0, 10⟩] ∧
          log =
            [.spawned ⟨1⟩ 0, .accepted 0 (.message ⟨0, 10⟩),
              .answered (.ok ()), .taken 0 (.message ⟨0, 10⟩), .called 0 10,
              .handled 0, .dropped 0] ∧
          calledMessages 0 log =
            typedMessages cell.actor.messageType (acceptedEnvelopes 0 log) ∧
          log.countP (isHandled 0) = (calledMessages 0 log).length :=
    ⟨_, _, _, rfl, rfl, rfl, rfl, rfl, rfl, rfl⟩
  obtain ⟨steps, trace⟩ := Machine.run?_trace _ executed
  have drained : Drained log 0 cell := ⟨called, returned⟩
  exact ⟨steps, runtime, log, cell, trace, here, ended, accepted, drained,
    (mailbox_drained_iff trace here ended (by simp [shown])).mp drained⟩

/-- An actor that passes on a message to the first actor. -/
def passesOn : Actor Nat Nat Nat where
  messageType := 0
  handle := fun _ _ => 1
  next
    | 1 => .sendTo ⟨1⟩ ⟨0, 11⟩ fun _ => 0
    | _ => .returns 0

/-- The second actor has come to its `send_to` call when the stop flag is set.
The loop of the first one takes its message and finds its mailbox empty; then
the call of the second one returns. -/
def sentInGap : List (Label Nat Nat Nat) :=
  [.spawn echo 0, .spawn passesOn 0, .send ⟨1⟩ ⟨0, 10⟩, .send ⟨2⟩ ⟨0, 7⟩,
    .loop 1 0, .loop 1 0, .loop 1 0, .shutdown, .loop 0 0, .loop 0 0,
    .loop 0 0, .loop 0 0, .loop 0 0, .loop 0 0, .loop 1 0, .loop 1 0]

/-- A message that another actor sends before the receiver is dropped is
accepted and never handled. -/
theorem mailbox_not_drained :
    ∃ runtime log cell,
      (machine Nat Nat Nat).run? (withConfig Nat Nat Nat 5)
          (sentInGap ++ [.loop 0 0]) = some (runtime, log) ∧
        runtime.cells[0]? = some cell ∧
        cell.position = .ended ∧
        .panicked 0 ∉ log ∧
        .sendReturned 1 (.ok ()) ∈ log ∧
        acceptedEnvelopes 0 log = [.message ⟨0, 10⟩, .message ⟨0, 11⟩] ∧
        calledMessages 0 log = [10] ∧
        ¬ Drained log 0 cell := by
  obtain ⟨runtime, log, cell, executed, here, ended, accepted, shown,
      called, messageType⟩ :
      ∃ runtime log cell,
        (machine Nat Nat Nat).run? (withConfig Nat Nat Nat 5)
            (sentInGap ++ [.loop 0 0]) = some (runtime, log) ∧
          runtime.cells[0]? = some cell ∧
          cell.position = .ended ∧
          acceptedEnvelopes 0 log = [.message ⟨0, 10⟩, .message ⟨0, 11⟩] ∧
          log =
            [.spawned ⟨1⟩ 0, .spawned ⟨2⟩ 1, .accepted 0 (.message ⟨0, 10⟩),
              .answered (.ok ()), .accepted 1 (.message ⟨0, 7⟩),
              .answered (.ok ()), .taken 1 (.message ⟨0, 7⟩), .called 1 7,
              .taken 0 (.message ⟨0, 10⟩), .called 0 10, .handled 0,
              .accepted 0 (.message ⟨0, 11⟩), .sendReturned 1 (.ok ()),
              .dropped 0] ∧
          calledMessages 0 log = [10] ∧
          cell.actor.messageType = 0 :=
    ⟨_, _, _, rfl, rfl, rfl, rfl, rfl, rfl, rfl⟩
  refine ⟨runtime, log, cell, executed, here, ended, by simp [shown],
    by simp [shown], accepted, called, fun drained => ?_⟩
  have all := drained.called
  simp [called, accepted, messageType, typedMessages,
    MessageEnvelope.payload, AnyBox.downcast] at all

end Runact.Runtime
