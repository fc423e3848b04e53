import Runact.Runtime

namespace Runact.Runtime

/-!
# What a step of the runtime leaves alone

A loop step changes cells and reply channels only, and shows its own events and
the envelopes it sends; everybody else can do no more to an actor loop than put
envelopes at the back of its mailbox.
-/

universe u

variable {Value State Frame : Type u}

theorem modifyCell_cells
    (runtime : Runtime Value State Frame)
    (changed index : Nat)
    (change : ActorCell Value State Frame → ActorCell Value State Frame) :
    (runtime.modifyCell changed change).cells[index]? =
      if changed = index then runtime.cells[index]?.map change
      else runtime.cells[index]? := by
  simp only [modifyCell, List.getElem?_modify]
  split <;> simp

/-- The cell that is changed. -/
theorem modifyCell_here
    {runtime : Runtime Value State Frame}
    {index : Nat}
    {cell : ActorCell Value State Frame}
    (change : ActorCell Value State Frame → ActorCell Value State Frame)
    (here : runtime.cells[index]? = some cell) :
    (runtime.modifyCell index change).cells[index]? = some (change cell) := by
  rw [modifyCell_cells, here]
  simp

/-- An accepted offer appends the envelope to an open mailbox with room. -/
theorem offer_eq_accepted
    {runtime after : Runtime Value State Frame}
    {blocking : Bool}
    {channel : Nat}
    {envelope : MessageEnvelope Value}
    (accepted : runtime.offer blocking channel envelope = .accepted after) :
    ∃ cell,
      runtime.cells[channel]? = some cell ∧
        cell.position.isEnded = false ∧
        hasRoom runtime.mailboxCapacity blocking cell = true ∧
        after = runtime.modifyCell channel fun cell =>
          { cell with mailbox := cell.mailbox ++ [envelope] } := by
  unfold offer at accepted
  cases shape : runtime.cells[channel]? with
  | none =>
      simp [shape] at accepted
  | some cell =>
      simp only [shape] at accepted
      split at accepted
      · cases accepted
      · rename_i opened
        split at accepted
        · rename_i room
          simp only [Offer.accepted.injEq] at accepted
          exact ⟨cell, rfl, by simpa using opened, room, accepted.symm⟩
        · cases accepted

/-- An open mailbox with room accepts. -/
theorem offer_of_room
    {runtime : Runtime Value State Frame}
    {blocking : Bool}
    {channel : Nat}
    {envelope : MessageEnvelope Value}
    {cell : ActorCell Value State Frame}
    (here : runtime.cells[channel]? = some cell)
    (opened : cell.position.isEnded = false)
    (room : hasRoom runtime.mailboxCapacity blocking cell = true) :
    runtime.offer blocking channel envelope =
      .accepted (runtime.modifyCell channel fun cell =>
        { cell with mailbox := cell.mailbox ++ [envelope] }) := by
  simp [offer, here, opened, room]

/-- Cells and reply channels are all that differs, and no cell is added. -/
structure OnlyLoops (before after : Runtime Value State Frame) : Prop where
  same :
    after = { before with cells := after.cells, replies := after.replies }
  length : after.cells.length = before.cells.length

theorem onlyLoops_modifyCell
    (runtime : Runtime Value State Frame)
    (index : Nat)
    (change : ActorCell Value State Frame → ActorCell Value State Frame) :
    OnlyLoops runtime (runtime.modifyCell index change) :=
  ⟨rfl, List.length_modify _ _ _⟩

theorem onlyLoops_of_offer
    {runtime after : Runtime Value State Frame}
    {blocking : Bool}
    {channel : Nat}
    {envelope : MessageEnvelope Value}
    (accepted : runtime.offer blocking channel envelope = .accepted after) :
    OnlyLoops runtime after := by
  obtain ⟨cell, -, -, -, rfl⟩ := offer_eq_accepted accepted
  exact onlyLoops_modifyCell runtime channel _

section Offer

variable {before sent : Runtime Value State Frame} {blocking : Bool}
  {channel : Nat} {envelope : MessageEnvelope Value}

@[grind →] theorem lt_of_offer
    (accepted : before.offer blocking channel envelope = .accepted sent) :
    channel < before.cells.length := by
  obtain ⟨target, there, -⟩ := offer_eq_accepted accepted
  exact (List.getElem?_eq_some_iff.mp there).1

@[grind →] theorem offer_cells_length
    (accepted : before.offer blocking channel envelope = .accepted sent) :
    sent.cells.length = before.cells.length :=
  (onlyLoops_of_offer accepted).length

@[grind →] theorem offer_mailboxCapacity
    (accepted : before.offer blocking channel envelope = .accepted sent) :
    sent.mailboxCapacity = before.mailboxCapacity := by
  rw [(onlyLoops_of_offer accepted).same]

@[grind →] theorem offer_actors
    (accepted : before.offer blocking channel envelope = .accepted sent) :
    sent.actors = before.actors := by
  rw [(onlyLoops_of_offer accepted).same]

@[grind →] theorem offer_stop
    (accepted : before.offer blocking channel envelope = .accepted sent) :
    sent.stop = before.stop := by
  rw [(onlyLoops_of_offer accepted).same]

@[grind →] theorem offer_shutdownPhase
    (accepted : before.offer blocking channel envelope = .accepted sent) :
    sent.shutdownPhase = before.shutdownPhase := by
  rw [(onlyLoops_of_offer accepted).same]

@[grind →] theorem offer_joined
    (accepted : before.offer blocking channel envelope = .accepted sent) :
    sent.joined = before.joined := by
  rw [(onlyLoops_of_offer accepted).same]

@[grind →] theorem offer_writerWaits
    (accepted : before.offer blocking channel envelope = .accepted sent) :
    sent.writerWaits = before.writerWaits := by
  rw [(onlyLoops_of_offer accepted).same]

end Offer

/-- Handler code changes no more than its own loop. -/
theorem handlerStep_onlyLoops
    (runtime : Runtime Value State Frame)
    (loop answer : Nat)
    (cell : ActorCell Value State Frame)
    (draining : Bool)
    (frame : Frame) :
    OnlyLoops runtime
      (runtime.handlerStep loop cell draining frame answer).1 := by
  unfold handlerStep
  split
  · exact onlyLoops_modifyCell runtime loop _
  · exact onlyLoops_modifyCell runtime loop _
  · split <;> exact onlyLoops_modifyCell runtime loop _
  · split <;> exact onlyLoops_modifyCell runtime loop _
  · exact onlyLoops_modifyCell runtime loop _
  · exact onlyLoops_modifyCell runtime loop _

/-- The actor loop whose own step an event is, if it is one. -/
def shownBy : RuntimeEvent Value → Option Nat
  | .taken cell _ => some cell
  | .called cell _ => some cell
  | .handled cell => some cell
  | .panicked cell => some cell
  | .sendReturned cell _ => some cell
  | .replied cell _ _ => some cell
  | .replyReturned cell _ => some cell
  | .toldIsRequest cell _ => some cell
  | .yielded cell => some cell
  | .timedOut cell => some cell
  | .dropped cell => some cell
  | _ => none

/-- What is seen of a loop's own events only is not seen among the events of
others. -/
theorem filterMap_of_notShown
    {Item : Type*}
    {index : Nat}
    {see : RuntimeEvent Value → Option Item}
    {events : List (RuntimeEvent Value)}
    (own : ∀ {event item}, see event = some item → shownBy event = some index)
    (notShown : ∀ event ∈ events, shownBy event ≠ some index) :
    events.filterMap see = [] := by
  refine List.filterMap_eq_nil_iff.mpr fun event member => ?_
  rw [Option.eq_none_iff_forall_ne_some]
  exact fun item seen => notShown event member (own seen)

theorem finishIteration_shownBy
    {cell : ActorCell Value State Frame}
    {loop : Nat}
    {draining : Bool}
    {event : RuntimeEvent Value}
    (member : event ∈ (cell.finishIteration loop draining).2) :
    shownBy event = some loop := by
  unfold ActorCell.finishIteration at member
  grind [shownBy]

theorem takeEnvelope_shownBy
    {cell : ActorCell Value State Frame}
    {loop : Nat}
    {draining : Bool}
    {envelope : MessageEnvelope Value}
    {rest : List (MessageEnvelope Value)}
    {event : RuntimeEvent Value}
    (member : event ∈ (cell.takeEnvelope loop draining envelope rest).2) :
    shownBy event = some loop := by
  unfold ActorCell.takeEnvelope at member
  split at member
  · grind [shownBy]
  · rcases List.mem_cons.mp member with rfl | finished
    · rfl
    · exact finishIteration_shownBy finished

theorem handlerStep_shownBy
    {runtime : Runtime Value State Frame}
    {cell : ActorCell Value State Frame}
    {loop answer : Nat}
    {draining : Bool}
    {frame : Frame}
    {event : RuntimeEvent Value}
    (member :
      event ∈ (runtime.handlerStep loop cell draining frame answer).2) :
    shownBy event = some loop := by
  unfold handlerStep at member
  split at member
  · rcases List.mem_cons.mp member with rfl | finished
    · rfl
    · exact finishIteration_shownBy finished
  all_goals grind [shownBy]

/-- What a loop step shows: events of its own, and envelopes it has sent. -/
theorem loopStep_shows
    {runtime after : Runtime Value State Frame}
    {loop answer : Nat}
    {events : List (RuntimeEvent Value)}
    (step : runtime.loopStep? loop answer = some (after, events)) :
    ∀ event ∈ events,
      (shownBy event = some loop ∧ loop < runtime.cells.length) ∨
        ∃ channel envelope,
          event = .accepted channel envelope ∧
            channel < runtime.cells.length := by
  intro event member
  unfold loopStep? at step
  cases loopCell : runtime.cells[loop]? with
  | none =>
      simp [loopCell] at step
  | some cell =>
      have inside := (List.getElem?_eq_some_iff.mp loopCell).1
      simp only [loopCell] at step
      cases shape : cell.position with
      | sending draining channel envelope resume =>
          simp only [shape] at step
          split at step
          · rename_i accepted
            obtain ⟨target, there, -⟩ := offer_eq_accepted accepted
            have targetInside := (List.getElem?_eq_some_iff.mp there).1
            grind [shownBy]
          · cases step
          · grind [shownBy]
      | _ =>
          simp only [shape] at step
          grind [shownBy, takeEnvelope_shownBy, handlerStep_shownBy]

/-- A loop step changes cells and reply channels only. -/
theorem loopStep_onlyLoops
    {runtime after : Runtime Value State Frame}
    {loop answer : Nat}
    {events : List (RuntimeEvent Value)}
    (step : runtime.loopStep? loop answer = some (after, events)) :
    OnlyLoops runtime after := by
  unfold loopStep? at step
  cases loopCell : runtime.cells[loop]? with
  | none =>
      simp [loopCell] at step
  | some cell =>
      simp only [loopCell] at step
      cases shape : cell.position with
      | handling draining frame =>
          simp only [shape, Option.ite_none_left_eq_some, Option.some.injEq]
            at step
          have unchanged :
              OnlyLoops runtime
                (runtime.handlerStep loop cell draining frame answer).1 :=
            handlerStep_onlyLoops runtime loop answer cell draining frame
          rwa [step.2] at unchanged
      | sending draining channel envelope resume =>
          simp only [shape] at step
          split at step
          · rename_i sent accepted
            simp only [Option.some.injEq, Prod.mk.injEq] at step
            obtain ⟨rfl, rfl⟩ := step
            obtain ⟨target, -, -, -, rfl⟩ := offer_eq_accepted accepted
            exact ⟨rfl, by simp [moveTo, modifyCell]⟩
          · cases step
          · simp only [Option.some.injEq, Prod.mk.injEq] at step
            obtain ⟨rfl, rfl⟩ := step
            exact onlyLoops_modifyCell runtime loop _
      | replying draining channel message resume =>
          simp only [shape] at step
          split at step
          · cases step
          · split at step
            · split at step
              · cases step
              · simp only [Option.some.injEq, Prod.mk.injEq] at step
                obtain ⟨rfl, rfl⟩ := step
                exact ⟨rfl, by simp [moveTo, modifyCell, setReply]⟩
            · simp only [Option.some.injEq, Prod.mk.injEq] at step
              obtain ⟨rfl, rfl⟩ := step
              exact onlyLoops_modifyCell runtime loop _
      | ended =>
          simp [shape] at step
      | _ =>
          simp only [shape] at step
          grind [moveTo, onlyLoops_modifyCell]

/-- Everyone but the loop itself can only add to the back of its mailbox, and
only when there is room. -/
def OnlyExtended
    (index : Nat)
    (before : ActorCell Value State Frame)
    (after : Runtime Value State Frame) : Prop :=
  ∃ extra,
    after.cells[index]? =
        some { before with mailbox := before.mailbox ++ extra } ∧
      (extra = [] ∨
        ∃ blocking, hasRoom after.mailboxCapacity blocking before = true)

theorem OnlyExtended.same
    {index : Nat}
    {before : ActorCell Value State Frame}
    {after : Runtime Value State Frame}
    (here : after.cells[index]? = some before) :
    OnlyExtended index before after :=
  ⟨[], by simp [here], .inl rfl⟩

theorem OnlyExtended.modify
    {runtime : Runtime Value State Frame}
    {changed index : Nat}
    {change : ActorCell Value State Frame → ActorCell Value State Frame}
    {before : ActorCell Value State Frame}
    (here : runtime.cells[index]? = some before)
    (different : changed ≠ index) :
    OnlyExtended index before (runtime.modifyCell changed change) :=
  .same (by rw [modifyCell_cells]; simp [different, here])

theorem OnlyExtended.offered
    {runtime after : Runtime Value State Frame}
    {blocking : Bool}
    {channel index : Nat}
    {envelope : MessageEnvelope Value}
    {before : ActorCell Value State Frame}
    (accepted : runtime.offer blocking channel envelope = .accepted after)
    (here : runtime.cells[index]? = some before) :
    OnlyExtended index before after := by
  obtain ⟨cell, there, -, room, rfl⟩ := offer_eq_accepted accepted
  by_cases same : channel = index
  · subst same
    obtain rfl : cell = before := by simpa [there] using here
    exact ⟨[envelope], by rw [modifyCell_cells]; simp [here],
      .inr ⟨blocking, room⟩⟩
  · exact .modify here same

/-- Handler code changes its own loop only. -/
theorem handlerStep_others
    {runtime : Runtime Value State Frame}
    {loop index : Nat}
    {cell before : ActorCell Value State Frame}
    {draining : Bool}
    {frame : Frame}
    (answer : Nat)
    (here : runtime.cells[index]? = some before)
    (different : loop ≠ index) :
    OnlyExtended index before
      (runtime.handlerStep loop cell draining frame answer).1 := by
  unfold handlerStep
  split
  · exact .modify here different
  · exact .modify here different
  · split <;> exact .modify here different
  · split <;> exact .modify here different
  · exact .modify here different
  · exact .modify here different

/-- A loop step of one actor only extends the mailboxes of the others. -/
theorem loopStep_others
    {runtime after : Runtime Value State Frame}
    {loop answer index : Nat}
    {before : ActorCell Value State Frame}
    {events : List (RuntimeEvent Value)}
    (step : runtime.loopStep? loop answer = some (after, events))
    (here : runtime.cells[index]? = some before)
    (different : loop ≠ index) :
    OnlyExtended index before after := by
  unfold loopStep? at step
  cases loopCell : runtime.cells[loop]? with
  | none =>
      simp [loopCell] at step
  | some cell =>
      simp only [loopCell] at step
      cases shape : cell.position with
      | queued =>
          simp only [shape] at step
          split at step
          · cases step
          · simp only [Option.some.injEq, Prod.mk.injEq] at step
            obtain ⟨rfl, rfl⟩ := step
            exact .modify here different
      | draining =>
          simp only [shape] at step
          split at step <;>
            simp only [Option.some.injEq, Prod.mk.injEq] at step <;>
            obtain ⟨rfl, rfl⟩ := step <;>
            exact .modify here different
      | receiving =>
          simp only [shape] at step
          split at step <;>
            simp only [Option.some.injEq, Prod.mk.injEq] at step <;>
            obtain ⟨rfl, rfl⟩ := step <;>
            exact .modify here different
      | handling draining frame =>
          simp only [shape, Option.ite_none_left_eq_some, Option.some.injEq]
            at step
          have effect :
              OnlyExtended index before
                (runtime.handlerStep loop cell draining frame answer).1 :=
            handlerStep_others answer here different
          rwa [step.2] at effect
      | sending draining channel envelope resume =>
          simp only [shape] at step
          split at step
          · rename_i sent accepted
            simp only [Option.some.injEq, Prod.mk.injEq] at step
            obtain ⟨rfl, rfl⟩ := step
            obtain ⟨extra, extended, room⟩ :=
              OnlyExtended.offered accepted here
            refine ⟨extra, ?_, room⟩
            rw [moveTo, modifyCell_cells, extended]
            simp [different]
          · cases step
          · simp only [Option.some.injEq, Prod.mk.injEq] at step
            obtain ⟨rfl, rfl⟩ := step
            exact .modify here different
      | replying draining channel message resume =>
          simp only [shape] at step
          split at step
          · cases step
          · split at step
            · split at step
              · cases step
              · simp only [Option.some.injEq, Prod.mk.injEq] at step
                obtain ⟨rfl, rfl⟩ := step
                refine .same ?_
                rw [moveTo, modifyCell_cells]
                simp [different, setReply, here]
            · simp only [Option.some.injEq, Prod.mk.injEq] at step
              obtain ⟨rfl, rfl⟩ := step
              exact .modify here different
      | ended =>
          simp [shape] at step
      | _ =>
          simp only [shape, Option.some.injEq, Prod.mk.injEq] at step
          obtain ⟨rfl, rfl⟩ := step
          exact .modify here different

/-- Only its own steps move an actor loop. -/
theorem step_others
    {runtime after : Runtime Value State Frame}
    {label : Label Value State Frame}
    {index : Nat}
    {before : ActorCell Value State Frame}
    {events : List (RuntimeEvent Value)}
    (step :
      (machine Value State Frame).step? runtime label = some (after, events))
    (here : runtime.cells[index]? = some before)
    (notOwn : ∀ answer, label ≠ .loop index answer) :
    OnlyExtended index before after := by
  cases label with
  | loop moved answer =>
      refine loopStep_others step here fun same => ?_
      exact notOwn answer (same ▸ rfl)
  | spawn actor state =>
      simp only [machine, spawn, Option.ite_none_right_eq_some,
        Option.some.injEq, Prod.mk.injEq] at step
      obtain ⟨-, rfl, rfl⟩ := step
      have inside := (List.getElem?_eq_some_iff.mp here).1
      exact .same (by simp [List.getElem?_append_left inside, here])
  | request call target message =>
      simp only [machine] at step
      cases claimed : runtime.claimedRequests[call]? with
      | none =>
          simp [claimed] at step
      | some requestId =>
          simp only [claimed, request, Option.ite_none_left_eq_some,
            Option.some.injEq] at step
          obtain ⟨-, step⟩ := step
          split at step
          · obtain ⟨rfl, rfl⟩ := Prod.mk.inj step
            exact .same here
          · split at step <;> obtain ⟨rfl, rfl⟩ := Prod.mk.inj step
            · rename_i accepted
              have extended := OnlyExtended.offered accepted here
              exact extended
            · exact .same here
            · exact .same here
  | send target message =>
      simp only [machine, send, Option.ite_none_left_eq_some,
        Option.some.injEq] at step
      obtain ⟨-, step⟩ := step
      split at step
      · obtain ⟨rfl, rfl⟩ := Prod.mk.inj step
        exact .same here
      · split at step <;> obtain ⟨rfl, rfl⟩ := Prod.mk.inj step
        · exact .offered ‹_› here
        · exact .same here
        · exact .same here
  | unblock waiting =>
      simp only [machine, unblock?] at step
      split at step
      · cases step
      · split at step
        · rename_i accepted
          simp only [Option.some.injEq, Prod.mk.injEq] at step
          obtain ⟨rfl, rfl⟩ := step
          have extended := OnlyExtended.offered accepted here
          exact extended
        · cases step
        · simp only [Option.some.injEq, Prod.mk.injEq] at step
          obtain ⟨rfl, rfl⟩ := step
          exact .same here
  | _ =>
      refine .same ?_
      simp only [machine, spawnSupervisor, sendBlocking, deliverTimer,
        shutdownStep?] at step
      grind [setReply]

/-- Whoever is not a loop shows no event of a loop, and sends to a loop that is
there. -/
theorem otherStep_shows
    {runtime after : Runtime Value State Frame}
    {label : Label Value State Frame}
    {events : List (RuntimeEvent Value)}
    (step :
      (machine Value State Frame).step? runtime label = some (after, events))
    (notLoop : ∀ loop answer, label ≠ .loop loop answer) :
    ∀ event ∈ events,
      shownBy event = none ∧
        ∀ channel envelope,
          event = .accepted channel envelope →
            channel < runtime.cells.length := by
  intro event member
  cases label with
  | loop moved answer =>
      exact (notLoop moved answer rfl).elim
  | request call target message =>
      simp only [machine] at step
      cases claimed : runtime.claimedRequests[call]? with
      | none =>
          simp [claimed] at step
      | some requestId =>
          simp only [claimed, request, Option.ite_none_left_eq_some,
            Option.some.injEq] at step
          obtain ⟨-, step⟩ := step
          split at step
          · grind [shownBy]
          · split at step <;> grind [shownBy]
  | _ =>
      simp only [machine, spawn, spawnSupervisor, send, sendBlocking,
        deliverTimer, unblock?, shutdownStep?] at step
      grind [shownBy]

/-- Events are shown by, and envelopes sent to, loops that are there. -/
theorem step_shows
    {runtime after : Runtime Value State Frame}
    {label : Label Value State Frame}
    {events : List (RuntimeEvent Value)}
    (step :
      (machine Value State Frame).step? runtime label = some (after, events)) :
    ∀ event ∈ events,
      (∀ index, shownBy event = some index → index < runtime.cells.length) ∧
        ∀ channel envelope,
          event = .accepted channel envelope →
            channel < runtime.cells.length := by
  intro event member
  by_cases own : ∃ loop answer, label = .loop loop answer
  · obtain ⟨loop, answer, rfl⟩ := own
    rcases loopStep_shows step event member with
      ⟨shown, inside⟩ | ⟨channel, envelope, rfl, inside⟩
    · refine ⟨fun index same => ?_, fun channel envelope sent => ?_⟩
      · obtain rfl : loop = index := by simpa [shown] using same
        exact inside
      · simp [sent, shownBy] at shown
    · refine ⟨fun index same => by simp [shownBy] at same, ?_⟩
      intro other sent same
      obtain ⟨rfl, -⟩ := RuntimeEvent.accepted.inj same
      exact inside
  · have notLoop (loop answer : Nat) : label ≠ .loop loop answer :=
      fun same => own ⟨loop, answer, same⟩
    obtain ⟨notShown, inside⟩ := otherStep_shows step notLoop event member
    exact ⟨fun index same => by simp [notShown] at same, inside⟩

/-- A loop shows its own events only, in steps of its own. -/
theorem notShown_of_notOwn
    {runtime after : Runtime Value State Frame}
    {label : Label Value State Frame}
    {index : Nat}
    {events : List (RuntimeEvent Value)}
    (step :
      (machine Value State Frame).step? runtime label = some (after, events))
    (notOwn : ∀ answer, label ≠ .loop index answer) :
    ∀ event ∈ events, shownBy event ≠ some index := by
  intro event member shown
  by_cases own : ∃ loop answer, label = .loop loop answer
  · obtain ⟨loop, answer, rfl⟩ := own
    rcases loopStep_shows step event member with
      ⟨same, -⟩ | ⟨channel, envelope, rfl, -⟩
    · obtain rfl : loop = index := by simpa [same] using shown
      exact notOwn answer rfl
    · simp [shownBy] at shown
  · have notShown :=
      (otherStep_shows step
        (fun loop answer same => own ⟨loop, answer, same⟩) event member).1
    simp [notShown] at shown

/-- Cells are added at the end, one at a time, and never removed. -/
theorem step_cells_length
    {runtime after : Runtime Value State Frame}
    {label : Label Value State Frame}
    {events : List (RuntimeEvent Value)}
    (step :
      (machine Value State Frame).step? runtime label = some (after, events)) :
    after.cells.length = runtime.cells.length ∨
      ∃ id actor state,
        after.cells = runtime.cells ++ [ActorCell.new id actor state] := by
  cases label with
  | spawn actor state =>
      simp only [machine, spawn, Option.ite_none_right_eq_some,
        Option.some.injEq, Prod.mk.injEq] at step
      obtain ⟨-, rfl, rfl⟩ := step
      exact .inr ⟨_, actor, state, rfl⟩
  | loop moved answer =>
      exact .inl (loopStep_onlyLoops step).length
  | request call target message =>
      refine .inl ?_
      simp only [machine] at step
      cases claimed : runtime.claimedRequests[call]? with
      | none =>
          simp [claimed] at step
      | some requestId =>
          simp only [claimed, request, Option.ite_none_left_eq_some,
            Option.some.injEq] at step
          obtain ⟨-, step⟩ := step
          split at step
          · grind
          · split at step <;> grind
  | _ =>
      refine .inl ?_
      simp only [machine, spawnSupervisor, send, sendBlocking,
        deliverTimer, unblock?, shutdownStep?] at step
      grind [setReply]

/-- The mailbox capacity is never changed. -/
theorem step_mailboxCapacity
    {runtime after : Runtime Value State Frame}
    {label : Label Value State Frame}
    {events : List (RuntimeEvent Value)}
    (step :
      (machine Value State Frame).step? runtime label = some (after, events)) :
    after.mailboxCapacity = runtime.mailboxCapacity := by
  cases label with
  | loop moved answer =>
      rw [(loopStep_onlyLoops step).same]
  | request call target message =>
      simp only [machine] at step
      cases claimed : runtime.claimedRequests[call]? with
      | none =>
          simp [claimed] at step
      | some requestId =>
          simp only [claimed, request, Option.ite_none_left_eq_some,
            Option.some.injEq] at step
          obtain ⟨-, step⟩ := step
          split at step
          · grind
          · split at step <;> grind
  | _ =>
      simp only [machine, spawn, spawnSupervisor, send, sendBlocking,
        deliverTimer, unblock?, shutdownStep?] at step
      grind [setReply]

end Runact.Runtime
