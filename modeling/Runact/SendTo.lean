import Runact.RuntimeFrame

namespace Runact.Runtime

/-!
# Actor-to-actor sends

`send_to` reads the senders map and uses the blocking `send` of the target's
channel.  An actor at a `send_to` call gets past it on its own exactly when the
target is unknown, gone, or has room, and no writer of the map keeps it out;
actors that wait for each other's full mailboxes wait for ever.
-/

universe u

variable {Value State Frame : Type u}

/-- The mailbox capacity of a runtime never changes. -/
theorem run_mailboxCapacity
    {initial runtime : Runtime Value State Frame}
    {log : List (RuntimeEvent Value)}
    (run : Machine.Run (machine Value State Frame) initial log runtime) :
    runtime.mailboxCapacity = initial.mailboxCapacity := by
  refine run.invariant
    (fun runtime => runtime.mailboxCapacity = initial.mailboxCapacity)
    (fun {before label after events} same step => ?_) rfl
  exact (step_mailboxCapacity step).trans same

/-- The channel of a cell is disconnected or below its capacity. -/
def ChannelReady
    (runtime : Runtime Value State Frame)
    (channel : Nat) : Prop :=
  ∀ cell, runtime.cells[channel]? = some cell →
    cell.position.isEnded = true ∨
      cell.mailbox.length < runtime.mailboxCapacity

/-- A handler has come to a `send_to` call, or is inside the `send` of one. -/
inductive AtSendTo
    (cell : ActorCell Value State Frame) : Prop where
  | calling
      (draining : Bool) (frame : Frame) (target : ActorId)
      (message : AnyBox Value) (resume : Except RuntimeError Unit → Frame) :
      cell.position = .handling draining frame →
      cell.actor.next frame = .sendTo target message resume →
      AtSendTo cell
  | inside
      (draining : Bool) (channel : Nat) (envelope : MessageEnvelope Value)
      (resume : Except RuntimeError Unit → Frame) :
      cell.position = .sending draining channel envelope resume →
      AtSendTo cell

/-- Nothing keeps the `send_to` call waiting.  At the call no writer waits for
the senders, and the target is not registered or its channel is ready; inside
`send` the channel is ready. -/
def TargetReady
    (runtime : Runtime Value State Frame)
    (cell : ActorCell Value State Frame) : Prop :=
  match cell.position with
  | .handling _ frame =>
      match cell.actor.next frame with
      | .sendTo target _ _ =>
          runtime.writerWaits = false ∧
            ∀ channel, runtime.senders.lookup target = some channel →
              ChannelReady runtime channel
      | _ => True
  | .sending _ channel _ _ => ChannelReady runtime channel
  | _ => True

/-- Some number of steps of this actor alone, and its `send_to` returns. -/
def CompletesAlone
    (runtime : Runtime Value State Frame)
    (index : Nat) : Prop :=
  ∃ (answers : List Nat) (after : Runtime Value State Frame)
      (events : List (RuntimeEvent Value))
      (result : Except RuntimeError Unit),
    (machine Value State Frame).run? runtime
        (answers.map (Label.loop index)) = some (after, events) ∧
      .sendReturned index result ∈ events

/-- The next step of the actor is the return of its call. -/
theorem CompletesAlone.now
    {runtime after : Runtime Value State Frame}
    {index : Nat}
    {events : List (RuntimeEvent Value)}
    {result : Except RuntimeError Unit}
    (step : runtime.loopStep? index 0 = some (after, events))
    (returned : .sendReturned index result ∈ events) :
    CompletesAlone runtime index := by
  refine ⟨[0], after, events, result, ?_, returned⟩
  simp [Machine.run?, machine, step]

/-- An actor that cannot take a step does not complete its call. -/
theorem not_completesAlone_of_stuck
    {runtime : Runtime Value State Frame}
    {index : Nat}
    (stuck : ∀ answer, runtime.loopStep? index answer = none) :
    ¬ CompletesAlone runtime index := by
  rintro ⟨answers, after, events, result, executed, returned⟩
  cases answers with
  | nil =>
      simp only [List.map_nil, Machine.run?, Option.some.injEq,
        Prod.mk.injEq] at executed
      obtain ⟨rfl, rfl⟩ := executed
      simp at returned
  | cons answer rest =>
      simp [Machine.run?, machine, stuck] at executed

/-- A silent first step leaves the question to the state behind it. -/
theorem completesAlone_iff_of_silent
    {runtime after : Runtime Value State Frame}
    {index : Nat}
    (step : ∀ answer, runtime.loopStep? index answer = some (after, [])) :
    CompletesAlone runtime index ↔ CompletesAlone after index := by
  constructor
  · rintro ⟨answers, final, events, result, executed, returned⟩
    cases answers with
    | nil =>
        simp only [List.map_nil, Machine.run?, Option.some.injEq,
          Prod.mk.injEq] at executed
        obtain ⟨rfl, rfl⟩ := executed
        simp at returned
    | cons answer rest =>
        refine ⟨rest, final, events, result, ?_, returned⟩
        simpa [Machine.run?, machine, step] using executed
  · rintro ⟨answers, final, events, result, executed, returned⟩
    refine ⟨0 :: answers, final, events, result, ?_, returned⟩
    simpa [Machine.run?, machine, step] using executed

/-- A blocking offer is refused for the moment exactly when the channel is not
ready. -/
theorem offer_full_iff
    {runtime : Runtime Value State Frame}
    {channel : Nat}
    {envelope : MessageEnvelope Value}
    (positive : 0 < runtime.mailboxCapacity) :
    runtime.offer true channel envelope = .full ↔
      ¬ ChannelReady runtime channel := by
  unfold offer ChannelReady
  cases shape : runtime.cells[channel]? with
  | none =>
      simp
  | some cell =>
      have nonzero : runtime.mailboxCapacity ≠ 0 := Nat.ne_of_gt positive
      by_cases ended : cell.position.isEnded = true
      · simp [ended]
      · by_cases room : cell.mailbox.length < runtime.mailboxCapacity <;>
          simp [ended, hasRoom, nonzero, room]

/-- Inside `send`, the actor returns on its own when the channel is ready. -/
theorem completesAlone_sending_iff
    {runtime : Runtime Value State Frame}
    {index channel : Nat}
    {cell : ActorCell Value State Frame}
    {draining : Bool}
    {envelope : MessageEnvelope Value}
    {resume : Except RuntimeError Unit → Frame}
    (positive : 0 < runtime.mailboxCapacity)
    (here : runtime.cells[index]? = some cell)
    (shape : cell.position = .sending draining channel envelope resume) :
    CompletesAlone runtime index ↔ ChannelReady runtime channel := by
  constructor
  · intro completes
    by_contra notReady
    have full : runtime.offer true channel envelope = .full :=
      (offer_full_iff positive).mpr notReady
    exact not_completesAlone_of_stuck
      (fun answer => by simp [loopStep?, here, shape, full]) completes
  · intro ready
    cases offered : runtime.offer true channel envelope with
    | accepted after =>
        have step :
            runtime.loopStep? index 0 =
              some (after.moveTo index (.handling draining (resume (.ok ()))),
                [.accepted channel envelope,
                  .sendReturned index (.ok ())]) := by
          simp [loopStep?, here, shape, offered]
        exact .now step (List.mem_cons_of_mem _ (List.mem_singleton_self _))
    | full =>
        exact ((offer_full_iff positive).mp offered ready).elim
    | disconnected =>
        have step :
            runtime.loopStep? index 0 =
              some (runtime.moveTo index
                  (.handling draining (resume (.error .runtimeStopped))),
                [.sendReturned index (.error .runtimeStopped)]) := by
          simp [loopStep?, here, shape, offered]
        exact .now step (List.mem_singleton_self _)

/-- Moving a loop whose receiver is there makes no channel ready or unready. -/
theorem channelReady_moveTo
    {runtime : Runtime Value State Frame}
    {index : Nat}
    {cell : ActorCell Value State Frame}
    {position : LoopPosition Value Frame}
    (here : runtime.cells[index]? = some cell)
    (opened : cell.position.isEnded = false)
    (there : position.isEnded = false)
    (channel : Nat) :
    ChannelReady (runtime.moveTo index position) channel ↔
      ChannelReady runtime channel := by
  unfold ChannelReady moveTo
  rw [modifyCell_cells]
  by_cases same : index = channel
  · subst same
    simp [here, opened, there, modifyCell]
  · simp [same, modifyCell]

/--
In every reachable state, an actor at a `send_to` call gets past it by its own
steps exactly when no writer keeps it out of the senders and its target is
unknown, gone, or has room.
-/
theorem send_to_completesAlone_iff
    {mailboxCapacity index : Nat}
    {log : List (RuntimeEvent Value)}
    {runtime : Runtime Value State Frame}
    {cell : ActorCell Value State Frame}
    (positive : 0 < mailboxCapacity)
    (run :
      Machine.Run (machine Value State Frame)
        (withConfig Value State Frame mailboxCapacity) log runtime)
    (here : runtime.cells[index]? = some cell)
    (atCall : AtSendTo cell) :
    CompletesAlone runtime index ↔ TargetReady runtime cell := by
  have capacity : 0 < runtime.mailboxCapacity := by
    rw [run_mailboxCapacity run]
    exact positive
  cases atCall with
  | inside draining channel envelope resume shape =>
      rw [completesAlone_sending_iff capacity here shape]
      simp [TargetReady, shape]
  | calling draining frame target message resume shape action =>
      have opened : cell.position.isEnded = false := by
        simp [shape, LoopPosition.isEnded]
      cases waits : runtime.writerWaits with
      | true =>
          have stuck (answer : Nat) :
              runtime.loopStep? index answer = none := by
            simp [loopStep?, here, shape, keptOut, action, waits]
          simp [TargetReady, shape, action, waits,
            not_completesAlone_of_stuck stuck]
      | false =>
          have admitted : runtime.keptOut cell frame = false := by
            simp [keptOut, action, waits]
          cases known : runtime.senders.lookup target with
          | none =>
              have step :
                  runtime.loopStep? index 0 =
                    some (runtime.moveTo index
                        (.handling draining
                          (resume (.error (.actorNotFound target)))),
                      [.sendReturned index
                        (.error (.actorNotFound target))]) := by
                simp [loopStep?, here, shape, admitted, handlerStep, action,
                  known]
              have completes : CompletesAlone runtime index :=
                .now step (List.mem_singleton_self _)
              simp [TargetReady, shape, action, waits, known, completes]
          | some channel =>
              have step
                  (answer : Nat) :
                  runtime.loopStep? index answer =
                    some (runtime.moveTo index
                      (.sending draining channel (.message message) resume),
                      []) := by
                simp [loopStep?, here, shape, admitted, handlerStep, action,
                  known]
              have moved :
                  (runtime.moveTo index
                    (.sending draining channel (.message message)
                      resume)).cells[index]? =
                    some { cell with
                      position :=
                        .sending draining channel (.message message)
                          resume } := by
                rw [moveTo, modifyCell_cells]
                simp [here]
              have sameCapacity :
                  0 < (runtime.moveTo index
                    (.sending draining channel (.message message)
                      resume)).mailboxCapacity := capacity
              rw [completesAlone_iff_of_silent step,
                completesAlone_sending_iff sameCapacity moved rfl,
                channelReady_moveTo here opened rfl]
              simp [TargetReady, shape, action, waits, known]

/--
A set of actors in which everyone is inside a `send_to` to a member, while the
mailboxes of all members are full.
-/
def WaitEachOther
    (waiting : Nat → Prop)
    (runtime : Runtime Value State Frame) : Prop :=
  ∀ index, waiting index →
    ∃ cell draining channel envelope resume,
      runtime.cells[index]? = some cell ∧
        cell.position = .sending draining channel envelope resume ∧
        waiting channel ∧
        runtime.mailboxCapacity ≤ cell.mailbox.length

/-- A mailbox of actors that wait for each other takes nothing. -/
theorem WaitEachOther.offer_full
    {waiting : Nat → Prop}
    {runtime : Runtime Value State Frame}
    (positive : 0 < runtime.mailboxCapacity)
    (wait : WaitEachOther waiting runtime)
    {channel : Nat}
    (member : waiting channel)
    (envelope : MessageEnvelope Value) :
    runtime.offer true channel envelope = .full := by
  obtain ⟨target, _, _, _, _, there, targetShape, -, full⟩ :=
    wait channel member
  refine (offer_full_iff positive).mpr fun ready => ?_
  rcases ready target there with ended | room
  · simp [targetShape, LoopPosition.isEnded] at ended
  · omega

/-- Of the actors that wait for each other nobody can take a step. -/
theorem WaitEachOther.stuck
    {waiting : Nat → Prop}
    {runtime : Runtime Value State Frame}
    (positive : 0 < runtime.mailboxCapacity)
    (wait : WaitEachOther waiting runtime)
    {index : Nat}
    (member : waiting index)
    (answer : Nat) :
    runtime.loopStep? index answer = none := by
  obtain ⟨cell, draining, channel, envelope, resume, here, shape,
    channelMember, -⟩ := wait index member
  have refused := wait.offer_full positive channelMember envelope
  simp [loopStep?, here, shape, refused]

/-- Nobody else can free the actors that wait for each other. -/
theorem WaitEachOther.step
    {waiting : Nat → Prop}
    {runtime after : Runtime Value State Frame}
    {label : Label Value State Frame}
    {events : List (RuntimeEvent Value)}
    (positive : 0 < runtime.mailboxCapacity)
    (wait : WaitEachOther waiting runtime)
    (step :
      (machine Value State Frame).step? runtime label = some (after, events)) :
    WaitEachOther waiting after := by
  intro index member
  obtain ⟨cell, draining, channel, envelope, resume, here, shape,
    channelMember, full⟩ := wait index member
  have notOwn (answer : Nat) : label ≠ .loop index answer := by
    rintro rfl
    have stuck := wait.stuck positive member answer
    simp [machine, stuck] at step
  obtain ⟨extra, extended, -⟩ := step_others step here notOwn
  refine ⟨_, draining, channel, envelope, resume, extended, shape,
    channelMember, ?_⟩
  rw [step_mailboxCapacity step, List.length_append]
  omega

/-- A call of `send_to` returns only by a step of the actor that makes it. -/
theorem sendReturned_own
    {runtime after : Runtime Value State Frame}
    {label : Label Value State Frame}
    {events : List (RuntimeEvent Value)}
    {index : Nat}
    {result : Except RuntimeError Unit}
    (step :
      (machine Value State Frame).step? runtime label = some (after, events))
    (returned : .sendReturned index result ∈ events) :
    ∃ answer, label = .loop index answer := by
  by_contra notOwn
  have different
      (loop answer : Nat)
      (same : label = .loop loop answer) : loop ≠ index := by
    rintro rfl
    exact notOwn ⟨answer, same⟩
  by_cases own : ∃ loop answer, label = .loop loop answer
  · obtain ⟨loop, answer, rfl⟩ := own
    rcases loopStep_shows step _ returned with
      ⟨shown, -⟩ | ⟨channel, envelope, same, -⟩
    · exact different loop answer rfl (by simpa [shownBy, eq_comm] using shown)
    · cases same
  · have notShown :=
      (otherStep_shows step
        (fun loop answer same => own ⟨loop, answer, same⟩) _ returned).1
    simp [shownBy] at notShown

/-- Actors that wait for each other never get past their `send_to` calls. -/
theorem WaitEachOther.forever
    {waiting : Nat → Prop}
    {runtime later : Runtime Value State Frame}
    {log : List (RuntimeEvent Value)}
    (positive : 0 < runtime.mailboxCapacity)
    (wait : WaitEachOther waiting runtime)
    (run : Machine.Run (machine Value State Frame) runtime log later) :
    ∀ index, waiting index → ∀ result, .sendReturned index result ∉ log := by
  suffices kept :
      (0 < later.mailboxCapacity ∧ WaitEachOther waiting later) ∧
        ∀ index, waiting index →
          ∀ result, RuntimeEvent.sendReturned index result ∉ log from kept.2
  refine run.history
    (fun log later =>
      (0 < later.mailboxCapacity ∧ WaitEachOther waiting later) ∧
        ∀ index, waiting index →
          ∀ result, RuntimeEvent.sendReturned index result ∉ log)
    (fun {log before label after events} ⟨⟨room, waits⟩, silent⟩ step => ?_)
    ⟨⟨positive, wait⟩, by simp⟩
  refine ⟨⟨?_, waits.step room step⟩, fun index member result returned => ?_⟩
  · rw [step_mailboxCapacity step]
    exact room
  · rcases List.mem_append.mp returned with older | newest
    · exact silent index member result older
    · obtain ⟨answer, rfl⟩ := sendReturned_own step newest
      have stuck := waits.stuck room member answer
      simp [machine, stuck] at step

/-- An actor whose handler is a finite sequence of `send_to` calls. -/
def sender
    (calls : List (ActorId × AnyBox Nat)) :
    Actor Nat Unit (List (ActorId × AnyBox Nat)) where
  messageType := 0
  handle := fun _ _ => calls
  next
    | [] => .returns ()
    | (target, message) :: rest => .sendTo target message fun _ => rest

/-- The actor sends once to a mailbox with room, and is at its second call. -/
def secondSend : List (Label Nat Unit (List (ActorId × AnyBox Nat))) :=
  [.spawn (sender [(⟨1⟩, ⟨0, 1⟩), (⟨1⟩, ⟨0, 2⟩)]) (), .send ⟨1⟩ ⟨0, 0⟩,
    .loop 0 0, .loop 0 0, .loop 0 0, .loop 0 0, .loop 0 0]

theorem send_to_completesAlone_iff_roomy :
    ∃ runtime log cell,
      (machine _ _ _).run? (withConfig _ _ _ 2) secondSend =
          some (runtime, log) ∧
        runtime.cells[0]? = some cell ∧
        cell.mailbox = [.message ⟨0, 1⟩] ∧
        AtSendTo cell ∧
        (CompletesAlone runtime 0 ↔ TargetReady runtime cell) := by
  obtain ⟨runtime, log, cell, executed, here, queued, position⟩ :
      ∃ runtime log cell,
        (machine _ _ _).run? (withConfig _ _ _ 2) secondSend =
            some (runtime, log) ∧
          runtime.cells[0]? = some cell ∧
          cell.mailbox = [.message ⟨0, 1⟩] ∧
          (cell.position = .handling false [(⟨1⟩, ⟨0, 2⟩)] ∧
            cell.actor = sender [(⟨1⟩, ⟨0, 1⟩), (⟨1⟩, ⟨0, 2⟩)]) :=
    ⟨_, _, _, rfl, rfl, rfl, rfl, rfl⟩
  have atCall : AtSendTo cell :=
    .calling false [(⟨1⟩, ⟨0, 2⟩)] ⟨1⟩ ⟨0, 2⟩ (fun _ => []) position.1
      (by rw [position.2]; rfl)
  exact ⟨runtime, log, cell, executed, here, queued, atCall,
    send_to_completesAlone_iff (by decide) (Machine.run?_sound _ executed)
      here atCall⟩

/--
With capacity one, an actor whose handler sends to itself twice stays inside
its second `send_to` for ever, whatever anyone does.
-/
theorem send_to_self_stuck :
    ∃ runtime log cell,
      (machine _ _ _).run? (withConfig _ _ _ 1) (secondSend ++ [.loop 0 0]) =
          some (runtime, log) ∧
        runtime.stop = false ∧
        runtime.cells[0]? = some cell ∧
        AtSendTo cell ∧
        ¬ CompletesAlone runtime 0 ∧
        ∀ {later continuation},
          Machine.Run (machine _ _ _) runtime continuation later →
          ∀ result, .sendReturned 0 result ∉ continuation := by
  obtain ⟨runtime, log, cell, executed, running, here, shape, full,
      capacity⟩ :
      ∃ runtime log cell,
        (machine _ _ _).run? (withConfig _ _ _ 1)
            (secondSend ++ [.loop 0 0]) = some (runtime, log) ∧
          runtime.stop = false ∧
          runtime.cells[0]? = some cell ∧
          cell.position =
            .sending false 0 (.message ⟨0, 2⟩) (fun _ => []) ∧
          cell.mailbox.length = 1 ∧
          runtime.mailboxCapacity = 1 :=
    ⟨_, _, _, rfl, rfl, rfl, rfl, rfl, rfl⟩
  have wait : WaitEachOther (· = 0) runtime := by
    rintro index rfl
    exact ⟨cell, _, _, _, _, here, shape, rfl, by omega⟩
  have positive : 0 < runtime.mailboxCapacity := by omega
  exact ⟨runtime, log, cell, executed, running, here,
    .inside _ _ _ _ shape,
    not_completesAlone_of_stuck fun answer => wait.stuck positive rfl answer,
    fun run result => wait.forever positive run 0 rfl result⟩

end Runact.Runtime
