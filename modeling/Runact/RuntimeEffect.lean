import Runact.LoopStages

namespace Runact

/-!
# What a step of the runtime does

Every enabled step has one of the effects listed here, guards included: first
the ways an actor loop goes on, then everybody who calls the runtime.
-/

universe u

/-- Where the loop receives, on the normal path and on the draining one. -/
def LoopPosition.atReceive
    {Value Frame : Type u} : Bool → LoopPosition Value Frame
  | false => .receiving
  | true => .draining

namespace Runtime

variable {Value State Frame : Type u}

/-- What a step of an actor loop does, one rule for each way it goes on. -/
inductive LoopEffect
    (runtime : Runtime Value State Frame)
    (index : Nat)
    (cell : ActorCell Value State Frame) :
    Runtime Value State Frame → List (RuntimeEvent Value) → Prop where
  | started :
      cell.position = .queued →
      runtime.joined = false →
      LoopEffect runtime index cell (runtime.moveTo index .top) []
  | checked :
      cell.position = .top →
      LoopEffect runtime index cell
        (runtime.moveTo index (.atReceive runtime.stop)) []
  /-- `try_recv` found the mailbox empty. -/
  | emptied :
      cell.position = .draining →
      cell.mailbox = [] →
      LoopEffect runtime index cell (runtime.moveTo index .leaving) []
  | timedOut :
      cell.position = .receiving →
      cell.mailbox = [] →
      LoopEffect runtime index cell
        (runtime.modifyCell index fun cell =>
          { cell with reductions := 0, position := .top })
        [.timedOut index]
  | called
      (draining : Bool)
      (envelope : MessageEnvelope Value)
      (rest : List (MessageEnvelope Value))
      (message : Value) :
      cell.position = .atReceive draining →
      cell.mailbox = envelope :: rest →
      envelope.payload.downcast cell.actor.messageType = some message →
      LoopEffect runtime index cell
        (runtime.modifyCell index fun _ =>
          { cell with
            mailbox := rest
            replySender := envelope.replySender
            position :=
              .handling draining (cell.actor.handle cell.state message) })
        [.taken index envelope, .called index message]
  /-- The payload is of a foreign type. -/
  | skipped
      (draining : Bool)
      (envelope : MessageEnvelope Value)
      (rest : List (MessageEnvelope Value))
      (reductions : Nat)
      (yields : List (RuntimeEvent Value)) :
      cell.position = .atReceive draining →
      cell.mailbox = envelope :: rest →
      envelope.payload.downcast cell.actor.messageType = none →
      yields = [] ∨ yields = [.yielded index] →
      LoopEffect runtime index cell
        (runtime.modifyCell index fun _ =>
          { cell with
            mailbox := rest
            reductions := reductions
            position := .top })
        (.taken index envelope :: yields)
  | returned
      (draining : Bool) (frame : Frame) (state : State) (reductions : Nat)
      (yields : List (RuntimeEvent Value)) :
      cell.position = .handling draining frame →
      cell.actor.next frame = .returns state →
      yields = [] ∨ yields = [.yielded index] →
      LoopEffect runtime index cell
        (runtime.modifyCell index fun _ =>
          { cell with
            state := state
            reductions := reductions
            position := .top })
        (.handled index :: yields)
  | panicked (draining : Bool) (frame : Frame) :
      cell.position = .handling draining frame →
      cell.actor.next frame = .panics →
      LoopEffect runtime index cell (runtime.moveTo index .unwinding)
        [.panicked index]
  /-- `send_to` finds no such actor. -/
  | sendRefused
      (draining : Bool) (frame : Frame) (target : ActorId)
      (message : AnyBox Value) (resume : Except RuntimeError Unit → Frame) :
      cell.position = .handling draining frame →
      cell.actor.next frame = .sendTo target message resume →
      runtime.senders.lookup target = none →
      runtime.writerWaits = false →
      LoopEffect runtime index cell
        (runtime.moveTo index
          (.handling draining (resume (.error (.actorNotFound target)))))
        [.sendReturned index (.error (.actorNotFound target))]
  | sendStarted
      (draining : Bool) (frame : Frame) (target : ActorId)
      (message : AnyBox Value) (resume : Except RuntimeError Unit → Frame)
      (channel : Nat) :
      cell.position = .handling draining frame →
      cell.actor.next frame = .sendTo target message resume →
      runtime.senders.lookup target = some channel →
      runtime.writerWaits = false →
      LoopEffect runtime index cell
        (runtime.moveTo index
          (.sending draining channel (.message message) resume)) []
  | sent
      (draining : Bool) (channel : Nat) (envelope : MessageEnvelope Value)
      (resume : Except RuntimeError Unit → Frame)
      (after : Runtime Value State Frame) :
      cell.position = .sending draining channel envelope resume →
      runtime.offer true channel envelope = .accepted after →
      LoopEffect runtime index cell
        (after.moveTo index (.handling draining (resume (.ok ()))))
        [.accepted channel envelope, .sendReturned index (.ok ())]
  | sendFailed
      (draining : Bool) (channel : Nat) (envelope : MessageEnvelope Value)
      (resume : Except RuntimeError Unit → Frame) :
      cell.position = .sending draining channel envelope resume →
      runtime.offer true channel envelope = .disconnected →
      LoopEffect runtime index cell
        (runtime.moveTo index
          (.handling draining (resume (.error .runtimeStopped))))
        [.sendReturned index (.error .runtimeStopped)]
  /-- `reply` without a request to reply to. -/
  | replyIgnored
      (draining : Bool) (frame : Frame) (message : AnyBox Value)
      (resume : Except RuntimeError Unit → Frame) :
      cell.position = .handling draining frame →
      cell.actor.next frame = .reply message resume →
      cell.replySender = none →
      LoopEffect runtime index cell
        (runtime.moveTo index (.handling draining (resume (.ok ()))))
        [.replyReturned index (.ok ())]
  | replyStarted
      (draining : Bool) (frame : Frame) (message : AnyBox Value)
      (resume : Except RuntimeError Unit → Frame) (channel : Nat) :
      cell.position = .handling draining frame →
      cell.actor.next frame = .reply message resume →
      cell.replySender = some channel →
      LoopEffect runtime index cell
        (runtime.moveTo index (.replying draining channel message resume)) []
  | replied
      (draining : Bool) (channel : Nat) (message : AnyBox Value)
      (resume : Except RuntimeError Unit → Frame) :
      cell.position = .replying draining channel message resume →
      runtime.replies[channel]? =
        some { buffer := none, handleAlive := true } →
      LoopEffect runtime index cell
        ((runtime.setReply channel
            { buffer := some message, handleAlive := true }).moveTo index
              (.handling draining (resume (.ok ()))))
        [.replied index channel message, .replyReturned index (.ok ())]
  | replyFailed
      (draining : Bool) (channel : Nat) (message : AnyBox Value)
      (resume : Except RuntimeError Unit → Frame)
      (reply : ReplyChannel Value) :
      cell.position = .replying draining channel message resume →
      runtime.replies[channel]? = some reply →
      reply.handleAlive = false →
      LoopEffect runtime index cell
        (runtime.moveTo index
          (.handling draining (resume (.error .runtimeStopped))))
        [.replyReturned index (.error .runtimeStopped)]
  | askedIsRequest
      (draining : Bool) (frame : Frame) (resume : Bool → Frame) :
      cell.position = .handling draining frame →
      cell.actor.next frame = .isRequest resume →
      LoopEffect runtime index cell
        (runtime.moveTo index
          (.handling draining (resume cell.replySender.isSome)))
        [.toldIsRequest index cell.replySender.isSome]
  | computed
      (draining : Bool) (frame : Frame) (resume : Nat → Frame)
      (answer : Nat) :
      cell.position = .handling draining frame →
      cell.actor.next frame = .other resume →
      LoopEffect runtime index cell
        (runtime.moveTo index (.handling draining (resume answer))) []
  | dropped :
      cell.position = .leaving ∨ cell.position = .unwinding →
      LoopEffect runtime index cell
        (runtime.modifyCell index ActorCell.drop) [.dropped index]

/-- The end of an iteration keeps all but the counter and the position. -/
theorem finishIteration_cases
    (cell : ActorCell Value State Frame)
    (index : Nat)
    (draining : Bool) :
    ∃ reductions yields,
      cell.finishIteration index draining =
          ({ cell with reductions := reductions, position := .top },
            yields) ∧
        (yields = [] ∨ yields = [.yielded index]) := by
  unfold ActorCell.finishIteration
  split
  · exact ⟨cell.reductions, [], rfl, .inl rfl⟩
  · split
    · exact ⟨0, [.yielded index], rfl, .inr rfl⟩
    · exact ⟨cell.reductions + 1, [], rfl, .inl rfl⟩

/-- Taking an envelope calls the handler, or skips a foreign payload. -/
theorem takeEnvelope_cases
    {runtime : Runtime Value State Frame}
    {index : Nat}
    {cell : ActorCell Value State Frame}
    {draining : Bool}
    {envelope : MessageEnvelope Value}
    {rest : List (MessageEnvelope Value)}
    (position : cell.position = .atReceive draining)
    (queue : cell.mailbox = envelope :: rest) :
    LoopEffect runtime index cell
      (runtime.modifyCell index fun _ =>
        (cell.takeEnvelope index draining envelope rest).1)
      (cell.takeEnvelope index draining envelope rest).2 := by
  unfold ActorCell.takeEnvelope
  cases fits : envelope.payload.downcast cell.actor.messageType with
  | some message =>
      exact .called draining envelope rest message position queue fits
  | none =>
      obtain ⟨reductions, yields, finished, shown⟩ :=
        finishIteration_cases { cell with mailbox := rest } index draining
      simp only [finished]
      exact .skipped draining envelope rest reductions yields
        position queue fits shown

/-- Handler code goes on in one of the ways it can. -/
theorem handlerStep_cases
    {runtime : Runtime Value State Frame}
    {index answer : Nat}
    {cell : ActorCell Value State Frame}
    {draining : Bool}
    {frame : Frame}
    (position : cell.position = .handling draining frame)
    (admitted : runtime.keptOut cell frame = false) :
    LoopEffect runtime index cell
      (runtime.handlerStep index cell draining frame answer).1
      (runtime.handlerStep index cell draining frame answer).2 := by
  unfold handlerStep
  cases action : cell.actor.next frame with
  | returns state =>
      obtain ⟨reductions, yields, finished, shown⟩ :=
        finishIteration_cases { cell with state := state } index draining
      simp only [finished]
      exact .returned draining frame state reductions yields
        position action shown
  | panics => exact .panicked draining frame position action
  | sendTo target message resume =>
      have unwaited : runtime.writerWaits = false := by
        simpa [keptOut, action] using admitted
      cases found : runtime.senders.lookup target with
      | none =>
          simp only [found]
          exact .sendRefused draining frame target message resume
            position action found unwaited
      | some channel =>
          simp only [found]
          exact .sendStarted draining frame target message resume channel
            position action found unwaited
  | reply message resume =>
      cases kept : cell.replySender with
      | none =>
          exact .replyIgnored draining frame message resume
            position action kept
      | some channel =>
          exact .replyStarted draining frame message resume channel
            position action kept
  | isRequest resume =>
      exact .askedIsRequest draining frame resume position action
  | other resume =>
      exact .computed draining frame resume answer position action

/-- A step of an actor loop has one of the effects. -/
theorem loopStep_cases
    {runtime after : Runtime Value State Frame}
    {index answer : Nat}
    {events : List (RuntimeEvent Value)}
    (step : runtime.loopStep? index answer = some (after, events)) :
    ∃ cell,
      runtime.cells[index]? = some cell ∧
        LoopEffect runtime index cell after events := by
  unfold loopStep? at step
  cases here : runtime.cells[index]? with
  | none =>
      simp [here] at step
  | some cell =>
      refine ⟨cell, rfl, ?_⟩
      simp only [here] at step
      cases shape : cell.position with
      | queued =>
          simp only [shape] at step
          split at step
          · cases step
          · rename_i running
            cases step
            exact .started shape (by simpa using running)
      | top =>
          simp only [shape, Option.some.injEq, Prod.mk.injEq] at step
          obtain ⟨rfl, rfl⟩ := step
          have target :
              (if runtime.stop then .draining else .receiving :
                LoopPosition Value Frame) = .atReceive runtime.stop := by
            cases runtime.stop <;> rfl
          rw [target]
          exact .checked shape
      | draining =>
          simp only [shape] at step
          split at step <;> cases step
          · exact .emptied shape ‹_›
          · exact takeEnvelope_cases shape ‹_›
      | receiving =>
          simp only [shape] at step
          split at step <;> cases step
          · exact .timedOut shape ‹_›
          · exact takeEnvelope_cases shape ‹_›
      | handling draining frame =>
          simp only [shape, Option.ite_none_left_eq_some, Option.some.injEq,
            Bool.not_eq_true] at step
          obtain ⟨admitted, taken⟩ := step
          have effect :
              LoopEffect runtime index cell
                (runtime.handlerStep index cell draining frame answer).1
                (runtime.handlerStep index cell draining frame answer).2 :=
            handlerStep_cases shape admitted
          rwa [taken] at effect
      | sending draining channel envelope resume =>
          simp only [shape] at step
          split at step
          · rename_i sent accepted
            cases step
            exact .sent draining channel envelope resume sent shape accepted
          · cases step
          · rename_i disconnected
            cases step
            exact .sendFailed draining channel envelope resume shape
              disconnected
      | replying draining channel message resume =>
          simp only [shape] at step
          split at step
          · cases step
          · rename_i reply found
            split at step
            · rename_i alive
              split at step
              · cases step
              · rename_i empty
                cases step
                obtain ⟨buffer, handleAlive⟩ := reply
                obtain rfl : buffer = none := empty
                obtain rfl : handleAlive = true := alive
                exact .replied draining channel message resume shape found
            · rename_i gone
              cases step
              exact .replyFailed draining channel message resume reply shape
                found (by simpa using gone)
      | leaving =>
          simp only [shape, Option.some.injEq, Prod.mk.injEq] at step
          obtain ⟨rfl, rfl⟩ := step
          exact .dropped (.inl shape)
      | unwinding =>
          simp only [shape, Option.some.injEq, Prod.mk.injEq] at step
          obtain ⟨rfl, rfl⟩ := step
          exact .dropped (.inr shape)
      | ended =>
          simp [shape] at step

/-- A loop that makes a step is not dropped yet. -/
theorem LoopEffect.opened
    {runtime after : Runtime Value State Frame}
    {index : Nat}
    {cell : ActorCell Value State Frame}
    {events : List (RuntimeEvent Value)}
    (effect : LoopEffect runtime index cell after events) :
    cell.position.isEnded = false := by
  by_contra ended
  have shape : cell.position = .ended := by
    cases position : cell.position <;>
      simp_all [LoopPosition.isEnded]
  cases effect <;> simp_all [LoopPosition.atReceive] <;>
    split at * <;> simp_all

/-- What a step of the runtime does, one rule for each kind of step. -/
inductive Effect
    (before : Runtime Value State Frame) :
    Runtime Value State Frame → List (RuntimeEvent Value) → Prop where
  | spawned (actor : Actor Value State Frame) (state : State) :
      before.shutdownPhase = .idle →
      before.sendersFree = true →
      Effect before (before.spawn actor state).1
        [.spawned before.nextActorId before.cells.length]
  /-- A writer begins to wait for the senders, or is woken. -/
  | writerAwaited (waits : Bool) :
      before.shutdownPhase = .idle ∨ before.shutdownPhase = .stopping →
      before.sendersFree = !waits →
      Effect before { before with writerWaits := waits } []
  | supervisorSpawned :
      Effect before before.spawnSupervisor.1
        [.supervisorSpawned before.nextActorId]
  /-- `send` or `send_blocking` returns without having sent. -/
  | refused (error : RuntimeError) :
      before.writerWaits = false →
      Effect before before [.answered (.error error)]
  | sent
      (target : ActorId) (channel : Nat) (message : AnyBox Value)
      (after : Runtime Value State Frame) :
      before.senders.lookup target = some channel →
      before.offer false channel (.message message) = .accepted after →
      before.writerWaits = false →
      Effect before after
        [.accepted channel (.message message), .answered (.ok ())]
  /-- A blocking send begins to wait. -/
  | blocked
      (target : ActorId) (channel : Nat) (message : AnyBox Value)
      (fromTimer : Bool) :
      before.senders.lookup target = some channel →
      before.writerWaits = false →
      Effect before
        { before with
          blocked := before.blocked ++
            [{ channel := channel
               envelope := .message message
               fromTimer := fromTimer }] }
        []
  /-- A fired message whose target is gone is given up. -/
  | lost (target : ActorId) :
      before.senders.lookup target = none →
      before.writerWaits = false →
      Effect before before []
  | unblocked
      (index : Nat) (waiting : BlockedSend Value)
      (after : Runtime Value State Frame) :
      before.blocked[index]? = some waiting →
      before.offer true waiting.channel waiting.envelope = .accepted after →
      Effect before
        { after with blocked := before.blocked.eraseIdx index }
        [.accepted waiting.channel waiting.envelope, .answered (.ok ())]
  | unblockedInVain (index : Nat) (waiting : BlockedSend Value) :
      before.blocked[index]? = some waiting →
      before.offer true waiting.channel waiting.envelope = .disconnected →
      Effect before
        { before with blocked := before.blocked.eraseIdx index }
        [.answered (.error .runtimeStopped)]
  | requestClaimed :
      Effect before
        { before with
          requestCounter := before.requestCounter + 1
          claimedRequests :=
            before.claimedRequests ++ [before.requestCounter] }
        []
  | requestRefused (call requestId : Nat) (error : RuntimeError) :
      before.claimedRequests[call]? = some requestId →
      before.writerWaits = false →
      Effect before
        { before with
          claimedRequests := before.claimedRequests.eraseIdx call }
        [.requestAnswered requestId (.error error)]
  | requested
      (call requestId : Nat) (target : ActorId) (channel : Nat)
      (message : AnyBox Value) (after : Runtime Value State Frame) :
      before.claimedRequests[call]? = some requestId →
      before.senders.lookup target = some channel →
      before.offer false channel
          (.request requestId message before.replies.length) =
        .accepted after →
      before.writerWaits = false →
      Effect before
        { after with
          claimedRequests := before.claimedRequests.eraseIdx call
          replies :=
            before.replies ++ [{ buffer := none, handleAlive := true }] }
        [.accepted channel
            (.request requestId message before.replies.length),
          .requestAnswered requestId (.ok before.replies.length)]
  | replyReceived (channel : Nat) (reply : AnyBox Value) :
      before.replies[channel]? =
        some { buffer := some reply, handleAlive := true } →
      Effect before
        (before.setReply channel { buffer := none, handleAlive := true })
        [.replyReceived channel reply]
  | handleDropped (channel : Nat) (buffer : Option (AnyBox Value)) :
      before.replies[channel]? =
        some { buffer := buffer, handleAlive := true } →
      Effect before
        (before.setReply channel { buffer := none, handleAlive := false })
        []
  | stopped :
      before.shutdownPhase = .idle →
      Effect before { before with stop := true, shutdownPhase := .stopping } []
  | sendersCleared :
      before.shutdownPhase = .stopping →
      before.sendersFree = true →
      Effect before
        { before with
          senders := ∅
          writerWaits := false
          shutdownPhase := .sendersCleared }
        [.sendersCleared]
  | actorsCleared :
      before.shutdownPhase = .sendersCleared →
      Effect before
        { before with actors := ∅, shutdownPhase := .actorsCleared }
        [.actorsCleared]
  | shutDown :
      before.shutdownPhase = .actorsCleared →
      before.workersDone = true →
      Effect before { before with joined := true, shutdownPhase := .idle }
        [.shutDown]
  | looped
      (index answer : Nat) (cell : ActorCell Value State Frame)
      (after : Runtime Value State Frame)
      (events : List (RuntimeEvent Value)) :
      before.cells[index]? = some cell →
      before.loopStep? index answer = some (after, events) →
      LoopEffect before index cell after events →
      Effect before after events

/-- A `request` call sends, or is refused. -/
theorem request_cases
    {runtime : Runtime Value State Frame}
    {call requestId : Nat}
    (claimed : runtime.claimedRequests[call]? = some requestId)
    (unwaited : runtime.writerWaits = false)
    (target : ActorId)
    (message : AnyBox Value) :
    let outcome :=
      ({ runtime with
          claimedRequests := runtime.claimedRequests.eraseIdx call }).request
        requestId target message
    Effect runtime outcome.1 outcome.2 := by
  simp only [request]
  cases found : runtime.senders.lookup target with
  | none => exact .requestRefused call requestId _ claimed unwaited
  | some channel =>
      simp only
      split
      · rename_i accepted
        obtain ⟨cell, here, opened, room, rfl⟩ := offer_eq_accepted accepted
        have unclaimed :
            runtime.offer false channel
                (.request requestId message runtime.replies.length) =
              .accepted (runtime.modifyCell channel fun cell =>
                { cell with
                  mailbox := cell.mailbox ++
                    [.request requestId message runtime.replies.length] }) :=
          offer_of_room here opened room
        have requested :=
          Effect.requested call requestId target channel message _
            claimed found unclaimed unwaited
        exact requested
      · exact .requestRefused call requestId _ claimed unwaited
      · exact .requestRefused call requestId _ claimed unwaited

/-- A step of `shutdown` has one of the effects. -/
theorem shutdownStep_cases
    {runtime after : Runtime Value State Frame}
    {events : List (RuntimeEvent Value)}
    (step : runtime.shutdownStep? = some (after, events)) :
    Effect runtime after events := by
  unfold shutdownStep? at step
  cases phase : runtime.shutdownPhase with
  | idle =>
      simp only [phase, Option.some.injEq, Prod.mk.injEq] at step
      obtain ⟨rfl, rfl⟩ := step
      exact .stopped phase
  | stopping =>
      simp only [phase, Option.ite_none_right_eq_some, Option.some.injEq,
        Prod.mk.injEq] at step
      obtain ⟨free, rfl, rfl⟩ := step
      exact .sendersCleared phase free
  | sendersCleared =>
      simp only [phase, Option.some.injEq, Prod.mk.injEq] at step
      obtain ⟨rfl, rfl⟩ := step
      exact .actorsCleared phase
  | actorsCleared =>
      simp only [phase, Option.ite_none_right_eq_some, Option.some.injEq,
        Prod.mk.injEq, Bool.and_eq_true] at step
      obtain ⟨⟨done, -⟩, rfl, rfl⟩ := step
      exact .shutDown phase done

/-- Every enabled step has one of the effects. -/
theorem effect_of_step
    {runtime after : Runtime Value State Frame}
    {label : Label Value State Frame}
    {events : List (RuntimeEvent Value)}
    (step :
      (machine Value State Frame).step? runtime label =
        some (after, events)) :
    Effect runtime after events := by
  cases label with
  | spawn actor state =>
      simp only [machine, spawn, Option.ite_none_right_eq_some,
        Option.some.injEq, Prod.mk.injEq] at step
      obtain ⟨⟨idle, free⟩, rfl, rfl⟩ := step
      exact .spawned actor state idle free
  | awaitSenders waits =>
      simp only [machine, Option.ite_none_right_eq_some, Option.some.injEq,
        Prod.mk.injEq] at step
      obtain ⟨⟨phase, held⟩, rfl, rfl⟩ := step
      exact .writerAwaited waits phase held
  | spawnSupervisor =>
      simp only [machine, spawnSupervisor, Option.some.injEq,
        Prod.mk.injEq] at step
      obtain ⟨rfl, rfl⟩ := step
      exact .supervisorSpawned
  | send target message =>
      simp only [machine, send, Option.ite_none_left_eq_some,
        Bool.not_eq_true, Option.some.injEq] at step
      obtain ⟨unwaited, step⟩ := step
      split at step
      · obtain ⟨rfl, rfl⟩ := Prod.mk.inj step
        exact .refused _ unwaited
      · rename_i channel found
        split at step <;> obtain ⟨rfl, rfl⟩ := Prod.mk.inj step
        · exact .sent target channel message _ found ‹_› unwaited
        · exact .refused _ unwaited
        · exact .refused _ unwaited
  | sendBlocking target message =>
      simp only [machine, sendBlocking, Option.ite_none_left_eq_some,
        Bool.not_eq_true, Option.some.injEq] at step
      obtain ⟨unwaited, step⟩ := step
      split at step <;> obtain ⟨rfl, rfl⟩ := Prod.mk.inj step
      · exact .refused _ unwaited
      · exact .blocked target _ message false ‹_› unwaited
  | deliverTimer target message =>
      simp only [machine, deliverTimer, Option.ite_none_left_eq_some,
        Bool.not_eq_true, Bool.or_eq_false_iff, Option.some.injEq,
        Prod.mk.injEq] at step
      obtain ⟨⟨-, unwaited⟩, rfl, rfl⟩ := step
      split
      · exact .lost target ‹_› unwaited
      · exact .blocked target _ message true ‹_› unwaited
  | unblock index =>
      simp only [machine, unblock?] at step
      split at step
      · cases step
      · rename_i waiting found
        split at step
        · rename_i sent accepted
          cases step
          have sameBlocked : sent.blocked = runtime.blocked := by
            rw [(onlyLoops_of_offer accepted).same]
          rw [sameBlocked]
          exact .unblocked index waiting sent found accepted
        · cases step
        · cases step
          exact .unblockedInVain index waiting found ‹_›
  | claimRequest =>
      simp only [machine, Option.some.injEq, Prod.mk.injEq] at step
      obtain ⟨rfl, rfl⟩ := step
      exact .requestClaimed
  | request call target message =>
      simp only [machine] at step
      split at step
      · cases step
      · rename_i requestId claimed
        simp only [Option.ite_none_left_eq_some, Bool.not_eq_true,
          Option.some.injEq] at step
        obtain ⟨unwaited, taken⟩ := step
        have effect := request_cases claimed unwaited target message
        rwa [taken] at effect
  | receiveReply channel =>
      simp only [machine] at step
      split at step
      · cases step
        exact .replyReceived channel _ ‹_›
      · cases step
  | dropHandle channel =>
      simp only [machine] at step
      split at step
      · cases step
        exact .handleDropped channel _ ‹_›
      · cases step
  | shutdown => exact shutdownStep_cases step
  | loop index answer =>
      obtain ⟨cell, here, effect⟩ := loopStep_cases step
      exact .looped index answer cell after events here step effect

/-- What a step of somebody else can do to a loop's cell. -/
def Elsewhere
    (property :
      List (RuntimeEvent Value) → Nat → ActorCell Value State Frame → Prop) :
    Prop :=
  ∀ {log events index cell} (extra : List (MessageEnvelope Value)),
    (∀ event ∈ events, shownBy event ≠ some index) →
    property log index cell →
    property (log ++ events) index
      { cell with mailbox := cell.mailbox ++ extra }

/-- What a step of its own does to a loop's cell. -/
def Own
    (property :
      List (RuntimeEvent Value) → Nat → ActorCell Value State Frame → Prop) :
    Prop :=
  ∀ {log events index cell} {runtime after : Runtime Value State Frame},
    runtime.cells[index]? = some cell →
    LoopEffect runtime index cell after events →
    property log index cell →
    ∃ moved,
      after.cells[index]? = some moved ∧
        property (log ++ events) index moved

/-- The same, in terms of the step itself. -/
def OwnStep
    (property :
      List (RuntimeEvent Value) → Nat → ActorCell Value State Frame → Prop) :
    Prop :=
  ∀ {log events index cell answer} {runtime after : Runtime Value State Frame},
    runtime.cells[index]? = some cell →
    runtime.loopStep? index answer = some (after, events) →
    property log index cell →
    ∃ moved,
      after.cells[index]? = some moved ∧
        property (log ++ events) index moved

/-- What holds after every effect of a loop holds after every step of it. -/
theorem Own.ownStep
    {property :
      List (RuntimeEvent Value) → Nat → ActorCell Value State Frame → Prop}
    (own : Own property) :
    OwnStep property := by
  intro log events index cell answer runtime after here step kept
  obtain ⟨same, shape, effect⟩ := loopStep_cases step
  obtain rfl : cell = same := by simpa [here] using shape
  exact own here effect kept

/-- Over every run, a loop shows nothing before it is there. -/
theorem run_shown
    {mailboxCapacity : Nat}
    {log : List (RuntimeEvent Value)}
    {runtime : Runtime Value State Frame}
    (run :
      Machine.Run (machine Value State Frame)
        (withConfig Value State Frame mailboxCapacity) log runtime) :
    ∀ event ∈ log, ∀ index,
      shownBy event = some index → index < runtime.cells.length := by
  induction run with
  | nil => simp
  | @snoc log events middle final label earlier last inductionHypothesis =>
      intro event member index shown
      have length := step_length last
      have grows : middle.cells.length ≤ final.cells.length := by
        cases label <;> simp only at length <;> omega
      rcases List.mem_append.mp member with older | newest
      · exact (inductionHypothesis event older index shown).trans_le grows
      · exact ((step_shows last event newest).1 index shown).trans_le grows

/-- A property of the cells and the log holds over every run, if it holds of new
cells and both kinds of steps keep it. -/
theorem run_cellsOfSteps
    (property :
      List (RuntimeEvent Value) → Nat → ActorCell Value State Frame → Prop)
    (fresh :
      ∀ {log index} id actor state,
        (∀ event ∈ log, shownBy event ≠ some index) →
        property log index (ActorCell.new id actor state))
    (elsewhere : Elsewhere property)
    (own : OwnStep property)
    {mailboxCapacity : Nat}
    {log : List (RuntimeEvent Value)}
    {runtime : Runtime Value State Frame}
    (run :
      Machine.Run (machine Value State Frame)
        (withConfig Value State Frame mailboxCapacity) log runtime) :
    ∀ index cell,
      runtime.cells[index]? = some cell → property log index cell := by
  induction run with
  | nil => simp [withConfig]
  | @snoc log events middle final label earlier last inductionHypothesis =>
      intro index cell there
      cases here : middle.cells[index]? with
      | some old =>
          by_cases mine : ∃ answer, label = .loop index answer
          · obtain ⟨answer, rfl⟩ := mine
            obtain ⟨moved, found, kept⟩ :=
              own here last (inductionHypothesis index old here)
            obtain rfl : cell = moved := by simpa [there] using found
            exact kept
          · have notMine (answer : Nat) : label ≠ .loop index answer :=
              fun same => mine ⟨answer, same⟩
            obtain ⟨extra, found, -⟩ := step_others last here notMine
            obtain rfl :
                cell = { old with mailbox := old.mailbox ++ extra } := by
              simpa [there] using found
            exact elsewhere extra (notShown_of_notOwn last notMine)
              (inductionHypothesis index old here)
      | none =>
          have outside := List.getElem?_eq_none_iff.mp here
          obtain ⟨old, shape⟩ | ⟨id, actor, state, rfl⟩ :=
            step_cellBefore last there
          · simp [here] at shape
          · refine fresh id actor state fun event member shown => ?_
            have inside : index < middle.cells.length := by
              rcases List.mem_append.mp member with older | newest
              · exact run_shown earlier event older index shown
              · exact (step_shows last event newest).1 index shown
            omega

/-- The same, from the effects of a loop. -/
theorem run_cells
    (property :
      List (RuntimeEvent Value) → Nat → ActorCell Value State Frame → Prop)
    (fresh :
      ∀ {log index} id actor state,
        (∀ event ∈ log, shownBy event ≠ some index) →
        property log index (ActorCell.new id actor state))
    (elsewhere : Elsewhere property)
    (own : Own property)
    {mailboxCapacity : Nat}
    {log : List (RuntimeEvent Value)}
    {runtime : Runtime Value State Frame}
    (run :
      Machine.Run (machine Value State Frame)
        (withConfig Value State Frame mailboxCapacity) log runtime) :
    ∀ index cell,
      runtime.cells[index]? = some cell → property log index cell :=
  run_cellsOfSteps property fresh elsewhere own.ownStep run

/-! ## What a step does to the reply channels -/

section Replies

variable {before after : Runtime Value State Frame}
  {events : List (RuntimeEvent Value)}

/-- The replies put into the channel, in order. -/
def repliesOn
    (channel : Nat)
    (log : List (RuntimeEvent Value)) : List (AnyBox Value) :=
  log.filterMap fun event =>
    match event with
    | .replied _ target message => if target = channel then some message else none
    | _ => none

/-- The replies the requester got from its handle, in order. -/
def receivedFrom
    (channel : Nat)
    (log : List (RuntimeEvent Value)) : List (AnyBox Value) :=
  log.filterMap fun event =>
    match event with
    | .replyReceived source message =>
        if source = channel then some message else none
    | _ => none

/-- Events without a reply and without a reception. -/
structure ReplySilent (events : List (RuntimeEvent Value)) : Prop where
  noneReplied : ∀ channel, repliesOn channel events = []
  noneReceived : ∀ channel, receivedFrom channel events = []

theorem ReplySilent.notReplied
    (silent : ReplySilent events)
    (index channel : Nat)
    (message : AnyBox Value) :
    .replied index channel message ∉ events := by
  intro member
  have none := silent.noneReplied channel
  rw [repliesOn, List.filterMap_eq_nil_iff] at none
  simpa using none _ member

/-- What a step does to the reply channels. -/
inductive RepliesEffect
    (before after : Runtime Value State Frame) :
    List (RuntimeEvent Value) → Prop where
  | silent (events : List (RuntimeEvent Value)) :
      after.replies = before.replies →
      ReplySilent events →
      RepliesEffect before after events
  | opened (events : List (RuntimeEvent Value)) :
      after.replies =
        before.replies ++ [{ buffer := none, handleAlive := true }] →
      ReplySilent events →
      RepliesEffect before after events
  | replied (index channel : Nat) (message : AnyBox Value) :
      before.replies[channel]? =
        some { buffer := none, handleAlive := true } →
      after.replies =
        before.replies.set channel
          { buffer := some message, handleAlive := true } →
      RepliesEffect before after
        [.replied index channel message, .replyReturned index (.ok ())]
  | received (channel : Nat) (message : AnyBox Value) :
      before.replies[channel]? =
        some { buffer := some message, handleAlive := true } →
      after.replies =
        before.replies.set channel { buffer := none, handleAlive := true } →
      RepliesEffect before after [.replyReceived channel message]
  | dropped (channel : Nat) (buffer : Option (AnyBox Value)) :
      before.replies[channel]? =
        some { buffer := buffer, handleAlive := true } →
      after.replies =
        before.replies.set channel { buffer := none, handleAlive := false } →
      RepliesEffect before after []

/-- A loop replies, or leaves the reply channels alone. -/
theorem LoopEffect.repliesEffect
    {index : Nat}
    {cell : ActorCell Value State Frame}
    (effect : LoopEffect before index cell after events) :
    RepliesEffect before after events := by
  cases effect with
  | sent draining target envelope resume sent shape accepted =>
      obtain ⟨other, -, -, -, rfl⟩ := offer_eq_accepted accepted
      exact .silent _ rfl ⟨fun _ => rfl, fun _ => rfl⟩
  | skipped draining envelope rest reductions yields shape queue typed shown =>
      rcases shown with rfl | rfl <;>
        exact .silent _ rfl ⟨fun _ => rfl, fun _ => rfl⟩
  | returned draining frame state reductions yields shape action shown =>
      rcases shown with rfl | rfl <;>
        exact .silent _ rfl ⟨fun _ => rfl, fun _ => rfl⟩
  | replied draining channel message resume shape empty =>
      exact .replied index channel message empty rfl
  | _ => exact .silent _ rfl ⟨fun _ => rfl, fun _ => rfl⟩

/-- Every step has one of the effects on the reply channels. -/
theorem Effect.repliesEffect
    (effect : Effect before after events) :
    RepliesEffect before after events := by
  cases effect with
  | sent target sentTo message sent found accepted =>
      obtain ⟨cell, -, -, -, rfl⟩ := offer_eq_accepted accepted
      exact .silent _ rfl ⟨fun _ => rfl, fun _ => rfl⟩
  | unblocked index waiting sent found accepted =>
      obtain ⟨cell, -, -, -, rfl⟩ := offer_eq_accepted accepted
      exact .silent _ rfl ⟨fun _ => rfl, fun _ => rfl⟩
  | requested call requestId target sentTo message sent claimed found
      accepted =>
      exact .opened _ rfl ⟨fun _ => rfl, fun _ => rfl⟩
  | replyReceived channel reply found =>
      exact .received channel reply found rfl
  | handleDropped channel buffer found =>
      exact .dropped channel buffer found rfl
  | looped index answer cell after events here step effect =>
      exact effect.repliesEffect
  | _ => exact .silent _ rfl ⟨fun _ => rfl, fun _ => rfl⟩

end Replies

end Runtime

end Runact
