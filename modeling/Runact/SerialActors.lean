import Runact.Progress
import Runact.ReplyChannels

namespace Runact

/-!
# Actors run serially

The loops of many actors step in any order, and a handler may call the context
in the middle of its work.  For the actor itself nothing of this is visible: its
state is what its handler makes of the messages it was called on, one complete
call after the other, and every reply is one its handler makes for the message
it is handling.
-/

universe u

variable {Value State Frame : Type u}

namespace Actor

/-- Handler code goes on after a call of the context, whatever the answer. -/
inductive GoesOn (actor : Actor Value State Frame) : Frame → Frame → Prop where
  | sendTo
      {frame : Frame} {target : ActorId} {message : AnyBox Value}
      {resume : Except RuntimeError Unit → Frame}
      (result : Except RuntimeError Unit) :
      actor.next frame = .sendTo target message resume →
      GoesOn actor frame (resume result)
  | reply
      {frame : Frame} {message : AnyBox Value}
      {resume : Except RuntimeError Unit → Frame}
      (result : Except RuntimeError Unit) :
      actor.next frame = .reply message resume →
      GoesOn actor frame (resume result)
  | isRequest {frame : Frame} {resume : Bool → Frame} (answer : Bool) :
      actor.next frame = .isRequest resume →
      GoesOn actor frame (resume answer)
  | other {frame : Frame} {resume : Nat → Frame} (answer : Nat) :
      actor.next frame = .other resume →
      GoesOn actor frame (resume answer)

/-- The handler call on a message comes to a control point. -/
def ComesTo
    (actor : Actor Value State Frame)
    (state : State)
    (message : Value) : Frame → Prop :=
  Relation.ReflTransGen actor.GoesOn (actor.handle state message)

/-- The handler call on a message returns with a new state. -/
def Returns
    (actor : Actor Value State Frame)
    (state : State)
    (message : Value)
    (after : State) : Prop :=
  ∃ frame,
    actor.ComesTo state message frame ∧ actor.next frame = .returns after

/-- The handler call on a message makes a reply. -/
def Replies
    (actor : Actor Value State Frame)
    (state : State)
    (message : Value)
    (reply : AnyBox Value) : Prop :=
  ∃ frame resume,
    actor.ComesTo state message frame ∧ actor.next frame = .reply reply resume

/-- Complete handler calls, one after the other. -/
inductive Serves
    (actor : Actor Value State Frame)
    (initial : State) : List Value → State → Prop where
  | nil : Serves actor initial [] initial
  | snoc
      {messages : List Value} {state after : State} (message : Value) :
      Serves actor initial messages state →
      actor.Returns state message after →
      Serves actor initial (messages ++ [message]) after

/-- The last of the calls is under way, and has come to a control point. -/
def InCall
    (actor : Actor Value State Frame)
    (initial : State)
    (called : List Value)
    (state : State)
    (frame : Frame) : Prop :=
  ∃ earlier message,
    called = earlier ++ [message] ∧
      actor.Serves initial earlier state ∧
      actor.ComesTo state message frame

theorem InCall.goOn
    {actor : Actor Value State Frame}
    {initial state : State}
    {called : List Value}
    {frame next : Frame}
    (inCall : actor.InCall initial called state frame)
    (goes : actor.GoesOn frame next) :
    actor.InCall initial called state next := by
  obtain ⟨earlier, message, shape, serves, comes⟩ := inCall
  exact ⟨earlier, message, shape, serves, comes.tail goes⟩

theorem InCall.returns
    {actor : Actor Value State Frame}
    {initial state after : State}
    {called : List Value}
    {frame : Frame}
    (inCall : actor.InCall initial called state frame)
    (action : actor.next frame = .returns after) :
    actor.Serves initial called after := by
  obtain ⟨earlier, message, rfl, serves, comes⟩ := inCall
  exact .snoc message serves ⟨frame, comes, action⟩

/-- A call of the actor has panicked. -/
def HasPanicked
    (actor : Actor Value State Frame)
    (initial : State)
    (called : List Value)
    (state : State) : Prop :=
  ∃ frame,
    actor.InCall initial called state frame ∧ actor.next frame = .panics

end Actor

/-- The cell of an actor, after the handler was called on these messages: all
calls have returned one after the other, or the last one is under way, or it has
panicked. -/
def ActorCell.Serial
    (cell : ActorCell Value State Frame)
    (initial : State)
    (called : List Value) : Prop :=
  match cell.position with
  | .queued | .top | .draining | .receiving | .leaving =>
      cell.actor.Serves initial called cell.state
  | .handling _ frame =>
      cell.actor.InCall initial called cell.state frame
  | .sending _ _ envelope resume =>
      ∃ frame target message,
        cell.actor.InCall initial called cell.state frame ∧
          cell.actor.next frame = .sendTo target message resume ∧
          envelope = .message message
  | .replying _ _ message resume =>
      ∃ frame,
        cell.actor.InCall initial called cell.state frame ∧
          cell.actor.next frame = .reply message resume
  | .unwinding => cell.actor.HasPanicked initial called cell.state
  | .ended =>
      cell.actor.Serves initial called cell.state ∨
        cell.actor.HasPanicked initial called cell.state

namespace Runtime

/-! ## One loop, from any state on -/

/-- A property of one cell and the log since then holds over every run, if it
holds at first and both kinds of steps keep it. -/
theorem run_cell
    (property :
      List (RuntimeEvent Value) → Nat → ActorCell Value State Frame → Prop)
    (elsewhere : Elsewhere property)
    (own : Own property)
    {initial final : Runtime Value State Frame}
    {index : Nat}
    {cell : ActorCell Value State Frame}
    {log : List (RuntimeEvent Value)}
    (run : Machine.Run (machine Value State Frame) initial log final)
    (here : initial.cells[index]? = some cell)
    (initially : property [] index cell) :
    ∃ moved,
      final.cells[index]? = some moved ∧ property log index moved := by
  induction run with
  | nil => exact ⟨cell, here, initially⟩
  | @snoc log events middle final label earlier last inductionHypothesis =>
      obtain ⟨old, there, holds⟩ := inductionHypothesis
      by_cases mine : ∃ answer, label = .loop index answer
      · obtain ⟨answer, rfl⟩ := mine
        exact own.ownStep there last holds
      · have notMine (answer : Nat) : label ≠ .loop index answer :=
          fun same => mine ⟨answer, same⟩
        obtain ⟨extra, found, -⟩ := step_others last there notMine
        exact ⟨_, found,
          elsewhere extra (notShown_of_notOwn last notMine) holds⟩

/-- The actor of a cell and its calls so far. -/
def SerialSince
    (actor : Actor Value State Frame)
    (initial : State)
    (log : List (RuntimeEvent Value))
    (index : Nat)
    (cell : ActorCell Value State Frame) : Prop :=
  cell.actor = actor ∧ cell.Serial initial (calledMessages index log)

variable {actor : Actor Value State Frame} {initial : State}

theorem calledMessages_append
    (index : Nat)
    (first later : List (RuntimeEvent Value)) :
    calledMessages index (first ++ later) =
      calledMessages index first ++ calledMessages index later :=
  List.filterMap_append

theorem serialSince_elsewhere :
    Elsewhere fun log index (cell : ActorCell Value State Frame) =>
      SerialSince actor initial log index cell := by
  intro log events index cell extra notShown serial
  refine ⟨serial.1, ?_⟩
  rw [calledMessages_append, calledMessages_of_notShown notShown,
    List.append_nil]
  exact serial.2

/-- A loop that shows no call, moved to where its calls are as before. -/
theorem SerialSince.moved
    {log events : List (RuntimeEvent Value)}
    {index : Nat}
    {runtime : Runtime Value State Frame}
    {cell : ActorCell Value State Frame}
    {position : LoopPosition Value Frame}
    (here : runtime.cells[index]? = some cell)
    (sameActor : cell.actor = actor)
    (uncalled : calledMessages index events = [])
    (serial :
      { cell with position := position }.Serial initial
        (calledMessages index log)) :
    ∃ moved,
      (runtime.moveTo index position).cells[index]? = some moved ∧
        SerialSince actor initial (log ++ events) index moved := by
  refine ⟨_, modifyCell_here _ here, sameActor, ?_⟩
  rw [calledMessages_append, uncalled, List.append_nil]
  exact serial

theorem serialSince_own :
    Own fun log index (cell : ActorCell Value State Frame) =>
      SerialSince actor initial log index cell := by
  rintro log events index cell runtime after here effect ⟨rfl, serial⟩
  unfold ActorCell.Serial at serial
  cases effect with
  | started shape running =>
      simp only [shape] at serial
      exact SerialSince.moved here rfl rfl serial
  | checked shape =>
      simp only [shape] at serial
      refine SerialSince.moved here rfl rfl ?_
      cases runtime.stop <;> exact serial
  | emptied shape queue =>
      simp only [shape] at serial
      exact SerialSince.moved here rfl rfl serial
  | timedOut shape queue =>
      simp only [shape] at serial
      refine ⟨_, modifyCell_here _ here, rfl, ?_⟩
      rw [calledMessages_append]
      simpa [calledMessages, ActorCell.Serial] using serial
  | called draining envelope rest message shape queue typed =>
      have returned :
          cell.actor.Serves initial (calledMessages index log) cell.state := by
        cases draining <;>
          simpa only [shape, LoopPosition.atReceive] using serial
      refine ⟨_, modifyCell_here _ here, rfl, ?_⟩
      rw [calledMessages_append]
      exact ⟨_, message, by simp [calledMessages], returned, .refl⟩
  | skipped draining envelope rest reductions yields shape queue typed shown =>
      have returned :
          cell.actor.Serves initial (calledMessages index log) cell.state := by
        cases draining <;>
          simpa only [shape, LoopPosition.atReceive] using serial
      refine ⟨_, modifyCell_here _ here, rfl, ?_⟩
      rw [calledMessages_append]
      rcases shown with rfl | rfl <;>
        simpa [calledMessages, ActorCell.Serial] using returned
  | returned draining frame state reductions yields shape action shown =>
      simp only [shape] at serial
      refine ⟨_, modifyCell_here _ here, rfl, ?_⟩
      rw [calledMessages_append]
      rcases shown with rfl | rfl <;>
        simpa [calledMessages, ActorCell.Serial] using serial.returns action
  | panicked draining frame shape action =>
      simp only [shape] at serial
      exact SerialSince.moved here rfl rfl ⟨frame, serial, action⟩
  | sendRefused draining frame target message resume shape action found =>
      simp only [shape] at serial
      exact SerialSince.moved here rfl rfl (serial.goOn (.sendTo _ action))
  | sendStarted draining frame target message resume channel shape action
      found =>
      simp only [shape] at serial
      exact SerialSince.moved here rfl rfl ⟨frame, target, message, serial, action, rfl⟩
  | sent draining channel envelope resume sent shape accepted =>
      simp only [shape] at serial
      obtain ⟨frame, target, message, inCall, action, -⟩ := serial
      obtain ⟨extra, there, -⟩ := OnlyExtended.offered accepted here
      exact SerialSince.moved there rfl rfl (inCall.goOn (.sendTo _ action))
  | sendFailed draining channel envelope resume shape disconnected =>
      simp only [shape] at serial
      obtain ⟨frame, target, message, inCall, action, -⟩ := serial
      exact SerialSince.moved here rfl rfl (inCall.goOn (.sendTo _ action))
  | replyIgnored draining frame message resume shape action kept =>
      simp only [shape] at serial
      exact SerialSince.moved here rfl rfl (serial.goOn (.reply _ action))
  | replyStarted draining frame message resume channel shape action kept =>
      simp only [shape] at serial
      exact SerialSince.moved here rfl rfl ⟨frame, serial, action⟩
  | replied draining channel message resume shape empty =>
      simp only [shape] at serial
      obtain ⟨frame, inCall, action⟩ := serial
      have there :
          (runtime.setReply channel
            { buffer := some message, handleAlive := true }).cells[index]? =
            some cell := here
      exact SerialSince.moved there rfl rfl (inCall.goOn (.reply _ action))
  | replyFailed draining channel message resume reply shape found gone =>
      simp only [shape] at serial
      obtain ⟨frame, inCall, action⟩ := serial
      exact SerialSince.moved here rfl rfl (inCall.goOn (.reply _ action))
  | askedIsRequest draining frame resume shape action =>
      simp only [shape] at serial
      exact SerialSince.moved here rfl rfl (serial.goOn (.isRequest _ action))
  | computed draining frame resume answer shape action =>
      simp only [shape] at serial
      exact SerialSince.moved here rfl rfl (serial.goOn (.other _ action))
  | dropped shape =>
      have uncalled :
          calledMessages index [(.dropped index : RuntimeEvent Value)] = [] :=
        rfl
      refine ⟨_, modifyCell_here _ here, rfl, ?_⟩
      rw [calledMessages_append, uncalled, List.append_nil]
      rcases shape with shape | shape <;> simp only [shape] at serial
      · exact .inl serial
      · exact .inr serial

theorem typedMessages_append
    (messageType : TypeId)
    (first later : List (MessageEnvelope Value)) :
    typedMessages messageType (first ++ later) =
      typedMessages messageType first ++ typedMessages messageType later :=
  List.filterMap_append

/-- What a loop has taken since its spawn was accepted before all the rest. -/
theorem accepted_since_spawn
    {spawned final : Runtime Value State Frame}
    {log : List (RuntimeEvent Value)}
    {index : Nat}
    {id : ActorId}
    (run : Machine.Run (machine Value State Frame) spawned log final)
    (born : spawned.cells[index]? = some (.new id actor initial)) :
    ∃ behind,
      acceptedEnvelopes index log = takenEnvelopes index log ++ behind := by
  have queueRun :=
    (mailboxSimulation Value State Frame index).run run trivial
  obtain ⟨-, unseen, account⟩ := Fifo.run_accounts queueRun
  simp only [mailboxSimulation, mailboxView_of_some born,
    enteredItems_mailboxEvents, leftItems_mailboxEvents, ActorCell.new,
    List.nil_append, List.append_assoc] at account
  exact ⟨_, account⟩

/-- What was accepted for a loop since its spawn, and is neither called nor
passed over yet, is in its mailbox. -/
theorem called_accepted
    {spawned final : Runtime Value State Frame}
    {log : List (RuntimeEvent Value)}
    {index : Nat}
    {id : ActorId}
    {cell : ActorCell Value State Frame}
    (run : Machine.Run (machine Value State Frame) spawned log final)
    (born : spawned.cells[index]? = some (.new id actor initial))
    (here : final.cells[index]? = some cell)
    (sameActor : cell.actor = actor) :
    ∃ waiting,
      typedMessages actor.messageType (acceptedEnvelopes index log) =
          calledMessages index log ++ waiting ∧
        (cell.position.isEnded = false →
          waiting = typedMessages actor.messageType cell.mailbox) := by
  have queueRun :=
    (mailboxSimulation Value State Frame index).run run trivial
  obtain ⟨whileOpen, unseen, always⟩ := Fifo.run_accounts queueRun
  have called := (run_callsMatch run index).2 cell here
  rw [sameActor] at called
  simp only [mailboxSimulation, mailboxView_of_some born,
    mailboxView_of_some here, enteredItems_mailboxEvents,
    leftItems_mailboxEvents, ActorCell.new, List.nil_append,
    Bool.not_eq_true'] at whileOpen always
  refine ⟨typedMessages actor.messageType (cell.mailbox ++ unseen), ?_,
    fun opened => ?_⟩
  · rw [always, called, List.append_assoc, typedMessages_append]
  · have nothing : unseen = [] := by
      have same := (whileOpen opened).symm.trans always
      simpa using same
    rw [nothing, List.append_nil]

/--
Whatever the interleaving, an actor is serial: from its spawn on its state is
that of complete handler calls, one after the other, on the messages it was
called on, with the last call perhaps under way or panicked; and these messages
are the first of its type that were accepted, in order.
-/
theorem actor_serial
    {spawned final : Runtime Value State Frame}
    {log : List (RuntimeEvent Value)}
    {index : Nat}
    {id : ActorId}
    (run : Machine.Run (machine Value State Frame) spawned log final)
    (born : spawned.cells[index]? = some (.new id actor initial)) :
    ∃ cell,
      final.cells[index]? = some cell ∧
        cell.actor = actor ∧
        cell.Serial initial (calledMessages index log) ∧
        ∃ waiting,
          typedMessages actor.messageType (acceptedEnvelopes index log) =
              calledMessages index log ++ waiting ∧
            (cell.position.isEnded = false →
              waiting = typedMessages actor.messageType cell.mailbox) := by
  obtain ⟨cell, here, sameActor, serial⟩ :=
    run_cell (fun log index cell => SerialSince actor initial log index cell)
      serialSince_elsewhere serialSince_own run born ⟨rfl, .nil⟩
  exact ⟨cell, here, sameActor, serial,
    called_accepted run born here sameActor⟩

/-- The accumulator is called on the payloads of its type, in order. -/
theorem actor_serial_crossed :
    ∃ final log cell,
      (machine _ _ _).run?
          ((withConfig _ _ _ 5).spawn accumulator 0).1
          crossedReplies.tail = some (final, log) ∧
        final.cells[0]? = some cell ∧
        cell.Serial 0 [5, 7, 4] := by
  obtain ⟨final, log, executed, called⟩ :
      ∃ final log,
        (machine _ _ _).run?
            ((withConfig _ _ _ 5).spawn accumulator 0).1
            crossedReplies.tail = some (final, log) ∧
          calledMessages 0 log = [5, 7, 4] :=
    ⟨_, _, rfl, rfl⟩
  have born :
      ((withConfig _ _ _ 5).spawn accumulator 0).1.cells[0]? =
        some (.new ⟨1⟩ accumulator 0) :=
    rfl
  obtain ⟨cell, here, -, serial, -⟩ :=
    actor_serial (Machine.run?_sound _ executed) born
  rw [called] at serial
  exact ⟨final, log, cell, executed, here, serial⟩

/-! ## What a request is answered -/

/-- A reply is the first event of its step, and of a loop inside of `reply`. -/
theorem replied_step
    {before after : Runtime Value State Frame}
    {label : Label Value State Frame}
    {index channel : Nat}
    {reply : AnyBox Value}
    {events front back : List (RuntimeEvent Value)}
    (step :
      (machine Value State Frame).step? before label = some (after, events))
    (shape : events = front ++ .replied index channel reply :: back) :
    front = [] ∧
      ∃ cell draining resume,
        before.cells[index]? = some cell ∧
          cell.position = .replying draining channel reply resume := by
  obtain silent | ⟨loop, answer, cell, draining, target, message, resume, -,
      here, inside, -, rfl⟩ := repliesOn_of_step step
  · have nothing := silent channel
    simp [shape, repliesOn] at nothing
  · cases front with
    | nil =>
        obtain ⟨same, -⟩ := List.cons.inj shape
        obtain ⟨rfl, rfl, rfl⟩ := RuntimeEvent.replied.inj same
        exact ⟨rfl, cell, draining, resume, here, inside⟩
    | cons first rest =>
        have length := congrArg List.length shape
        simp only [List.length_cons, List.length_nil, List.length_append]
          at length
        obtain rfl : rest = [] := List.eq_nil_of_length_eq_zero (by omega)
        simp at shape

/-- What a loop has taken with the reply channel of a request is the envelope of
this request. -/
theorem taken_eq_envelope
    {mailboxCapacity index : Nat}
    {log : List (RuntimeEvent Value)}
    {runtime : Runtime Value State Frame}
    (run :
      Machine.Run (machine Value State Frame)
        (withConfig Value State Frame mailboxCapacity) log runtime)
    {request : Request Value}
    {envelope : MessageEnvelope Value}
    (sent : request ∈ requests log)
    (taken : envelope ∈ takenEnvelopes index log)
    (same : envelope.replySender = some request.channel) :
    envelope = request.envelope := by
  obtain ⟨unseen, account⟩ := run_taken_accepted run index
  have accepted : envelope ∈ acceptedEnvelopes index log := by
    rw [account]
    exact List.mem_append_left _ (List.mem_append_left _ taken)
  cases envelope with
  | message message => cases same
  | request requestId payload channel =>
      obtain rfl : channel = request.channel := Option.some.inj same
      have unique :=
        request_unique run (mem_requests_of_accepted accepted) sent rfl
      rw [← unique]
      rfl

/-- A loop inside of a reply was called on the request it replies to, and its
handler makes this reply for the payload of the request. -/
theorem served_of_replying
    {mailboxCapacity index channel : Nat}
    {past log : List (RuntimeEvent Value)}
    {spawned middle : Runtime Value State Frame}
    {id : ActorId}
    {cell : ActorCell Value State Frame}
    {draining : Bool}
    {reply : AnyBox Value}
    {resume : Except RuntimeError Unit → Frame}
    (earlier :
      Machine.Run (machine Value State Frame)
        (withConfig Value State Frame mailboxCapacity) past spawned)
    (untaken : takenEnvelopes index past = [])
    (born : spawned.cells[index]? = some (.new id actor initial))
    (run : Machine.Run (machine Value State Frame) spawned log middle)
    (here : middle.cells[index]? = some cell)
    (inside : cell.position = .replying draining channel reply resume)
    {request : Request Value}
    (sent : request ∈ requests (past ++ log))
    (same : request.channel = channel) :
    ∃ ahead message state,
      takenEnvelopes index log = ahead ++ [request.envelope] ∧
        request.payload.downcast actor.messageType = some message ∧
        actor.Serves initial (typedMessages actor.messageType ahead) state ∧
        actor.Replies state message reply := by
  have whole := earlier.append run
  have takenAll :
      takenEnvelopes index (past ++ log) = takenEnvelopes index log := by
    rw [takenEnvelopes, List.filterMap_append]
    exact congrArg (· ++ takenEnvelopes index log) untaken
  have holds := replySender_of_replying whole here inside
  subst same
  -- the envelope of the call under way, and the last typed one, are the request
  obtain ⟨envelope, callOn, context⟩ :=
    (run_contextFits whole index cell here).call
      (by rw [inside]; rfl)
  obtain rfl :=
    taken_eq_envelope whole sent callOn.mem_taken (context.symm.trans holds)
  obtain ⟨ahead, taken⟩ := List.getLast?_eq_some_iff.mp callOn.onEnvelope
  rw [takenAll] at taken
  obtain ⟨typedOne, last, typedSame⟩ :=
    lastTyped_of_replySender whole here holds
  obtain rfl :=
    taken_eq_envelope whole sent (lastTyped_mem last) typedSame
  obtain ⟨found, foundHere, sameActor, serial, -⟩ := actor_serial run born
  obtain rfl : found = cell := by simpa [here] using foundHere.symm
  subst sameActor
  obtain ⟨message, typed⟩ :=
    Option.isSome_iff_exists.mp
      (List.mem_filter.mp (List.mem_of_getLast? last)).2
  have called := (run_callsMatch run index).2 found here
  simp only [ActorCell.Serial, inside] at serial
  obtain ⟨frame, ⟨before, on, shape, serves, comes⟩, action⟩ := serial
  have split :
      before ++ [on] =
        typedMessages found.actor.messageType ahead ++ [message] := by
    rw [← shape, called, taken, typedMessages_append]
    exact congrArg (_ ++ ·) (by simp [typedMessages, typed])
  obtain ⟨rfl, newest⟩ := List.append_inj' split rfl
  obtain rfl : on = message := List.singleton_inj.mp newest
  exact ⟨ahead, on, found.state, taken, typed, serves, frame, resume, comes,
    action⟩

/-- A spawn adds the cell of the new actor. -/
theorem spawn_birth
    {before spawned : Runtime Value State Frame}
    {birth : List (RuntimeEvent Value)}
    (spawns :
      (machine Value State Frame).step? before (.spawn actor initial) =
        some (spawned, birth)) :
    spawned.cells[before.cells.length]? =
        some (.new before.nextActorId actor initial) ∧
      birth = [.spawned before.nextActorId before.cells.length] := by
  simp only [machine, spawn, Option.ite_none_right_eq_some, Option.some.injEq,
    Prod.mk.injEq] at spawns
  obtain ⟨-, rfl, rfl⟩ := spawns
  simp

/--
A requester that receives a reply receives what the actor's handler replies to
its request in the state after exactly the messages that were accepted before
the request, whatever else was going on.
-/
theorem request_served
    {mailboxCapacity : Nat}
    {past birth log : List (RuntimeEvent Value)}
    {before spawned final : Runtime Value State Frame}
    (earlier :
      Machine.Run (machine Value State Frame)
        (withConfig Value State Frame mailboxCapacity) past before)
    (spawns :
      (machine Value State Frame).step? before (.spawn actor initial) =
        some (spawned, birth))
    (run : Machine.Run (machine Value State Frame) spawned log final)
    {request : Request Value}
    (sent : request ∈ requests log)
    (toActor : request.target = before.cells.length)
    {reply : AnyBox Value}
    (received : .replyReceived request.channel reply ∈ log) :
    ∃ ahead behind message state,
      acceptedEnvelopes request.target log =
          ahead ++ request.envelope :: behind ∧
        request.payload.downcast actor.messageType = some message ∧
        actor.Serves initial (typedMessages actor.messageType ahead) state ∧
        actor.Replies state message reply := by
  obtain ⟨born, rfl⟩ := spawn_birth spawns
  have upToSpawn := earlier.append (.single _ spawns)
  have whole := upToSpawn.append run
  -- nothing of the new loop is seen before its spawn
  have unseen :
      ∀ event ∈ past ++ [.spawned before.nextActorId before.cells.length],
        shownBy event ≠ some request.target := by
    rintro event member shown
    rcases List.mem_append.mp member with older | newest
    · have inside := run_shown earlier event older _ shown
      omega
    · rw [List.mem_singleton.mp newest] at shown
      cases shown
  have sentWhole :
      request ∈ requests
        (past ++ [.spawned before.nextActorId before.cells.length] ++ log) := by
    rw [requests, List.filterMap_append]
    exact List.mem_append_right _ sent
  obtain ⟨front, back, split⟩ :=
    List.mem_iff_append.mp (List.mem_append_right
      (past ++ [.spawned before.nextActorId before.cells.length]) received)
  obtain ⟨head, tail, rfl, -⟩ :=
    (replies_own whole).received request sentWhole front reply back split
  have replied :
      .replied request.target request.channel reply ∈ log := by
    have member :
        .replied request.target request.channel reply ∈
          past ++ [.spawned before.nextActorId before.cells.length] ++ log := by
      rw [split]
      simp
    rcases List.mem_append.mp member with older | newest
    · exact absurd rfl (unseen _ older)
    · exact newest
  obtain ⟨head, tail, shape⟩ := List.mem_iff_append.mp replied
  obtain ⟨middle, label, after, rest, upTo, step⟩ :=
    run.upTo (fun step shape => (replied_step step shape).1) shape
  obtain ⟨-, cell, draining, resume, here, inside⟩ :=
    replied_step step (List.nil_append _).symm
  rw [← toActor] at born
  have sentBefore :
      request ∈ requests
        (past ++ [.spawned before.nextActorId before.cells.length] ++ head) := by
    obtain ⟨other, member, -, same⟩ :=
      request_of_replySender (upToSpawn.append upTo) here
        (replySender_of_replying (upToSpawn.append upTo) here inside)
    have memberWhole :
        other ∈ requests
          (past ++ [.spawned before.nextActorId before.cells.length] ++
            log) := by
      rw [shape, ← List.append_assoc, requests, List.filterMap_append]
      exact List.mem_append_left _ member
    rwa [request_unique whole memberWhole sentWhole same] at member
  obtain ⟨ahead, message, state, taken, typed, serves, replies⟩ :=
    served_of_replying upToSpawn (takenEnvelopes_of_notShown unseen) born upTo
      here inside sentBefore rfl
  obtain ⟨behind, account⟩ := accepted_since_spawn run born
  refine ⟨ahead, takenEnvelopes request.target tail ++ behind, message, state,
    ?_, typed, serves, replies⟩
  rw [account, shape, takenEnvelopes, List.filterMap_append]
  have takenHead : head.filterMap _ = ahead ++ [request.envelope] := taken
  simp only [takenHead, List.append_assoc, List.singleton_append,
    List.filterMap_cons]
  rfl

/-- The second request to the accumulator, with the payload four. -/
def secondRequest : Request Nat where
  target := 0
  requestId := 0
  payload := ⟨0, 4⟩
  channel := 1

theorem request_served_crossed :
    ∃ log ahead behind message state,
      acceptedEnvelopes 0 log = ahead ++ secondRequest.envelope :: behind ∧
        accumulator.Serves 0 (typedMessages 0 ahead) state ∧
        accumulator.Replies state message ⟨0, 16⟩ := by
  obtain ⟨final, log, executed, sent, received⟩ :
      ∃ final log,
        (machine _ _ _).run?
            ((withConfig _ _ _ 5).spawn accumulator 0).1
            crossedReplies.tail = some (final, log) ∧
          (requests log)[1]? = some secondRequest ∧
          log[26]? = some (.replyReceived 1 ⟨0, 16⟩) :=
    ⟨_, _, rfl, rfl, rfl⟩
  have spawns :
      (machine _ _ _).step? (withConfig _ _ _ 5) (.spawn accumulator 0) =
        some ((withConfig _ _ _ 5).spawn accumulator 0) :=
    rfl
  have received : .replyReceived secondRequest.channel ⟨0, 16⟩ ∈ log :=
    List.mem_of_getElem? received
  obtain ⟨ahead, behind, message, state, accepted, -, serves, replies⟩ :=
    request_served .nil spawns (Machine.run?_sound _ executed)
      (List.mem_of_getElem? sent) rfl received
  exact ⟨log, ahead, behind, message, state, accepted, serves, replies⟩

end Runtime

end Runact
