import Runact.Actor

namespace Runact

/-!
# The runtime

The registries, the mailboxes and everyone who touches them: threads that call
the runtime, the timer service delivering a fired message, requesters, and the
actor loops.  A step of the machine is one lock section, one channel operation
or one silent stretch of handler code.  A call that holds the senders lock while
it waits for room in a mailbox is in flight between its steps.

`spawn` and `shutdown` write to the senders map.  While one of them waits for
the readers to leave, the lock lets no new reader in, and whoever comes to
`senders.read()` waits with it; the reader that leaves last wakes the writer.
Meanwhile a `spawn` that waits has its entry in `actors` already, which nobody
can see: it holds the runtime exclusively.

`&self` calls may overlap with everything, also with `shutdown`; the borrow
checker admits fewer interleavings.  `recv_timeout` never reports a disconnected
channel, because the context of an actor keeps a sender of its own mailbox.
-/

universe u

/-- The channel behind a `RequestHandle`: `bounded(1)`. -/
structure ReplyChannel (Value : Type u) where
  buffer : Option (AnyBox Value)
  handleAlive : Bool
  deriving DecidableEq

/-- `ActorInfo`. -/
structure ActorInfo where
  id : ActorId
  name : Option String
  mailboxDepth : Nat
  deriving DecidableEq, Repr

/-- A blocking send that holds the senders lock: `send_blocking`, or the timer
service with a fired message. -/
structure BlockedSend (Value : Type u) where
  channel : Nat
  envelope : MessageEnvelope Value
  fromTimer : Bool

/-- How far the `shutdown` call has come. -/
inductive ShutdownPhase where
  | idle
  /-- The stop flag is stored; waiting for the deadline. -/
  | stopping
  | sendersCleared
  | actorsCleared
  deriving DecidableEq

/-- The runtime with its actor loops and reply channels. -/
structure Runtime (Value State Frame : Type u) where
  actors : AList (fun _ : ActorId => ActorInfo)
  /-- For each actor the number of the cell that owns its receiver. -/
  senders : AList (fun _ : ActorId => Nat)
  requestCounter : Nat
  stop : Bool
  mailboxCapacity : Nat
  cells : List (ActorCell Value State Frame)
  replies : List (ReplyChannel Value)
  blocked : List (BlockedSend Value)
  /-- `request` calls between their `fetch_add` and their lock section. -/
  claimedRequests : List Nat
  /-- A `spawn` or `shutdown` call waits in `senders.write()`. -/
  writerWaits : Bool
  shutdownPhase : ShutdownPhase
  /-- `shutdown` has joined the timer service and the workers. -/
  joined : Bool

namespace Runtime

variable {Value State Frame : Type u}

/-- `Runtime::with_config`. -/
def withConfig
    (Value State Frame : Type u)
    (mailboxCapacity : Nat) : Runtime Value State Frame where
  actors := ∅
  senders := ∅
  requestCounter := 0
  stop := false
  mailboxCapacity := mailboxCapacity
  cells := []
  replies := []
  blocked := []
  claimedRequests := []
  writerWaits := false
  shutdownPhase := .idle
  joined := false

/-- Change one actor loop. -/
def modifyCell
    (runtime : Runtime Value State Frame)
    (index : Nat)
    (change : ActorCell Value State Frame → ActorCell Value State Frame) :
    Runtime Value State Frame :=
  { runtime with cells := runtime.cells.modify index change }

/-- Change one reply channel. -/
def setReply
    (runtime : Runtime Value State Frame)
    (channel : Nat)
    (reply : ReplyChannel Value) : Runtime Value State Frame :=
  { runtime with replies := runtime.replies.set channel reply }

/-- Move an actor loop to another position. -/
def moveTo
    (runtime : Runtime Value State Frame)
    (index : Nat)
    (position : LoopPosition Value Frame) : Runtime Value State Frame :=
  runtime.modifyCell index fun cell => { cell with position := position }

/-- The id of the next actor: `actors.read().len() as u64 + 1`. -/
def nextActorId (runtime : Runtime Value State Frame) : ActorId :=
  ⟨runtime.actors.keys.length + 1⟩

/-- `Runtime::spawn`, with a mailbox capacity for which crossbeam's `bounded`
returns. -/
def spawn
    (runtime : Runtime Value State Frame)
    (actor : Actor Value State Frame)
    (state : State) :
    Runtime Value State Frame × List (RuntimeEvent Value) :=
  let id := runtime.nextActorId
  let info : ActorInfo := { id := id, name := none, mailboxDepth := 0 }
  ({ runtime with
      actors := runtime.actors.insert id info
      senders := runtime.senders.insert id runtime.cells.length
      cells := runtime.cells ++ [ActorCell.new id actor state]
      writerWaits := false },
    [.spawned id runtime.cells.length])

/-- `Runtime::spawn_supervisor`; nothing but the registry entry outlives it. -/
def spawnSupervisor
    (runtime : Runtime Value State Frame) :
    Runtime Value State Frame × List (RuntimeEvent Value) :=
  let id := runtime.nextActorId
  let info : ActorInfo :=
    { id := id, name := some "supervisor", mailboxDepth := 0 }
  ({ runtime with actors := runtime.actors.insert id info },
    [.supervisorSpawned id])

/--
A bounded channel takes an envelope below its capacity.  At capacity zero it
takes one when the loop waits for it: in `recv_timeout`, or, for a sender that
waits itself, in `try_recv`.
-/
def hasRoom
    (capacity : Nat)
    (blocking : Bool)
    (cell : ActorCell Value State Frame) : Bool :=
  if capacity = 0 then
    cell.mailbox.isEmpty &&
      match cell.position with
      | .receiving => true
      | .draining => blocking
      | _ => false
  else
    decide (cell.mailbox.length < capacity)

/-- The answer of a channel to an envelope. -/
inductive Offer (Value State Frame : Type u) where
  | accepted (after : Runtime Value State Frame)
  | full
  | disconnected

/-- Offer an envelope to the channel of a cell: what `try_send` decides at
once, and what `send` waits to be anything but `full`. -/
def offer
    (runtime : Runtime Value State Frame)
    (blocking : Bool)
    (channel : Nat)
    (envelope : MessageEnvelope Value) : Offer Value State Frame :=
  match runtime.cells[channel]? with
  | none => .disconnected
  | some cell =>
      if cell.position.isEnded then
        .disconnected
      else if hasRoom runtime.mailboxCapacity blocking cell then
        .accepted (runtime.modifyCell channel fun cell =>
          { cell with mailbox := cell.mailbox ++ [envelope] })
      else
        .full

/-- `Runtime::send`. -/
def send
    (runtime : Runtime Value State Frame)
    (target : ActorId)
    (message : AnyBox Value) :
    Runtime Value State Frame × List (RuntimeEvent Value) :=
  match runtime.senders.lookup target with
  | none => (runtime, [.answered (.error (.actorNotFound target))])
  | some channel =>
      match runtime.offer false channel (.message message) with
      | .accepted after =>
          (after, [.accepted channel (.message message), .answered (.ok ())])
      | .full => (runtime, [.answered (.error (.mailboxFull target))])
      | .disconnected => (runtime, [.answered (.error .runtimeStopped)])

/-- `Runtime::send_blocking` up to the call of `sender.send`. -/
def sendBlocking
    (runtime : Runtime Value State Frame)
    (target : ActorId)
    (message : AnyBox Value) :
    Runtime Value State Frame × List (RuntimeEvent Value) :=
  match runtime.senders.lookup target with
  | none => (runtime, [.answered (.error (.actorNotFound target))])
  | some channel =>
      ({ runtime with
          blocked := runtime.blocked ++
            [{ channel := channel
               envelope := .message message
               fromTimer := false }] }, [])

/-- The timer service looks up the sender for a fired message, and gives the
message up when there is none. -/
def deliverTimer
    (runtime : Runtime Value State Frame)
    (target : ActorId)
    (message : AnyBox Value) : Runtime Value State Frame :=
  match runtime.senders.lookup target with
  | none => runtime
  | some channel =>
      { runtime with
        blocked := runtime.blocked ++
          [{ channel := channel
             envelope := .message message
             fromTimer := true }] }

/-- `sender.send` of a blocking send returns, if it can. -/
def unblock?
    (runtime : Runtime Value State Frame)
    (index : Nat) :
    Option (Runtime Value State Frame × List (RuntimeEvent Value)) :=
  match runtime.blocked[index]? with
  | none => none
  | some waiting =>
      match runtime.offer true waiting.channel waiting.envelope with
      | .accepted after =>
          some ({ after with blocked := after.blocked.eraseIdx index },
            [.accepted waiting.channel waiting.envelope, .answered (.ok ())])
      | .full => none
      | .disconnected =>
          some ({ runtime with blocked := runtime.blocked.eraseIdx index },
            [.answered (.error .runtimeStopped)])

/-- `Runtime::request` after its `fetch_add`. -/
def request
    (runtime : Runtime Value State Frame)
    (requestId : Nat)
    (target : ActorId)
    (message : AnyBox Value) :
    Runtime Value State Frame × List (RuntimeEvent Value) :=
  match runtime.senders.lookup target with
  | none =>
      (runtime,
        [.requestAnswered requestId (.error (.actorNotFound target))])
  | some channel =>
      let reply := runtime.replies.length
      let envelope := .request requestId message reply
      match runtime.offer false channel envelope with
      | .accepted after =>
          ({ after with
              replies :=
                after.replies ++ [{ buffer := none, handleAlive := true }] },
            [.accepted channel envelope, .requestAnswered requestId (.ok reply)])
      | .full =>
          (runtime,
            [.requestAnswered requestId (.error (.mailboxFull target))])
      | .disconnected =>
          (runtime, [.requestAnswered requestId (.error .runtimeStopped)])

/-- Nobody holds the read lock of the senders map. -/
def sendersFree (runtime : Runtime Value State Frame) : Bool :=
  runtime.blocked.isEmpty &&
    runtime.cells.all fun cell => !cell.position.holdsSenders

/-- Every closure that was started has ended. -/
def workersDone (runtime : Runtime Value State Frame) : Bool :=
  runtime.cells.all fun cell =>
    match cell.position with
    | .queued => true
    | .ended => true
    | _ => false

/-- The next step of `Runtime::shutdown`, if it can be taken, up to the join of
the workers. -/
def shutdownStep?
    (runtime : Runtime Value State Frame) :
    Option (Runtime Value State Frame × List (RuntimeEvent Value)) :=
  match runtime.shutdownPhase with
  | .idle =>
      some ({ runtime with stop := true, shutdownPhase := .stopping }, [])
  | .stopping =>
      -- the deadline has passed, whatever the actors have done meanwhile
      if runtime.sendersFree then
        some ({ runtime with
            senders := ∅
            writerWaits := false
            shutdownPhase := .sendersCleared },
          [.sendersCleared])
      else
        none
  | .sendersCleared =>
      some ({ runtime with actors := ∅, shutdownPhase := .actorsCleared },
        [.actorsCleared])
  | .actorsCleared =>
      if runtime.workersDone && runtime.blocked.all (!·.fromTimer) then
        some ({ runtime with joined := true, shutdownPhase := .idle },
          [.shutDown])
      else
        none

/-- The handler has come to the `senders.read()` of a `send_to` call while a
writer waits for the lock. -/
def keptOut
    (runtime : Runtime Value State Frame)
    (cell : ActorCell Value State Frame)
    (frame : Frame) : Bool :=
  match cell.actor.next frame with
  | .sendTo _ _ _ => runtime.writerWaits
  | _ => false

/-- One step of handler code that is not kept out of the senders. -/
def handlerStep
    (runtime : Runtime Value State Frame)
    (index : Nat)
    (cell : ActorCell Value State Frame)
    (draining : Bool)
    (frame : Frame)
    (answer : Nat) :
    Runtime Value State Frame × List (RuntimeEvent Value) :=
  match cell.actor.next frame with
  | .returns state =>
      let finished :=
        ActorCell.finishIteration { cell with state := state } index draining
      (runtime.modifyCell index fun _ => finished.1,
        .handled index :: finished.2)
  | .panics =>
      (runtime.moveTo index .unwinding, [.panicked index])
  | .sendTo target message resume =>
      match runtime.senders.lookup target with
      | none =>
          (runtime.moveTo index
              (.handling draining (resume (.error (.actorNotFound target)))),
            [.sendReturned index (.error (.actorNotFound target))])
      | some channel =>
          (runtime.moveTo index
            (.sending draining channel (.message message) resume), [])
  | .reply message resume =>
      match cell.replySender with
      | none =>
          (runtime.moveTo index (.handling draining (resume (.ok ()))),
            [.replyReturned index (.ok ())])
      | some channel =>
          (runtime.moveTo index
            (.replying draining channel message resume), [])
  | .isRequest resume =>
      (runtime.moveTo index
          (.handling draining (resume cell.replySender.isSome)),
        [.toldIsRequest index cell.replySender.isSome])
  | .other resume =>
      (runtime.moveTo index (.handling draining (resume answer)), [])

/-- The next step of an actor loop, its handler included. -/
def loopStep?
    (runtime : Runtime Value State Frame)
    (index : Nat)
    (answer : Nat) :
    Option (Runtime Value State Frame × List (RuntimeEvent Value)) :=
  match runtime.cells[index]? with
  | none => none
  | some cell =>
      match cell.position with
      | .queued =>
          -- a worker starts the closure
          if runtime.joined then
            none
          else
            some (runtime.moveTo index .top, [])
      | .top =>
          some (runtime.moveTo index
            (if runtime.stop then .draining else .receiving), [])
      | .draining =>
          match cell.mailbox with
          | [] => some (runtime.moveTo index .leaving, [])
          | envelope :: rest =>
              let taken := cell.takeEnvelope index true envelope rest
              some (runtime.modifyCell index fun _ => taken.1, taken.2)
      | .receiving =>
          match cell.mailbox with
          | [] =>
              -- ten milliseconds have passed
              some (runtime.modifyCell index fun cell =>
                { cell with reductions := 0, position := .top },
                [.timedOut index])
          | envelope :: rest =>
              let taken := cell.takeEnvelope index false envelope rest
              some (runtime.modifyCell index fun _ => taken.1, taken.2)
      | .handling draining frame =>
          if runtime.keptOut cell frame then
            none
          else
            some (runtime.handlerStep index cell draining frame answer)
      | .sending draining channel envelope resume =>
          match runtime.offer true channel envelope with
          | .accepted after =>
              some (after.moveTo index (.handling draining (resume (.ok ()))),
                [.accepted channel envelope, .sendReturned index (.ok ())])
          | .full => none
          | .disconnected =>
              some (runtime.moveTo index
                  (.handling draining (resume (.error .runtimeStopped))),
                [.sendReturned index (.error .runtimeStopped)])
      | .replying draining channel message resume =>
          match runtime.replies[channel]? with
          | none => none
          | some reply =>
              if reply.handleAlive then
                match reply.buffer with
                | some _ => none
                | none =>
                    some ((runtime.setReply channel
                        { reply with buffer := some message }).moveTo index
                          (.handling draining (resume (.ok ()))),
                      [.replied index channel message,
                        .replyReturned index (.ok ())])
              else
                some (runtime.moveTo index
                    (.handling draining (resume (.error .runtimeStopped))),
                  [.replyReturned index (.error .runtimeStopped)])
      | .leaving =>
          some (runtime.modifyCell index ActorCell.drop, [.dropped index])
      | .unwinding =>
          some (runtime.modifyCell index ActorCell.drop, [.dropped index])
      | .ended => none

/-- Scheduling choices. -/
inductive Label (Value State Frame : Type u) where
  | spawn (actor : Actor Value State Frame) (state : State)
  /-- A `spawn` or `shutdown` call finds the senders locked and waits in
  `senders.write()`, or is woken when they are free. -/
  | awaitSenders (waits : Bool)
  | spawnSupervisor
  | send (target : ActorId) (message : AnyBox Value)
  | sendBlocking (target : ActorId) (message : AnyBox Value)
  | deliverTimer (target : ActorId) (message : AnyBox Value)
  /-- A blocking send returns. -/
  | unblock (index : Nat)
  /-- The `fetch_add` of a `request` call. -/
  | claimRequest
  /-- The lock section of one of the `request` calls in flight. -/
  | request (index : Nat) (target : ActorId) (message : AnyBox Value)
  /-- A requester receives from its handle. -/
  | receiveReply (channel : Nat)
  /-- A requester drops its handle. -/
  | dropHandle (channel : Nat)
  | shutdown
  /-- The next step of an actor loop; `answer` is for `HandlerAction.other`. -/
  | loop (index answer : Nat)

/-- The runtime machine. -/
def machine (Value State Frame : Type u) :
    Machine (Runtime Value State Frame) (Label Value State Frame)
      (RuntimeEvent Value) where
  step?
    | runtime, .spawn actor state =>
        if runtime.shutdownPhase = .idle ∧ runtime.sendersFree = true then
          some (runtime.spawn actor state)
        else
          none
    | runtime, .awaitSenders waits =>
        if (runtime.shutdownPhase = .idle ∨
              runtime.shutdownPhase = .stopping) ∧
            runtime.sendersFree = !waits then
          some ({ runtime with writerWaits := waits }, [])
        else
          none
    | runtime, .spawnSupervisor => some runtime.spawnSupervisor
    | runtime, .send target message =>
        if runtime.writerWaits then
          none
        else
          some (runtime.send target message)
    | runtime, .sendBlocking target message =>
        if runtime.writerWaits then
          none
        else
          some (runtime.sendBlocking target message)
    | runtime, .deliverTimer target message =>
        if runtime.joined || runtime.writerWaits then
          none
        else
          some (runtime.deliverTimer target message, [])
    | runtime, .unblock index => runtime.unblock? index
    | runtime, .claimRequest =>
        some ({ runtime with
            requestCounter := runtime.requestCounter + 1
            claimedRequests :=
              runtime.claimedRequests ++ [runtime.requestCounter] }, [])
    | runtime, .request index target message =>
        match runtime.claimedRequests[index]? with
        | none => none
        | some requestId =>
            if runtime.writerWaits then
              none
            else
              some (({ runtime with
                  claimedRequests :=
                    runtime.claimedRequests.eraseIdx index }).request
                requestId target message)
    | runtime, .receiveReply channel =>
        match runtime.replies[channel]? with
        | some { buffer := some reply, handleAlive := true } =>
            some (runtime.setReply channel
                { buffer := none, handleAlive := true },
              [.replyReceived channel reply])
        | _ => none
    | runtime, .dropHandle channel =>
        match runtime.replies[channel]? with
        | some { buffer := _, handleAlive := true } =>
            some (runtime.setReply channel
              { buffer := none, handleAlive := false }, [])
        | _ => none
    | runtime, .shutdown => runtime.shutdownStep?
    | runtime, .loop index answer => runtime.loopStep? index answer

end Runtime

end Runact
