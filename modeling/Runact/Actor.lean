import Runact.Basic

namespace Runact

/-!
# Actors and their loop

`Runtime::spawn` turns an actor into one closure, the actor loop, which owns
the receiving end of the mailbox and runs on a scheduler worker until the stop
flag is set and the mailbox is found empty.  Handler code is a program of its
own: it runs silently, or calls the context, and whatever the context answers it
goes on with.
-/

universe u

/-- `MessageEnvelope`; a reply sender is the number of its reply channel. -/
inductive MessageEnvelope (Value : Type u) where
  | message (msg : AnyBox Value)
  | request (requestId : Nat) (payload : AnyBox Value) (replySender : Nat)
  deriving DecidableEq

namespace MessageEnvelope

variable {Value : Type u}

/-- What the loop tries to downcast to the actor's message type. -/
def payload : MessageEnvelope Value → AnyBox Value
  | .message msg => msg
  | .request _ payload _ => payload

/-- What the loop hands to `set_reply_sender`. -/
def replySender : MessageEnvelope Value → Option Nat
  | .message _ => none
  | .request _ _ replySender => some replySender

end MessageEnvelope

/-- What handler code does next; `resume` is where it goes on. -/
inductive HandlerAction (Value State Frame : Type u) where
  /-- `handle` returns; the loop ignores whether with `Ok` or with an error. -/
  | returns (state : State)
  | panics
  /-- `ActorContext::send_to`. -/
  | sendTo (target : ActorId) (message : AnyBox Value)
      (resume : Except RuntimeError Unit → Frame)
  /-- `ActorContext::reply`. -/
  | reply (message : AnyBox Value) (resume : Except RuntimeError Unit → Frame)
  /-- `ActorContext::is_request`. -/
  | isRequest (resume : Bool → Frame)
  /-- Anything that concerns neither mailboxes nor replies. -/
  | other (resume : Nat → Frame)

/-- An implementation of the trait `Actor`: its message type, and its handler
as a program whose control points are the frames. -/
structure Actor (Value State Frame : Type u) where
  messageType : TypeId
  handle : State → Value → Frame
  next : Frame → HandlerAction Value State Frame

/-- Where an actor loop stands. -/
inductive LoopPosition (Value Frame : Type u) where
  /-- The closure is in a run queue. -/
  | queued
  /-- Top of the loop, about to load the stop flag. -/
  | top
  /-- The stop flag was set: about to `try_recv`. -/
  | draining
  /-- In `recv_timeout`. -/
  | receiving
  /-- Inside `handle`; `draining` tells on which of the two receive paths. -/
  | handling (draining : Bool) (frame : Frame)
  /-- Inside `sender.send` of a `send_to` call, with the senders read-locked. -/
  | sending (draining : Bool) (channel : Nat) (envelope : MessageEnvelope Value)
      (resume : Except RuntimeError Unit → Frame)
  /-- Inside `reply_tx.send`. -/
  | replying (draining : Bool) (channel : Nat) (reply : AnyBox Value)
      (resume : Except RuntimeError Unit → Frame)
  /-- Out of the loop; the closure is still to be dropped. -/
  | leaving
  /-- A handler panicked; the closure is still to be dropped. -/
  | unwinding
  /-- The closure is dropped, and the receiver with it. -/
  | ended

namespace LoopPosition

variable {Value Frame : Type u}

/-- The receiver of the mailbox is dropped. -/
def isEnded : LoopPosition Value Frame → Bool
  | .ended => true
  | _ => false

/-- The loop is running, or still to start, and no handler has panicked. -/
def isRunning : LoopPosition Value Frame → Bool
  | .leaving => false
  | .unwinding => false
  | .ended => false
  | _ => true

/-- The thread holds the read lock of the senders map. -/
def holdsSenders : LoopPosition Value Frame → Bool
  | .sending .. => true
  | _ => false

end LoopPosition

/-- `MAX_REDUCTIONS`. -/
def maxReductions : Nat := 4000

/-- An actor loop with all it owns: its actor, context, mailbox and counter. -/
structure ActorCell (Value State Frame : Type u) where
  id : ActorId
  actor : Actor Value State Frame
  state : State
  mailbox : List (MessageEnvelope Value)
  replySender : Option Nat
  reductions : Nat
  position : LoopPosition Value Frame

/-- What a step makes visible. -/
inductive RuntimeEvent (Value : Type u) where
  | spawned (id : ActorId) (cell : Nat)
  | supervisorSpawned (id : ActorId)
  /-- `spawn` panicked, with its registry entry made. -/
  | spawnPanicked (id : ActorId)
  /-- An envelope was put at the back of a mailbox. -/
  | accepted (cell : Nat) (envelope : MessageEnvelope Value)
  /-- `send`, `send_blocking` or the send of a timer returned. -/
  | answered (result : Except RuntimeError Unit)
  /-- `request` returned, with the reply channel of the handle. -/
  | requestAnswered (requestId : Nat) (result : Except RuntimeError Nat)
  /-- The loop took an envelope. -/
  | taken (cell : Nat) (envelope : MessageEnvelope Value)
  /-- The handler was called. -/
  | called (cell : Nat) (message : Value)
  | handled (cell : Nat)
  | panicked (cell : Nat)
  | sendReturned (cell : Nat) (result : Except RuntimeError Unit)
  | replied (cell : Nat) (channel : Nat) (reply : AnyBox Value)
  | replyReturned (cell : Nat) (result : Except RuntimeError Unit)
  | toldIsRequest (cell : Nat) (answer : Bool)
  | replyReceived (channel : Nat) (reply : AnyBox Value)
  | yielded (cell : Nat)
  | timedOut (cell : Nat)
  /-- The receiver was dropped, and what was still queued with it. -/
  | dropped (cell : Nat)
  | sendersCleared
  | actorsCleared
  /-- `shutdown` has joined the timer service and the workers; only
  `compute.shutdown()` is left of the call. -/
  | shutDown

namespace ActorCell

variable {Value State Frame : Type u}

/-- The cell `Runtime::spawn` builds. -/
def new
    (id : ActorId)
    (actor : Actor Value State Frame)
    (state : State) : ActorCell Value State Frame where
  id := id
  actor := actor
  state := state
  mailbox := []
  replySender := none
  reductions := 0
  position := .queued

/-- The end of a loop iteration that took an envelope: only the normal path
counts it. `increment` answers with the value before the addition. -/
def finishIteration
    (cell : ActorCell Value State Frame)
    (index : Nat)
    (draining : Bool) :
    ActorCell Value State Frame × List (RuntimeEvent Value) :=
  if draining then
    ({ cell with position := .top }, [])
  else if cell.reductions ≥ maxReductions then
    ({ cell with reductions := 0, position := .top }, [.yielded index])
  else
    ({ cell with reductions := cell.reductions + 1, position := .top }, [])

/-- The loop body for one taken envelope, up to the call of the handler. -/
def takeEnvelope
    (cell : ActorCell Value State Frame)
    (index : Nat)
    (draining : Bool)
    (envelope : MessageEnvelope Value)
    (rest : List (MessageEnvelope Value)) :
    ActorCell Value State Frame × List (RuntimeEvent Value) :=
  match envelope.payload.downcast cell.actor.messageType with
  | some message =>
      ({ cell with
          mailbox := rest
          replySender := envelope.replySender
          position :=
            .handling draining (cell.actor.handle cell.state message) },
        [.taken index envelope, .called index message])
  | none =>
      let finished :=
        finishIteration { cell with mailbox := rest } index draining
      (finished.1, .taken index envelope :: finished.2)

/-- Dropping the closure drops the receiver, its queue, and the context. -/
def drop
    (cell : ActorCell Value State Frame) : ActorCell Value State Frame :=
  { cell with mailbox := [], replySender := none, position := .ended }

end ActorCell

end Runact
