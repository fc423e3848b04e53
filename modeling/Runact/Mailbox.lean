import Runact.Basic

namespace Runact

/-!
# The blocking mailbox

`Mailbox<T>` is a queue behind a mutex with one condition variable for senders
and receivers.  A step of the machine is one critical section, up to its end or
to a wait.  A thread that waits is on the condition variable until a
`notify_one` picks it, and resumes when it has the mutex again; which waiter is
picked, and who resumes when, are scheduling choices.  There are no spurious
wakeups.  Nothing inside a critical section panics, so the mutex is never
poisoned.
-/

universe u

/-- `BackpressurePolicy`. -/
inductive BackpressurePolicy where
  | reject
  | block
  | dropLowPriority
  deriving DecidableEq, Repr

/-- `MailboxConfig`, with the values of its `Default`. -/
structure MailboxConfig where
  capacity : Nat := 1000
  backpressure : BackpressurePolicy := .reject
  deriving DecidableEq, Repr

/-- A thread inside `cvar.wait`, or notified and not yet resumed. -/
inductive Waiter (Message : Type u) where
  /-- In `send`, waiting for space. -/
  | sender (message : Message)
  /-- In `receive`. -/
  | receiver
  deriving DecidableEq

/-- `Mailbox`, with the threads inside its calls. -/
structure Mailbox (Message : Type u) where
  queue : List Message
  config : MailboxConfig
  /-- The threads waiting on the condition variable. -/
  waiting : List (Waiter Message)
  /-- The notified threads that have yet to resume. -/
  notified : List (Waiter Message)
  deriving DecidableEq

/-- What a critical section returns to its caller. -/
inductive MailboxEvent (Message : Type u) where
  | sent (result : Except RuntimeError Unit)
  | received (message : Message)
  | triedReceive (answer : Option Message)
  deriving DecidableEq

namespace Mailbox

variable {Message : Type u}

/-- `Mailbox::new`. -/
def new (Message : Type u) (config : MailboxConfig) : Mailbox Message where
  queue := []
  config := config
  waiting := []
  notified := []

/-- `cvar.wait`. -/
def wait
    (mailbox : Mailbox Message)
    (waiter : Waiter Message) : Mailbox Message :=
  { mailbox with waiting := mailbox.waiting ++ [waiter] }

/-- `cvar.notify_one`, which wakes this waiter; it does nothing when nobody
waits. -/
def notifyOne
    (mailbox : Mailbox Message)
    (wakes : Nat) : Option (Mailbox Message) :=
  match mailbox.waiting[wakes]? with
  | some waiter =>
      some { mailbox with
        waiting := mailbox.waiting.eraseIdx wakes
        notified := mailbox.notified ++ [waiter] }
  | none =>
      if mailbox.waiting.isEmpty then some mailbox else none

/-- `push_back`, `notify_one` and `Ok(())`. -/
def push
    (mailbox : Mailbox Message)
    (message : Message)
    (wakes : Nat) : Option (Mailbox Message × List (MailboxEvent Message)) :=
  let pushed := { mailbox with queue := mailbox.queue ++ [message] }
  (pushed.notifyOne wakes).map fun after => (after, [.sent (.ok ())])

/-- The loop in which `send` waits for space, up to a wait or to its end. -/
def waitForSpace
    (mailbox : Mailbox Message)
    (message : Message)
    (wakes : Nat) : Option (Mailbox Message × List (MailboxEvent Message)) :=
  if mailbox.config.capacity ≤ mailbox.queue.length then
    some (mailbox.wait (.sender message), [])
  else
    mailbox.push message wakes

/-- `Mailbox::send`. -/
def send
    (mailbox : Mailbox Message)
    (message : Message)
    (wakes : Nat) : Option (Mailbox Message × List (MailboxEvent Message)) :=
  if mailbox.config.capacity ≤ mailbox.queue.length then
    match mailbox.config.backpressure with
    | .reject =>
        some (mailbox, [.sent (.error (.mailboxFull ⟨0⟩))])
    | .block =>
        mailbox.waitForSpace message wakes
    | .dropLowPriority =>
        { mailbox with queue := mailbox.queue.tail }.push message wakes
  else
    mailbox.push message wakes

/-- `Mailbox::receive`, up to a wait or to its end. -/
def receive
    (mailbox : Mailbox Message) :
    Mailbox Message × List (MailboxEvent Message) :=
  match mailbox.queue with
  | message :: rest => ({ mailbox with queue := rest }, [.received message])
  | [] => (mailbox.wait .receiver, [])

/-- `Mailbox::try_receive`. -/
def tryReceive
    (mailbox : Mailbox Message) :
    Mailbox Message × List (MailboxEvent Message) :=
  ({ mailbox with queue := mailbox.queue.tail },
    [.triedReceive mailbox.queue.head?])

/-- A notified thread has the mutex again. -/
def resume
    (mailbox : Mailbox Message)
    (index wakes : Nat) :
    Option (Mailbox Message × List (MailboxEvent Message)) :=
  let resumed :=
    { mailbox with notified := mailbox.notified.eraseIdx index }
  match mailbox.notified[index]? with
  | none => none
  | some (.sender message) => resumed.waitForSpace message wakes
  | some .receiver => some resumed.receive

/-- Scheduling choices; `wakes` is the waiter a `notify_one` picks. -/
inductive Label (Message : Type u) where
  | send (message : Message) (wakes : Nat)
  | receive
  | tryReceive
  | resume (index wakes : Nat)
  deriving DecidableEq

/-- The mailbox machine: any number of threads call through clones. -/
def machine (Message : Type u) :
    Machine (Mailbox Message) (Label Message) (MailboxEvent Message) where
  step?
    | mailbox, .send message wakes => mailbox.send message wakes
    | mailbox, .receive => some mailbox.receive
    | mailbox, .tryReceive => some mailbox.tryReceive
    | mailbox, .resume index wakes => mailbox.resume index wakes

end Mailbox

end Runact
