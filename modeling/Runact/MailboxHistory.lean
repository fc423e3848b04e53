import Runact.Mailbox
import Runact.Fifo

namespace Runact

/-!
# The history of a mailbox

Whatever the policy, the mailbox is a queue: a message enters it exactly when
its `send` returns `Ok`, and leaves it when it is received or, under
`DropLowPriority`, when a `send` that finds the queue full evicts the oldest.
The history law is that of the queue.  A thread may here also come out of
`cvar.wait` without having been notified.
-/

universe u

variable {Message : Type u}

namespace MailboxEvent

/-- A `send` returned `Ok`. -/
@[simp] def isSent : MailboxEvent Message → Bool
  | .sent (.ok _) => true
  | _ => false

/-- The message a receive returned. -/
@[simp] def received? : MailboxEvent Message → Option Message
  | .received message => some message
  | .triedReceive answer => answer
  | .sent _ => none

end MailboxEvent

/-- The messages that were received, in the order of their receives. -/
def receivedMessages (log : List (MailboxEvent Message)) : List Message :=
  log.filterMap MailboxEvent.received?

@[simp] theorem receivedMessages_nil :
    receivedMessages ([] : List (MailboxEvent Message)) = [] :=
  rfl

@[simp] theorem receivedMessages_singleton (event : MailboxEvent Message) :
    receivedMessages [event] = event.received?.toList := by
  cases received : event.received? <;>
    simp only [receivedMessages, List.filterMap_cons, List.filterMap_nil,
      received, Option.toList]

@[simp] theorem receivedMessages_append
    (first later : List (MailboxEvent Message)) :
    receivedMessages (first ++ later) =
      receivedMessages first ++ receivedMessages later :=
  List.filterMap_append

/-- How a message left the queue. -/
inductive Departure (Message : Type u) where
  | received (message : Message)
  | evicted (message : Message)
  deriving DecidableEq

namespace Departure

/-- The message that left. -/
@[simp] def message : Departure Message → Message
  | .received message => message
  | .evicted message => message

/-- The message, if it was received. -/
@[simp] def received? : Departure Message → Option Message
  | .received message => some message
  | .evicted _ => none

/-- The message, if it was evicted. -/
@[simp] def evicted? : Departure Message → Option Message
  | .received _ => none
  | .evicted message => some message

@[simp] theorem received?_received (messages : List Message) :
    (messages.map Departure.received).filterMap received? = messages := by
  simp [List.filterMap_map, Function.comp_def]

@[simp] theorem received?_evicted (messages : List Message) :
    (messages.map Departure.evicted).filterMap received? = [] := by
  simp [List.filterMap_map, Function.comp_def]

@[simp] theorem evicted?_received (messages : List Message) :
    (messages.map Departure.received).filterMap evicted? = [] := by
  simp [List.filterMap_map, Function.comp_def]

@[simp] theorem evicted?_evicted (messages : List Message) :
    (messages.map Departure.evicted).filterMap evicted? = messages := by
  simp [List.filterMap_map, Function.comp_def]

end Departure

namespace Mailbox

/-- Scheduling choices, spurious wakeups included. -/
inductive WakeLabel (Message : Type u) where
  | call (label : Label Message)
  /-- `cvar.wait` returns unnotified. -/
  | wakesUp (index : Nat)
  deriving DecidableEq

/-- The mailbox machine with spurious wakeups. -/
def wakingMachine (Message : Type u) :
    Machine (Mailbox Message) (WakeLabel Message) (MailboxEvent Message) where
  step?
    | mailbox, .call label => (machine Message).step? mailbox label
    | mailbox, .wakesUp index =>
        match mailbox.waiting[index]? with
        | none => none
        | some waiter =>
            some ({ mailbox with
              waiting := mailbox.waiting.eraseIdx index
              notified := mailbox.notified ++ [waiter] }, [])

/-- The message of the thread that is inside `send` in this step. -/
def sending?
    (mailbox : Mailbox Message) : WakeLabel Message → Option Message
  | .call (.send message _) => some message
  | .call (.resume index _) =>
      match mailbox.notified[index]? with
      | some (.sender message) => some message
      | _ => none
  | _ => none

/-- A `send` under `DropLowPriority` that finds the queue full. -/
def findsFull (mailbox : Mailbox Message) : WakeLabel Message → Bool
  | .call (.send _ _) =>
      mailbox.config.backpressure == .dropLowPriority &&
        decide (mailbox.config.capacity ≤ mailbox.queue.length)
  | _ => false

/-- The message whose `send` returns `Ok` in this step. -/
def sentIn (step : Mailbox Message × WakeLabel Message) : List Message :=
  if ((wakingMachine Message).shown step).any MailboxEvent.isSent then
    (step.1.sending? step.2).toList
  else
    []

/-- The messages whose `send` returned `Ok`, in that order. -/
def sentMessages
    (steps : List (Mailbox Message × WakeLabel Message)) : List Message :=
  steps.flatMap sentIn

/-- The oldest message queued, at each `send` that found the queue full. -/
def oldestAtFullSends
    (steps : List (Mailbox Message × WakeLabel Message)) :
    List (Option Message) :=
  (steps.filter fun step => step.1.findsFull step.2).map fun step =>
    step.1.queue.head?

/-- The messages that leave the queue in this step. -/
def departuresIn
    (step : Mailbox Message × WakeLabel Message) : List (Departure Message) :=
  (if step.1.findsFull step.2 then
      step.1.queue.head?.toList.map .evicted
    else
      []) ++
    (receivedMessages ((wakingMachine Message).shown step)).map .received

/-- The messages that left the queue, in that order. -/
def departures
    (steps : List (Mailbox Message × WakeLabel Message)) :
    List (Departure Message) :=
  steps.flatMap departuresIn

/-- What a step does to the queue, one rule for each way it ends. -/
inductive QueueEffect
    (mailbox : Mailbox Message) :
    WakeLabel Message → List Message → List (MailboxEvent Message) → Prop where
  /-- A thread waits, or wakes up. -/
  | waits (label : WakeLabel Message) :
      mailbox.findsFull label = false →
      QueueEffect mailbox label mailbox.queue []
  | refused (message : Message) (wakes : Nat) :
      mailbox.config.backpressure = .reject →
      QueueEffect mailbox (.call (.send message wakes)) mailbox.queue
        [.sent (.error (.mailboxFull ⟨0⟩))]
  | pushed (label : WakeLabel Message) (message : Message) :
      mailbox.sending? label = some message →
      mailbox.findsFull label = false →
      mailbox.queue.length < mailbox.config.capacity →
      QueueEffect mailbox label (mailbox.queue ++ [message])
        [.sent (.ok ())]
  | evicted (message : Message) (wakes : Nat) :
      mailbox.config.backpressure = .dropLowPriority →
      mailbox.config.capacity ≤ mailbox.queue.length →
      QueueEffect mailbox (.call (.send message wakes))
        (mailbox.queue.tail ++ [message]) [.sent (.ok ())]
  | took
      (label : WakeLabel Message) (message : Message) (rest : List Message)
      (event : MailboxEvent Message) :
      mailbox.findsFull label = false →
      mailbox.queue = message :: rest →
      event.received? = some message →
      QueueEffect mailbox label rest [event]
  | missed :
      mailbox.queue = [] →
      QueueEffect mailbox (.call .tryReceive) [] [.triedReceive none]

section Steps

variable {mailbox after : Mailbox Message} {message : Message} {wakes : Nat}
  {label : WakeLabel Message} {events : List (MailboxEvent Message)}

theorem queue_of_notifyOne
    (notifies : mailbox.notifyOne wakes = some after) :
    after.queue = mailbox.queue ∧ after.config = mailbox.config := by
  simp only [notifyOne] at notifies
  split at notifies
  · obtain rfl := Option.some.inj notifies
    exact ⟨rfl, rfl⟩
  · simp only [Option.ite_none_right_eq_some, Option.some.injEq] at notifies
    obtain ⟨-, rfl⟩ := notifies
    exact ⟨rfl, rfl⟩

theorem queue_of_push
    (pushes : mailbox.push message wakes = some (after, events)) :
    after.queue = mailbox.queue ++ [message] ∧
      after.config = mailbox.config ∧ events = [.sent (.ok ())] := by
  simp only [push, Option.map_eq_some_iff, Prod.mk.injEq] at pushes
  obtain ⟨_, notifies, rfl, rfl⟩ := pushes
  obtain ⟨queue, config⟩ := queue_of_notifyOne notifies
  exact ⟨queue, config, rfl⟩

/-- The loop of `send` waits, or pushes below the capacity. -/
theorem queue_of_waitForSpace
    (sent : mailbox.waitForSpace message wakes = some (after, events)) :
    after.config = mailbox.config ∧
      (after.queue = mailbox.queue ∧ events = [] ∨
        mailbox.queue.length < mailbox.config.capacity ∧
          after.queue = mailbox.queue ++ [message] ∧
          events = [.sent (.ok ())]) := by
  unfold waitForSpace at sent
  split at sent
  · obtain ⟨rfl, rfl⟩ := Prod.mk.inj (Option.some.inj sent)
    exact ⟨rfl, .inl ⟨rfl, rfl⟩⟩
  · rename_i space
    obtain ⟨queue, config, shown⟩ := queue_of_push sent
    exact ⟨config, .inr ⟨Nat.lt_of_not_le space, queue, shown⟩⟩

/-- `receive` takes the front message, or waits. -/
theorem queue_of_receive
    (received : mailbox.receive = (after, events)) :
    after.config = mailbox.config ∧
      (after.queue = mailbox.queue ∧ events = [] ∨
        ∃ message rest,
          mailbox.queue = message :: rest ∧ after.queue = rest ∧
            events = [.received message]) := by
  unfold receive at received
  split at received
  · rename_i message rest queue
    obtain ⟨rfl, rfl⟩ := Prod.mk.inj received
    exact ⟨rfl, .inr ⟨message, rest, queue, rfl, rfl⟩⟩
  · obtain ⟨rfl, rfl⟩ := Prod.mk.inj received
    exact ⟨rfl, .inl ⟨rfl, rfl⟩⟩

/-- Everything a step can do to the queue; the configuration stays. -/
theorem queueEffect_of_step
    (step :
      (wakingMachine Message).step? mailbox label = some (after, events)) :
    after.config = mailbox.config ∧
      QueueEffect mailbox label after.queue events := by
  cases label with
  | wakesUp index =>
      simp only [wakingMachine] at step
      split at step
      · cases step
      · obtain ⟨rfl, rfl⟩ := Prod.mk.inj (Option.some.inj step)
        exact ⟨rfl, .waits _ rfl⟩
  | call label =>
      cases label with
      | send message wakes =>
          have sent : mailbox.send message wakes = some (after, events) := step
          unfold send at sent
          split at sent
          · rename_i full
            split at sent
            · rename_i rejects
              obtain ⟨rfl, rfl⟩ := Prod.mk.inj (Option.some.inj sent)
              exact ⟨rfl, .refused message wakes rejects⟩
            · rename_i blocks
              have notDropped :
                  mailbox.findsFull (.call (.send message wakes)) = false := by
                simp [findsFull, blocks]
              obtain ⟨config, ⟨queue, rfl⟩ | ⟨space, -, -⟩⟩ :=
                queue_of_waitForSpace sent
              · rw [queue]
                exact ⟨config, .waits _ notDropped⟩
              · omega
            · rename_i drops
              obtain ⟨queue, config, rfl⟩ := queue_of_push sent
              rw [queue]
              exact ⟨config, .evicted message wakes drops full⟩
          · rename_i space
            obtain ⟨queue, config, rfl⟩ := queue_of_push sent
            rw [queue]
            exact ⟨config, .pushed _ message rfl
              (by simp [findsFull, space]) (Nat.lt_of_not_le space)⟩
      | receive =>
          obtain ⟨config, ⟨queue, rfl⟩ | ⟨message, rest, queue, left, rfl⟩⟩ :=
            queue_of_receive (Option.some.inj step)
          · rw [queue]
            exact ⟨config, .waits _ rfl⟩
          · rw [left]
            exact ⟨config, .took _ message rest _ rfl queue rfl⟩
      | tryReceive =>
          obtain ⟨rfl, rfl⟩ := Prod.mk.inj (Option.some.inj step)
          refine ⟨rfl, ?_⟩
          cases queue : mailbox.queue with
          | nil => exact .missed queue
          | cons message rest =>
              exact .took _ message rest _ rfl queue rfl
      | resume index wakes =>
          have resumed : mailbox.resume index wakes = some (after, events) :=
            step
          unfold resume at resumed
          split at resumed
          · cases resumed
          · rename_i message found
            obtain ⟨config, ⟨queue, rfl⟩ | ⟨space, queue, rfl⟩⟩ :=
              queue_of_waitForSpace resumed
            · rw [queue]
              exact ⟨config, .waits _ rfl⟩
            · rw [queue]
              exact ⟨config, .pushed _ message (by simp [sending?, found]) rfl
                space⟩
          · obtain
                ⟨config, ⟨queue, rfl⟩ | ⟨message, rest, queue, left, rfl⟩⟩ :=
              queue_of_receive (Option.some.inj resumed)
            · rw [queue]
              exact ⟨config, .waits _ rfl⟩
            · rw [left]
              exact ⟨config, .took _ message rest _ rfl queue rfl⟩

end Steps

/-- The configuration is that of the clone. -/
theorem run_config
    {config : MailboxConfig}
    {log : List (MailboxEvent Message)}
    {mailbox : Mailbox Message}
    (run :
      Machine.Run (wakingMachine Message) (new Message config) log mailbox) :
    mailbox.config = config :=
  run.invariant (·.config = config)
    (fun same step => (queueEffect_of_step step).1.trans same) rfl

/-! ## The history law -/

/-- What a step is for the queue. -/
def queueEvents
    (step : Mailbox Message × WakeLabel Message) :
    List (Fifo.Event Message) :=
  ((departuresIn step).map Departure.message).map .left ++
    (sentIn step).map .entered

theorem enteredItems_queueEvents
    (step : Mailbox Message × WakeLabel Message) :
    Fifo.enteredItems (queueEvents step) = sentIn step := by
  rw [queueEvents, Fifo.enteredItems_append, Fifo.enteredItems_map_left,
    Fifo.enteredItems_map_entered, List.nil_append]

theorem leftItems_queueEvents
    (step : Mailbox Message × WakeLabel Message) :
    Fifo.leftItems (queueEvents step) =
      (departuresIn step).map Departure.message := by
  rw [queueEvents, Fifo.leftItems_append, Fifo.leftItems_map_left,
    Fifo.leftItems_map_entered, List.append_nil]

/-- A step of the mailbox is a run of the queue. -/
theorem step_queue
    {mailbox after : Mailbox Message}
    {label : WakeLabel Message}
    {events : List (MailboxEvent Message)}
    (step :
      (wakingMachine Message).step? mailbox label = some (after, events)) :
    Machine.Run (Fifo.machine Message) { items := mailbox.queue }
      (queueEvents (mailbox, label)) { items := after.queue } := by
  have shown := Machine.shown_of_step step
  obtain ⟨-, effect⟩ := queueEffect_of_step step
  simp only [queueEvents, departuresIn, sentIn, shown]
  generalize after.queue = rest at effect ⊢
  cases effect with
  | waits _ notFull =>
      simpa [notFull] using Machine.Run.nil
  | refused message wakes rejects =>
      simpa [findsFull, rejects] using Machine.Run.nil
  | pushed _ message sends notFull space =>
      simpa [notFull, sends] using Fifo.run_put mailbox.queue message
  | evicted message wakes drops full =>
      have found :
          mailbox.findsFull (.call (.send message wakes)) = true := by
        simp [findsFull, drops, full]
      cases queue : mailbox.queue with
      | nil =>
          simpa [found, queue, sending?] using Fifo.run_put [] message
      | cons oldest rest =>
          have evicts :=
            (Fifo.run_take oldest rest true).append (Fifo.run_put rest message)
          simpa [found, queue, sending?] using evicts
  | took _ message _ event notFull queue received =>
      have left := Fifo.run_take message rest true
      cases event with
      | received taken =>
          obtain rfl : taken = message := Option.some.inj received
          simpa [notFull, queue] using left
      | triedReceive answer =>
          obtain rfl : answer = some message := received
          simpa [notFull, queue] using left
      | sent result => cases received
  | missed empty =>
      simpa [findsFull, empty] using Machine.Run.nil

/-- A trace of the mailbox is a run of the queue. -/
theorem trace_queue
    {config : MailboxConfig}
    {steps : List (Mailbox Message × WakeLabel Message)}
    {log : List (MailboxEvent Message)}
    {mailbox : Mailbox Message}
    (trace :
      Machine.Trace (wakingMachine Message) (new Message config)
        steps log mailbox) :
    Machine.Run (Fifo.machine Message) { items := [] }
      (steps.flatMap queueEvents) { items := mailbox.queue } := by
  induction trace with
  | nil => exact .nil
  | snoc label earlier last inductionHypothesis =>
      rw [List.flatMap_append, List.flatMap_singleton]
      exact inductionHypothesis.append (step_queue last)

/-- What was sent is what left, followed by what is queued. -/
theorem trace_departures
    {config : MailboxConfig}
    {steps : List (Mailbox Message × WakeLabel Message)}
    {log : List (MailboxEvent Message)}
    {mailbox : Mailbox Message}
    (trace :
      Machine.Trace (wakingMachine Message) (new Message config)
        steps log mailbox) :
    (departures steps).map Departure.message ++ mailbox.queue =
      sentMessages steps := by
  have accounts := (Fifo.run_accounts (trace_queue trace)).1 rfl
  simp only [Fifo.enteredItems_flatMap, Fifo.leftItems_flatMap,
    enteredItems_queueEvents, leftItems_queueEvents, List.nil_append]
    at accounts
  rw [departures, List.map_flatMap]
  exact accounts.symm

/-- What was received, of all that left. -/
theorem received_departures
    (steps : List (Mailbox Message × WakeLabel Message)) :
    (departures steps).filterMap Departure.received? =
      receivedMessages
        (steps.flatMap (wakingMachine Message).shown) := by
  rw [departures, receivedMessages, List.filterMap_flatMap,
    List.filterMap_flatMap]
  congr 1
  funext step
  rw [departuresIn, List.filterMap_append, Departure.received?_received]
  split <;> simp only [Departure.received?_evicted, receivedMessages,
    List.filterMap_nil, List.nil_append]

/-- Of all that left in a step, the oldest message was evicted if the step is a
`send` that found the queue full. -/
theorem evicted_departuresIn
    (step : Mailbox Message × WakeLabel Message) :
    (departuresIn step).filterMap Departure.evicted? =
      if step.1.findsFull step.2 then step.1.queue.head?.toList else [] := by
  rw [departuresIn, List.filterMap_append, Departure.evicted?_received,
    List.append_nil]
  split <;> simp only [Departure.evicted?_evicted, List.filterMap_nil]

/-- Every `send` that found the queue full evicted the oldest message. -/
theorem trace_evicted
    {config : MailboxConfig}
    {steps : List (Mailbox Message × WakeLabel Message)}
    {log : List (MailboxEvent Message)}
    {mailbox : Mailbox Message}
    (positive : 1 ≤ config.capacity)
    (trace :
      Machine.Trace (wakingMachine Message) (new Message config)
        steps log mailbox) :
    ((departures steps).filterMap Departure.evicted?).map some =
      oldestAtFullSends steps := by
  induction trace with
  | nil => rfl
  | @snoc steps log events middle final label earlier last
      inductionHypothesis =>
      have config := run_config earlier.run
      rw [departures, List.flatMap_append, List.flatMap_singleton,
        List.filterMap_append, List.map_append, evicted_departuresIn,
        oldestAtFullSends, List.filter_append, List.map_append]
      refine congrArg₂ _ inductionHypothesis ?_
      cases full : middle.findsFull label with
      | false => simp [full]
      | true =>
          cases queue : middle.queue with
          | nil =>
              cases label with
              | call label =>
                  cases label <;> simp [findsFull, queue, config] at full
                  omega
              | wakesUp index => cases full
          | cons oldest rest => simp [full, queue]

/-- Without `DropLowPriority` nothing is evicted. -/
theorem trace_unevicted
    {config : MailboxConfig}
    {steps : List (Mailbox Message × WakeLabel Message)}
    {log : List (MailboxEvent Message)}
    {mailbox : Mailbox Message}
    (keeps : config.backpressure ≠ .dropLowPriority)
    (trace :
      Machine.Trace (wakingMachine Message) (new Message config)
        steps log mailbox) :
    (departures steps).map Departure.message = receivedMessages log := by
  induction trace with
  | nil => rfl
  | @snoc steps log events middle final label earlier last
      inductionHypothesis =>
      have notFull : middle.findsFull label = false := by
        cases label with
        | call label =>
            cases label <;> simp [findsFull, run_config earlier.run, keeps]
        | wakesUp index => rfl
      rw [departures, List.flatMap_append, List.map_append,
        List.flatMap_singleton, receivedMessages_append]
      refine congrArg₂ _ inductionHypothesis ?_
      simp [departuresIn, notFull, Machine.shown_of_step last,
        Function.comp_def]

/-- A `send` that returns an error leaves the queue alone. -/
theorem queue_of_refused
    {mailbox after : Mailbox Message}
    {label : WakeLabel Message}
    {events : List (MailboxEvent Message)}
    {error : RuntimeError}
    (step :
      (wakingMachine Message).step? mailbox label = some (after, events))
    (refused : .sent (.error error) ∈ events) :
    after.queue = mailbox.queue := by
  obtain ⟨-, effect⟩ := queueEffect_of_step step
  generalize after.queue = queue at effect
  cases effect with
  | refused message wakes rejects => rfl
  | took _ message rest event notFull queue received =>
      obtain rfl := List.mem_singleton.mp refused
      cases received
  | _ => simp at refused

/--
Over every trace, under `Reject` and `Block`, what was received and what is
queued is what was sent, and a refused `send` changes nothing; under
`DropLowPriority` so it is with the messages that left, each received or
evicted, and one was evicted for each `send` that found the queue full: the
oldest at that moment.
-/
theorem history_law
    {config : MailboxConfig}
    {steps : List (Mailbox Message × WakeLabel Message)}
    {log : List (MailboxEvent Message)}
    {mailbox : Mailbox Message}
    (positive : 1 ≤ config.capacity)
    (trace :
      Machine.Trace (wakingMachine Message) (new Message config)
        steps log mailbox) :
    (config.backpressure ≠ .dropLowPriority →
        receivedMessages log ++ mailbox.queue = sentMessages steps) ∧
      (∀ {label after events error},
        (wakingMachine Message).step? mailbox label = some (after, events) →
        .sent (.error error) ∈ events →
        after.queue = mailbox.queue) ∧
      (config.backpressure = .dropLowPriority →
        (departures steps).map Departure.message ++ mailbox.queue =
            sentMessages steps ∧
          (departures steps).filterMap Departure.received? =
            receivedMessages log ∧
          ((departures steps).filterMap Departure.evicted?).map some =
            oldestAtFullSends steps) := by
  refine ⟨fun keeps => ?_, queue_of_refused, fun _ => ⟨?_, ?_, ?_⟩⟩
  · rw [← trace_unevicted keeps trace]
    exact trace_departures trace
  · exact trace_departures trace
  · rw [received_departures, ← trace.log_eq]
  · exact trace_evicted positive trace

/-- Capacity one, policy `DropLowPriority`. -/
def oneLatest : MailboxConfig where
  capacity := 1
  backpressure := .dropLowPriority

/-- Two sends, of which the second evicts the first, and two receives. -/
def sendsAndReceives : List (WakeLabel Nat) :=
  [.call (.send 1 0), .call (.send 2 0), .call .receive, .call .tryReceive]

theorem history_law_oneLatest :
    ∃ mailbox log,
      (wakingMachine Nat).run? (new Nat oneLatest) sendsAndReceives =
          some (mailbox, log) ∧
        log =
          [.sent (.ok ()), .sent (.ok ()), .received 2, .triedReceive none] ∧
        sentMessages
            ((wakingMachine Nat).taken (new Nat oneLatest) sendsAndReceives) =
          [1, 2] ∧
        ((departures ((wakingMachine Nat).taken (new Nat oneLatest)
              sendsAndReceives)).filterMap Departure.evicted?).map some =
          [some 1] := by
  obtain ⟨mailbox, log, executed, shown⟩ :
      ∃ mailbox log,
        (wakingMachine Nat).run? (new Nat oneLatest) sendsAndReceives =
            some (mailbox, log) ∧
          log =
            [.sent (.ok ()), .sent (.ok ()), .received 2,
              .triedReceive none] :=
    ⟨_, _, rfl, rfl⟩
  refine ⟨mailbox, log, executed, shown, by decide, ?_⟩
  rw [((history_law (by decide) (Machine.run?_taken _ executed)).2.2
    rfl).2.2]
  decide

/-! ## The capacity bound -/

/-- Only a `send` under `DropLowPriority` at capacity zero breaks the bound. -/
theorem bounded_step
    {mailbox after : Mailbox Message}
    {label : WakeLabel Message}
    {events : List (MailboxEvent Message)}
    (admits :
      ¬ (mailbox.config.capacity = 0 ∧
        mailbox.config.backpressure = .dropLowPriority))
    (bounded : mailbox.queue.length ≤ mailbox.config.capacity)
    (step :
      (wakingMachine Message).step? mailbox label = some (after, events)) :
    after.queue.length ≤ mailbox.config.capacity := by
  obtain ⟨-, effect⟩ := queueEffect_of_step step
  generalize after.queue = queue at effect ⊢
  cases effect with
  | waits _ notFull => exact bounded
  | refused message wakes rejects => exact bounded
  | pushed _ message sends notFull space =>
      rw [List.length_append, List.length_singleton]
      exact space
  | evicted message wakes drops full =>
      -- one leaves and one enters, for there is one to leave
      rw [List.length_append, List.length_singleton, List.length_tail]
      have nonzero : mailbox.config.capacity ≠ 0 := fun zero =>
        admits ⟨zero, drops⟩
      omega
  | took _ message rest event notFull shape received =>
      rw [shape, List.length_cons] at bounded
      omega
  | missed empty => exact Nat.zero_le _

theorem run_bounded
    {config : MailboxConfig}
    {log : List (MailboxEvent Message)}
    {mailbox : Mailbox Message}
    (admits :
      ¬ (config.capacity = 0 ∧ config.backpressure = .dropLowPriority))
    (run :
      Machine.Run (wakingMachine Message) (new Message config) log mailbox) :
    mailbox.queue.length ≤ config.capacity := by
  induction run with
  | nil => exact Nat.zero_le _
  | snoc label earlier last inductionHypothesis =>
      have same := run_config earlier
      rw [← same] at admits inductionHypothesis ⊢
      exact bounded_step admits inductionHypothesis last

/-- Capacity zero, policy `DropLowPriority`. -/
def noSlot : MailboxConfig where
  capacity := 0
  backpressure := .dropLowPriority

/-- At capacity zero there is nothing to evict, and the message is queued. -/
theorem send_noSlot (message : Message) :
    (wakingMachine Message).run? (new Message noSlot)
        [.call (.send message 0)] =
      some ({ new Message noSlot with queue := [message] },
        [.sent (.ok ())]) :=
  rfl

/--
For every capacity and policy, the queue never exceeds the capacity, in any
state of any run, exactly when the capacity is not zero or the policy is not
`DropLowPriority`.
-/
theorem capacity_kept_iff
    (config : MailboxConfig)
    (message : Message) :
    (∀ {log mailbox},
        Machine.Run (wakingMachine Message) (new Message config) log mailbox →
        mailbox.queue.length ≤ config.capacity) ↔
      ¬ (config.capacity = 0 ∧ config.backpressure = .dropLowPriority) := by
  constructor
  · rintro bounded ⟨zero, drops⟩
    obtain rfl : config = noSlot := by
      cases config
      simp_all [noSlot]
    have exceeded := bounded (Machine.run?_sound _ (send_noSlot message))
    exact absurd exceeded (by simp [noSlot])
  · exact fun admits _ _ run => run_bounded admits run

/-- One message is sent into a mailbox of capacity zero. -/
theorem capacity_exceeded :
    ∃ mailbox log,
      Machine.Run (wakingMachine Nat) (new Nat noSlot) log mailbox ∧
        log = [.sent (.ok ())] ∧
        noSlot.capacity = 0 ∧
        mailbox.queue = [7] :=
  ⟨_, _, Machine.run?_sound _ (send_noSlot 7), rfl, rfl, rfl⟩

end Mailbox

end Runact
