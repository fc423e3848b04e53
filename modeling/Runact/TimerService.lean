import Runact.Basic

namespace Runact

/-!
# The timer service

Timers live in one list behind a mutex.  Any thread may schedule and cancel;
the service thread repeatedly takes the due entries out of the list, fires them
one after the other, and puts periodic entries back.  A step of the machine is
one lock section, one atomic access, one call of a message factory, or the
return of one `sender.send`.

Time is counted in nanoseconds.  `Instant + Duration` panics beyond the largest
representable instant, and a panic while the list is locked poisons its mutex,
so that every later `lock().unwrap()` panics too.
-/

universe u

/-- A message factory: the closure of a one-shot timer owns its message and
gives it away once; the closure of a periodic timer clones it. -/
inductive MessageFactory (Message : Type u) where
  | once (message : Option Message)
  | cloned (message : Message)
  deriving DecidableEq

namespace MessageFactory

variable {Message : Type u}

/-- Call the factory; `none` is the panic `timer fired twice`. -/
def call? :
    MessageFactory Message → Option (Message × MessageFactory Message)
  | .once none => none
  | .once (some message) => some (message, .once none)
  | .cloned message => some (message, .cloned message)

end MessageFactory

/-- `TimerEntry`. -/
structure TimerEntry (Message : Type u) where
  id : Nat
  actorId : ActorId
  scheduledAt : Nat
  factory : MessageFactory Message
  interval : Option Nat
  deriving DecidableEq

/-- What a scheduling call pushes once it holds the lock. -/
structure ScheduleRequest (Message : Type u) where
  actorId : ActorId
  delay : Nat
  factory : MessageFactory Message
  interval : Option Nat

/-- Where the service thread stands in `run`. -/
inductive ServicePosition (Message : Type u) where
  /-- Top of the loop: about to load the stop flag and to read the clock. -/
  | polling
  /-- About to lock the list and extract what is due at `now`. -/
  | scanning (now : Nat)
  /-- In the delivery loop of the pass made at `pass`. -/
  | delivering (pass : Nat) (due : List (TimerEntry Message))
  /-- The factory was called; its message is inside `sender.send`. -/
  | sending (pass : Nat) (entry : TimerEntry Message) (message : Message)
      (due : List (TimerEntry Message))
  /-- About to lock the list and put a periodic entry back. -/
  | rearming (pass : Nat) (entry : TimerEntry Message) (interval : Nat)
      (due : List (TimerEntry Message))
  | stopped
  | panicked

namespace ServicePosition

variable {Message : Type u}

/-- The extracted entries whose message is not delivered yet. -/
def undelivered : ServicePosition Message → List (TimerEntry Message)
  | .delivering _ due => due
  | .sending _ entry _ due => entry :: due
  | .rearming _ _ _ due => due
  | _ => []

/-- The extracted entries whose factory is not called yet. -/
def unfired : ServicePosition Message → List (TimerEntry Message)
  | .delivering _ due => due
  | .sending _ _ _ due => due
  | .rearming _ _ _ due => due
  | _ => []

/-- The extracted entries that still have to be fired or put back. -/
def held : ServicePosition Message → List (TimerEntry Message)
  | .delivering _ due => due
  | .sending _ entry _ due =>
      if entry.interval.isSome then entry :: due else due
  | .rearming _ entry _ due => entry :: due
  | _ => []

end ServicePosition

/-- The shared timer list, the service thread, and the clock. -/
structure TimerService (Message : Type u) where
  timers : List (TimerEntry Message)
  poisoned : Bool
  stop : Bool
  position : ServicePosition Message
  /-- `COUNTER` of `TimerId::new`. -/
  nextId : Nat
  /-- Scheduling calls between `TimerId::new` and their lock section. -/
  inFlight : List (Nat × ScheduleRequest Message)
  now : Nat

namespace TimerService

variable {Message : Type u}

/-- `TimerService::new`, at a given clock reading. -/
def new (Message : Type u) (now : Nat) : TimerService Message where
  timers := []
  poisoned := false
  stop := false
  position := .polling
  nextId := 0
  inFlight := []
  now := now

/-- The body of every scheduling call: who gets what, after which delay. -/
def request
    (delay : Nat)
    (actorId : ActorId)
    (factory : MessageFactory Message)
    (interval : Option Nat) : ScheduleRequest Message where
  actorId := actorId
  delay := delay
  factory := factory
  interval := interval

/-- `TimerService::schedule`. -/
def schedule
    (duration : Nat)
    (actorId : ActorId)
    (message : Message) : ScheduleRequest Message :=
  request duration actorId (.once (some message)) none

/-- `TimerService::schedule_interval`, with the factory its only caller
`Runtime::schedule_interval` passes. -/
def scheduleInterval
    (interval : Nat)
    (actorId : ActorId)
    (message : Message) : ScheduleRequest Message :=
  request interval actorId (.cloned message) (some interval)

end TimerService

namespace TimerHandle

variable {Message : Type u}

/-- `TimerHandle::schedule_timer`. -/
def scheduleTimer
    (duration : Nat)
    (actorId : ActorId)
    (message : Message) : ScheduleRequest Message :=
  TimerService.request duration actorId (.once (some message)) none

/-- `TimerHandle::schedule_interval`. -/
def scheduleInterval
    (interval : Nat)
    (actorId : ActorId)
    (message : Message) : ScheduleRequest Message :=
  TimerService.request interval actorId (.cloned message) (some interval)

end TimerHandle

namespace TimerService

variable {Message : Type u}

/-- The four scheduling entry points, as calls with their arguments. -/
inductive ScheduleCall (Message : Type u) where
  | handleTimer (duration : Nat) (actorId : ActorId) (message : Message)
  | handleInterval (interval : Nat) (actorId : ActorId) (message : Message)
  | serviceTimer (duration : Nat) (actorId : ActorId) (message : Message)
  | serviceInterval (interval : Nat) (actorId : ActorId) (message : Message)

/-- What each entry point pushes. -/
def ScheduleCall.request :
    ScheduleCall Message → ScheduleRequest Message
  | .handleTimer duration actorId message =>
      TimerHandle.scheduleTimer duration actorId message
  | .handleInterval interval actorId message =>
      TimerHandle.scheduleInterval interval actorId message
  | .serviceTimer duration actorId message =>
      schedule duration actorId message
  | .serviceInterval interval actorId message =>
      scheduleInterval interval actorId message

/-- `Instant + Duration`; `none` is the panic beyond the last instant. -/
def addDuration (limit instant duration : Nat) : Option Nat :=
  if instant + duration ≤ limit then some (instant + duration) else none

/--
The extraction loop: `while i < timers.len()` either removes entry `i`, when it
is due, or goes on to the next one.  Every iteration removes or passes one
entry, so as many iterations as there are entries are enough.
-/
def scanLoop
    (now : Nat) :
    Nat →
      List (TimerEntry Message) → Nat → List (TimerEntry Message) →
      List (TimerEntry Message) × List (TimerEntry Message)
  | 0, timers, _, due => (timers, due)
  | iterations + 1, timers, i, due =>
      match timers[i]? with
      | none => (timers, due)
      | some timer =>
          if now ≥ timer.scheduledAt then
            scanLoop now iterations (timers.eraseIdx i) i (due ++ [timer])
          else
            scanLoop now iterations timers (i + 1) due

/-- One scan: the entries left in the list, and the due ones. -/
def scan
    (now : Nat)
    (timers : List (TimerEntry Message)) :
    List (TimerEntry Message) × List (TimerEntry Message) :=
  scanLoop now timers.length timers 0 []

/-- `TimerService::cancel` and `TimerHandle::cancel_timer`, under the lock. -/
def retain
    (timerId : Nat)
    (timers : List (TimerEntry Message)) : List (TimerEntry Message) :=
  timers.filter (·.id ≠ timerId)

/-- Scheduling choices. -/
inductive Label (Message : Type u) where
  /-- The clock moves forward. -/
  | clock (later : Nat)
  /-- The `TimerId::new` of a scheduling call. -/
  | newId (call : ScheduleCall Message)
  /-- The lock section of one of the scheduling calls in flight. -/
  | insert (index : Nat)
  /-- A whole `cancel` or `cancel_timer` call. -/
  | cancel (timerId : Nat)
  /-- The next step of the service thread. -/
  | service
  /-- `sender.send` returns, or there was no sender to call. -/
  | sendReturns
  /-- `shutdown` stores `true` into the stop flag. -/
  | setStop

/-- What a step makes visible. -/
inductive Event where
  /-- A scheduling call returned the identifier of a new entry. -/
  | scheduled (id deadline : Nat) (interval : Option Nat)
  /-- `cancel` returned. -/
  | cancelled (id : Nat)
  | extracted (ids : List Nat)
  /-- A factory was called, in the pass made at `pass`. -/
  | fired (id deadline : Nat) (interval : Option Nat) (pass clock : Nat)
  /-- The send of a fired timer returned. -/
  | delivered (id : Nat)
  | rearmed (id deadline : Nat)
  /-- A time addition overflowed while the list was locked. -/
  | overflowed (id : Nat)
  /-- A factory panicked with `timer fired twice`. -/
  | firedTwice (id : Nat)
  /-- A call or the service thread panicked on the poisoned mutex. -/
  | foundPoisoned
  deriving DecidableEq

/-- One step of the service thread. -/
def serviceStep?
    (limit : Nat)
    (service : TimerService Message) :
    Option (TimerService Message × List Event) :=
  match service.position with
  | .polling =>
      if service.stop then
        some ({ service with position := .stopped }, [])
      else
        some ({ service with position := .scanning service.now }, [])
  | .scanning now =>
      if service.poisoned then
        some ({ service with position := .panicked }, [.foundPoisoned])
      else
        let scanned := scan now service.timers
        some ({ service with
            timers := scanned.1
            position := .delivering now scanned.2 },
          [.extracted (scanned.2.map TimerEntry.id)])
  | .delivering _ [] =>
      -- the pass is over: sleep one millisecond, then poll again
      some ({ service with position := .polling }, [])
  | .delivering pass (entry :: due) =>
      match entry.factory.call? with
      | none =>
          some ({ service with position := .panicked },
            [.firedTwice entry.id])
      | some (message, factory) =>
          some ({ service with
              position :=
                .sending pass { entry with factory := factory } message due },
            [.fired entry.id entry.scheduledAt entry.interval pass
              service.now])
  | .sending .. => none
  | .rearming pass entry interval due =>
      if service.poisoned then
        some ({ service with position := .panicked }, [.foundPoisoned])
      else
        match addDuration limit entry.scheduledAt interval with
        | none =>
            some ({ service with poisoned := true, position := .panicked },
              [.overflowed entry.id])
        | some deadline =>
            some ({ service with
                timers := service.timers ++
                  [{ entry with
                    scheduledAt := deadline
                    interval := some interval }]
                position := .delivering pass due },
              [.rearmed entry.id deadline])
  | .stopped => none
  | .panicked => none

/-- The lock section of a scheduling call. -/
def insertStep
    (limit : Nat)
    (service : TimerService Message)
    (id : Nat)
    (pushed : ScheduleRequest Message) :
    TimerService Message × List Event :=
  if service.poisoned then
    (service, [.foundPoisoned])
  else
    match addDuration limit service.now pushed.delay with
    | none => ({ service with poisoned := true }, [.overflowed id])
    | some deadline =>
        ({ service with
            timers := service.timers ++
              [{ id := id
                 actorId := pushed.actorId
                 scheduledAt := deadline
                 factory := pushed.factory
                 interval := pushed.interval }] },
          [.scheduled id deadline pushed.interval])

/-- The timer machine; `limit` is the largest representable instant. -/
def machine (limit : Nat) (Message : Type u) :
    Machine (TimerService Message) (Label Message) Event where
  step?
    | service, .clock later =>
        if service.now ≤ later then
          some ({ service with now := later }, [])
        else
          none
    | service, .newId call =>
        some ({ service with
            nextId := service.nextId + 1
            inFlight :=
              service.inFlight ++ [(service.nextId, call.request)] }, [])
    | service, .insert index =>
        match service.inFlight[index]? with
        | none => none
        | some (id, pushed) =>
            some (insertStep limit
              { service with inFlight := service.inFlight.eraseIdx index }
              id pushed)
    | service, .cancel timerId =>
        if service.poisoned then
          some (service, [.foundPoisoned])
        else
          some ({ service with timers := retain timerId service.timers },
            [.cancelled timerId])
    | service, .service => serviceStep? limit service
    | service, .sendReturns =>
        match service.position with
        | .sending pass entry _ due =>
            some ({ service with
                position :=
                  match entry.interval with
                  | none => .delivering pass due
                  | some interval => .rearming pass entry interval due },
              [.delivered entry.id])
        | _ => none
    | service, .setStop => some ({ service with stop := true }, [])

end TimerService

end Runact
