import Runact.TimerCancellation
import Runact.RuntimeFrame

namespace Runact

/-!
# The timer service at work on the mailboxes

The thread of the timer service sends what it fires into the mailboxes of the
runtime.  A fired message is looked up and sent while the senders are
read-locked, and a full mailbox keeps the thread waiting inside `sender.send`.
A factory touches nothing that is shared, so its call and the lookup are one
step, taken once the thread is let into the senders.
-/

universe u

/-- The runtime together with its timer service. -/
structure TimedRuntime (Value State Frame : Type u) where
  service : TimerService (AnyBox Value)
  runtime : Runtime Value State Frame

/-- What a step makes visible, of the timers and of the mailboxes. -/
inductive TimedEvent (Value : Type u) where
  | service (event : TimerService.Event)
  | runtime (event : RuntimeEvent Value)

/-- Scheduling choices. -/
inductive TimedLabel (Value State Frame : Type u) where
  /-- The next step of the thread of the timer service. -/
  | own
  /-- A step of somebody who calls the timer service, or of the clock. -/
  | service (label : TimerService.Label (AnyBox Value))
  /-- A step of the runtime that is none of the timer service. -/
  | runtime (label : Runtime.Label Value State Frame)

namespace TimedRuntime

variable {Value State Frame : Type u}

/-- A runtime that was just built, at a clock reading. -/
def new
    (Value State Frame : Type u)
    (mailboxCapacity now : Nat) : TimedRuntime Value State Frame where
  service := TimerService.new (AnyBox Value) now
  runtime := Runtime.withConfig Value State Frame mailboxCapacity

/-- `sender.send` of the timer service returns, if it can, or there was no
sender to call. -/
def returnSend?
    (runtime : Runtime Value State Frame) :
    Option (Runtime Value State Frame × List (RuntimeEvent Value)) :=
  match runtime.blocked.findIdx? (·.fromTimer) with
  | none => some (runtime, [])
  | some index => runtime.unblock? index

/-- The thread has come to `senders.read()` for the next entry of its batch,
while a writer waits for the lock. -/
def keptOut (timed : TimedRuntime Value State Frame) : Bool :=
  match timed.service.position with
  | .delivering _ (_ :: _) => timed.runtime.writerWaits
  | _ => false

/-- The next step of the thread of the timer service; `none` where it waits for
room or for a writer of the senders, or has ended. -/
def ownStep?
    (limit : Nat)
    (timed : TimedRuntime Value State Frame) :
    Option (TimedRuntime Value State Frame × List (TimedEvent Value)) :=
  match timed.service.position with
  | .sending _ _ _ _ =>
      match returnSend? timed.runtime with
      | none => none
      | some (runtime, shown) =>
          ((TimerService.machine limit _).step? timed.service .sendReturns).map
            fun outcome =>
              ({ service := outcome.1, runtime := runtime },
                outcome.2.map .service ++ shown.map .runtime)
  | _ =>
      if timed.keptOut then
        none
      else
        ((TimerService.machine limit _).step? timed.service .service).map
          fun outcome =>
            ({ service := outcome.1
               runtime :=
                match outcome.1.position with
                | .sending _ entry message _ =>
                    timed.runtime.deliverTimer entry.actorId message
                | _ => timed.runtime },
              outcome.2.map .service)

/-- The steps of others on the timer service. -/
def isCall {Message : Type u} : TimerService.Label Message → Bool
  | .service => false
  | .sendReturns => false
  | _ => true

/-- The steps of the runtime that the timer service has no part in; `shutdown`
joins its thread. -/
def isOther
    (timed : TimedRuntime Value State Frame) :
    Runtime.Label Value State Frame → Bool
  | .deliverTimer _ _ => false
  | .unblock index =>
      match timed.runtime.blocked[index]? with
      | some waiting => !waiting.fromTimer
      | none => false
  | .shutdown =>
      match timed.runtime.shutdownPhase, timed.service.position with
      | .actorsCleared, .stopped => true
      | .actorsCleared, .panicked => true
      | .actorsCleared, _ => false
      | _, _ => true
  | _ => true

/-- The machine of the runtime and its timer service. -/
def machine (limit : Nat) (Value State Frame : Type u) :
    Machine (TimedRuntime Value State Frame) (TimedLabel Value State Frame)
      (TimedEvent Value) where
  step?
    | timed, .own => timed.ownStep? limit
    | timed, .service label =>
        if isCall label then
          ((TimerService.machine limit _).step? timed.service label).map
            fun outcome =>
              ({ timed with service := outcome.1 }, outcome.2.map .service)
        else
          none
    | timed, .runtime label =>
        if timed.isOther label then
          ((Runtime.machine Value State Frame).step? timed.runtime label).map
            fun outcome =>
              ({ timed with runtime := outcome.1 }, outcome.2.map .runtime)
        else
          none

/-! ## The timer service alone -/

/-- What the timer service shows of an event. -/
def serviceEvent : TimedEvent Value → List TimerService.Event
  | .service event => [event]
  | .runtime _ => []

theorem flatMap_service (events : List TimerService.Event) :
    (events.map (TimedEvent.service : _ → TimedEvent Value)).flatMap
        serviceEvent = events := by
  simp [List.flatMap_map, serviceEvent]

theorem flatMap_runtime (shown : List (RuntimeEvent Value)) :
    (shown.map TimedEvent.runtime).flatMap serviceEvent = [] := by
  simp [List.flatMap_map, serviceEvent]

/-- What a step of its thread does to the timer service. -/
theorem service_of_ownStep
    {limit : Nat}
    {timed after : TimedRuntime Value State Frame}
    {events : List (TimedEvent Value)}
    (step : timed.ownStep? limit = some (after, events)) :
    ∃ label,
      isCall label = false ∧
        (TimerService.machine limit _).step? timed.service label =
          some (after.service, events.flatMap serviceEvent) := by
  unfold ownStep? at step
  split at step
  · split at step
    · cases step
    · rename_i runtime shown returned
      obtain ⟨⟨service, own⟩, taken, shape⟩ := Option.map_eq_some_iff.mp step
      obtain ⟨rfl, rfl⟩ := Prod.mk.inj shape
      refine ⟨.sendReturns, rfl, ?_⟩
      rw [List.flatMap_append, flatMap_service, flatMap_runtime,
        List.append_nil]
      exact taken
  · rw [Option.ite_none_left_eq_some] at step
    obtain ⟨⟨service, own⟩, taken, shape⟩ :=
      Option.map_eq_some_iff.mp step.2
    obtain ⟨rfl, rfl⟩ := Prod.mk.inj shape
    refine ⟨.service, rfl, ?_⟩
    rw [flatMap_service]
    exact taken

/-- A step is one of the timer service, or leaves the timer service alone. -/
theorem service_of_step
    {limit : Nat}
    {before after : TimedRuntime Value State Frame}
    {label : TimedLabel Value State Frame}
    {events : List (TimedEvent Value)}
    (step :
      (machine limit Value State Frame).step? before label =
        some (after, events)) :
    (after.service = before.service ∧ events.flatMap serviceEvent = []) ∨
      ∃ label,
        (TimerService.machine limit _).step? before.service label =
          some (after.service, events.flatMap serviceEvent) := by
  cases label with
  | own =>
      obtain ⟨label, -, taken⟩ := service_of_ownStep step
      exact .inr ⟨label, taken⟩
  | service label =>
      simp only [machine] at step
      split at step
      · obtain ⟨⟨service, own⟩, taken, shape⟩ := Option.map_eq_some_iff.mp step
        obtain ⟨rfl, rfl⟩ := Prod.mk.inj shape
        rw [flatMap_service]
        exact .inr ⟨label, taken⟩
      · cases step
  | runtime label =>
      simp only [machine] at step
      split at step
      · obtain ⟨⟨runtime, own⟩, taken, shape⟩ := Option.map_eq_some_iff.mp step
        obtain ⟨rfl, rfl⟩ := Prod.mk.inj shape
        exact .inl ⟨rfl, flatMap_runtime own⟩
      · cases step

/-- The timer service, seen for itself, runs as it does alone. -/
theorem run_service
    {limit : Nat}
    {log : List (TimedEvent Value)}
    {start timed : TimedRuntime Value State Frame}
    (run : Machine.Run (machine limit Value State Frame) start log timed) :
    Machine.Run (TimerService.machine limit (AnyBox Value)) start.service
      (log.flatMap serviceEvent) timed.service := by
  induction run with
  | nil => exact .nil
  | snoc label earlier last inductionHypothesis =>
      rw [List.flatMap_append]
      obtain ⟨same, silent⟩ | ⟨label, taken⟩ := service_of_step last
      · rw [same, silent, List.append_nil]
        exact inductionHypothesis
      · exact .snoc label inductionHypothesis taken

/-! ## The message in flight -/

/-- The blocking sends of the timer service that are waiting. -/
def inFlight
    (runtime : Runtime Value State Frame) : List (BlockedSend Value) :=
  runtime.blocked.filter (·.fromTimer)

/-- The timer service is inside of at most one send, of the message it fired
last, and of none outside of its delivery loop. -/
def SendsFired (timed : TimedRuntime Value State Frame) : Prop :=
  inFlight timed.runtime = [] ∨
    ∃ pass entry message due channel,
      timed.service.position = .sending pass entry message due ∧
        inFlight timed.runtime =
          [{ channel := channel
             envelope := .message message
             fromTimer := true }]

/-- The only element that passes a test is the first one that does. -/
theorem filter_eraseIdx_findIdx
    {Item : Type u}
    {test : Item → Bool}
    {items : List Item}
    {index : Nat}
    {only : Item}
    (one : items.filter test = [only])
    (found : items.findIdx? test = some index) :
    items[index]? = some only ∧ (items.eraseIdx index).filter test = [] := by
  induction items generalizing index with
  | nil => cases one
  | cons item rest inductionHypothesis =>
      rw [List.findIdx?_cons] at found
      cases passes : test item with
      | true =>
          simp only [passes, ↓reduceIte, Option.some.injEq] at found
          simp only [List.filter_cons, passes, ↓reduceIte, List.cons.injEq]
            at one
          obtain ⟨rfl, none⟩ := one
          subst found
          exact ⟨rfl, none⟩
      | false =>
          simp only [passes, Bool.false_eq_true, ↓reduceIte,
            Option.map_eq_some_iff] at found
          obtain ⟨later, found, rfl⟩ := found
          simp only [List.filter_cons, passes, Bool.false_eq_true, ↓reduceIte]
            at one
          obtain ⟨there, none⟩ := inductionHypothesis one found
          exact ⟨there, by simpa [passes] using none⟩

theorem filter_eraseIdx_of_not
    {Item : Type u}
    {test : Item → Bool}
    {items : List Item}
    {index : Nat}
    {item : Item}
    (found : items[index]? = some item)
    (fails : test item = false) :
    (items.eraseIdx index).filter test = items.filter test := by
  induction items generalizing index with
  | nil => rfl
  | cons first rest inductionHypothesis =>
      cases index with
      | zero =>
          obtain rfl : first = item := by simpa using found
          simp [fails]
      | succ index =>
          have same :
              (rest.eraseIdx index).filter test = rest.filter test :=
            inductionHypothesis (by simpa using found)
          simp [List.filter_cons, same]

/-- A return leaves the others waiting. -/
theorem blocked_of_unblock
    {runtime after : Runtime Value State Frame}
    {index : Nat}
    {events : List (RuntimeEvent Value)}
    (step : runtime.unblock? index = some (after, events)) :
    after.blocked = runtime.blocked.eraseIdx index := by
  unfold Runtime.unblock? at step
  split at step
  · cases step
  · split at step
    · rename_i accepted
      cases step
      rw [(Runtime.onlyLoops_of_offer accepted).same]
    · cases step
    · cases step
      rfl

/-- Nobody but the timer service sends, or returns, for the timer service. -/
theorem inFlight_of_other
    {timed : TimedRuntime Value State Frame}
    {after : Runtime Value State Frame}
    {label : Runtime.Label Value State Frame}
    {events : List (RuntimeEvent Value)}
    (other : timed.isOther label = true)
    (step :
      (Runtime.machine Value State Frame).step? timed.runtime label =
        some (after, events)) :
    inFlight after = inFlight timed.runtime := by
  cases label with
  | deliverTimer target message => cases other
  | unblock index =>
      have blocked : after.blocked = timed.runtime.blocked.eraseIdx index :=
        blocked_of_unblock step
      cases found : timed.runtime.blocked[index]? with
      | none =>
          simp [isOther, found] at other
      | some waiting =>
          have notTimer : waiting.fromTimer = false := by
            simpa [isOther, found] using other
          rw [inFlight, inFlight, blocked,
            filter_eraseIdx_of_not found notTimer]
  | loop index answer =>
      rw [inFlight, (Runtime.loopStep_onlyLoops step).same]
      rfl
  | send target message =>
      simp only [Runtime.machine, Runtime.send, Option.ite_none_left_eq_some,
        Option.some.injEq] at step
      replace step := step.2
      split at step
      · obtain ⟨rfl, rfl⟩ := Prod.mk.inj step
        rfl
      · split at step <;> obtain ⟨rfl, rfl⟩ := Prod.mk.inj step
        · rename_i accepted
          rw [inFlight, (Runtime.onlyLoops_of_offer accepted).same]
          rfl
        · rfl
        · rfl
  | request call target message =>
      simp only [Runtime.machine] at step
      split at step
      · cases step
      · simp only [Runtime.request, Option.ite_none_left_eq_some,
          Option.some.injEq] at step
        replace step := step.2
        split at step
        · obtain ⟨rfl, rfl⟩ := Prod.mk.inj step
          rfl
        · split at step <;> obtain ⟨rfl, rfl⟩ := Prod.mk.inj step
          · rename_i accepted
            have same := (Runtime.onlyLoops_of_offer accepted).same
            simp only [inFlight]
            rw [same]
          · rfl
          · rfl
  | sendBlocking target message =>
      simp only [Runtime.machine, Runtime.sendBlocking,
        Option.ite_none_left_eq_some, Option.some.injEq] at step
      replace step := step.2
      split at step <;> obtain ⟨rfl, rfl⟩ := Prod.mk.inj step
      · rfl
      · simp [inFlight, List.filter_append]
  | _ =>
      simp only [Runtime.machine, Runtime.spawn, Runtime.spawnSupervisor,
        Runtime.shutdownStep?] at step
      simp only [inFlight]
      grind [Runtime.setReply]

/-- Every step of its thread keeps the timer service inside of at most one
send. -/
theorem SendsFired.ownStep
    {limit : Nat}
    {timed after : TimedRuntime Value State Frame}
    {events : List (TimedEvent Value)}
    (sends : SendsFired timed)
    (step : timed.ownStep? limit = some (after, events)) :
    SendsFired after := by
  unfold ownStep? at step
  split at step
  · split at step
    · cases step
    · rename_i runtime shown returned
      obtain ⟨outcome, taken, shape⟩ := Option.map_eq_some_iff.mp step
      obtain ⟨rfl, rfl⟩ := Prod.mk.inj shape
      left
      unfold returnSend? at returned
      split at returned
      · rename_i nobody
        obtain ⟨rfl, -⟩ := Prod.mk.inj (Option.some.inj returned)
        rw [List.findIdx?_eq_none_iff] at nobody
        simpa [inFlight] using nobody
      · rename_i index found
        simp only [inFlight, blocked_of_unblock returned]
        obtain idle | ⟨pass, entry, message, due, channel, -, one⟩ := sends
        · have nobody :
              timed.runtime.blocked.findIdx? (·.fromTimer) = none := by
            rw [List.findIdx?_eq_none_iff]
            simpa [inFlight] using idle
          rw [nobody] at found
          cases found
        · exact (filter_eraseIdx_findIdx one found).2
  · rename_i notSending
    rw [Option.ite_none_left_eq_some] at step
    obtain ⟨⟨service, own⟩, taken, shape⟩ :=
      Option.map_eq_some_iff.mp step.2
    obtain ⟨rfl, rfl⟩ := Prod.mk.inj shape
    have idle : inFlight timed.runtime = [] := by
      obtain idle | ⟨pass, entry, message, due, channel, sending, -⟩ := sends
      · exact idle
      · exact (notSending pass entry message due sending).elim
    cases position : service.position with
    | sending pass entry message due =>
        simp only [Runtime.deliverTimer]
        cases found : timed.runtime.senders.lookup entry.actorId with
        | none => exact .inl idle
        | some channel =>
            refine .inr ⟨pass, entry, message, due, channel, position, ?_⟩
            simp only [inFlight] at idle ⊢
            simp [List.filter_append, idle]
    | _ => exact .inl idle

/-- Who calls the timer service does not move its thread. -/
theorem position_of_call
    {limit : Nat}
    {Message : Type u}
    {service after : TimerService Message}
    {label : TimerService.Label Message}
    {events : List TimerService.Event}
    (call : isCall label = true)
    (step :
      (TimerService.machine limit Message).step? service label =
        some (after, events)) :
    after.position = service.position := by
  cases label with
  | service => cases call
  | sendReturns => cases call
  | _ =>
      simp only [TimerService.machine, TimerService.insertStep] at step
      grind

/-- Over every run, the timer service is inside of at most one send. -/
theorem run_sendsFired
    {limit mailboxCapacity now : Nat}
    {log : List (TimedEvent Value)}
    {timed : TimedRuntime Value State Frame}
    (run :
      Machine.Run (machine limit Value State Frame)
        (new Value State Frame mailboxCapacity now) log timed) :
    SendsFired timed := by
  refine run.invariant SendsFired
    (fun {before label after events} sends step => ?_) (.inl rfl)
  cases label with
  | own => exact sends.ownStep step
  | service label =>
      simp only [machine] at step
      split at step
      · rename_i call
        obtain ⟨⟨service, own⟩, taken, shape⟩ := Option.map_eq_some_iff.mp step
        obtain ⟨rfl, rfl⟩ := Prod.mk.inj shape
        have samePosition : service.position = before.service.position :=
          position_of_call call taken
        refine sends.imp id ?_
        rintro ⟨pass, entry, message, due, channel, position, one⟩
        exact ⟨pass, entry, message, due, channel,
          samePosition.trans position, one⟩
      · cases step
  | runtime label =>
      simp only [machine] at step
      split at step
      · rename_i other
        obtain ⟨⟨runtime, own⟩, taken, shape⟩ := Option.map_eq_some_iff.mp step
        obtain ⟨rfl, rfl⟩ := Prod.mk.inj shape
        have same := inFlight_of_other other taken
        refine sends.imp (fun none => same.trans none) ?_
        rintro ⟨pass, entry, message, due, channel, position, one⟩
        exact ⟨pass, entry, message, due, channel, position, same.trans one⟩
      · cases step

end TimedRuntime

end Runact
