import Runact.TimerLifecycle

namespace Runact.TimerService

/-!
# Deadlines beyond the last instant

All scheduling calls add the duration to the clock reading after they have
locked the list.  When the sum is not representable the addition panics under
the lock, which poisons the mutex for every other caller and for the service
thread.
-/

universe u

variable {Message : Type u}

/-- The `Duration` an entry point is called with. -/
def ScheduleCall.duration : ScheduleCall Message → Nat
  | .handleTimer duration _ _ => duration
  | .handleInterval interval _ _ => interval
  | .serviceTimer duration _ _ => duration
  | .serviceInterval interval _ _ => interval

theorem ScheduleCall.request_delay
    (call : ScheduleCall Message) :
    call.request.delay = call.duration := by
  cases call <;> rfl

/-- The mutex can be locked as long as no other addition overflows. -/
def Usable
    (limit : Nat)
    (service : TimerService Message) : Prop :=
  ∀ later final,
    Machine.Run (machine limit Message) service later final →
    (∀ id, .overflowed id ∉ later) →
    .foundPoisoned ∉ later

/-- The entry a scheduling call asks for, at a clock reading. -/
def ScheduleCall.entry
    (call : ScheduleCall Message)
    (id now : Nat) : TimerEntry Message where
  id := id
  actorId := call.request.actorId
  scheduledAt := now + call.duration
  factory := call.request.factory
  interval := call.request.interval

/-- The call returns its identifier, with the deadline asked for. -/
def ScheduleCall.Succeeds
    (call : ScheduleCall Message)
    (id now : Nat)
    (events : List Event) : Prop :=
  events = [.scheduled id (now + call.duration) call.request.interval]

/-- The call returns no identifier. -/
def ScheduleFails (events : List Event) : Prop :=
  ∀ id deadline interval, .scheduled id deadline interval ∉ events

/-- A scheduling call adds exactly the entry it was asked for and says so, or
fails and adds nothing, and others can go on. -/
structure LeavesIntact
    (limit id : Nat)
    (call : ScheduleCall Message)
    (service after : TimerService Message)
    (events : List Event) : Prop where
  outcome : call.Succeeds id service.now events ∨ ScheduleFails events
  succeeds :
    call.Succeeds id service.now events ↔
      after.timers = service.timers ++ [call.entry id service.now]
  fails : ScheduleFails events ↔ after.timers = service.timers
  usable : Usable limit after

namespace Event

/-- A lock section of the list was completed. -/
def completesLock : Event → Bool
  | .scheduled _ _ _ => true
  | .cancelled _ => true
  | .extracted _ => true
  | .rearmed _ _ => true
  | _ => false

end Event

/-- On a poisoned mutex no lock section is completed. -/
theorem poisoned_stays
    {limit : Nat}
    {service after : TimerService Message}
    {label : Label Message}
    {events : List Event}
    (step :
      (machine limit Message).step? service label = some (after, events))
    (poisoned : service.poisoned = true) :
    after.poisoned = true ∧ after.timers = service.timers ∧
      ∀ event ∈ events, event.completesLock = false := by
  cases outcome_of_step step with
  | inserted _ _ _ _ usable | cancelled _ usable | scanned _ _ usable
  | rearmed _ _ _ _ _ usable =>
      rw [usable] at poisoned
      cases poisoned
  | insertOverflowed | rearmOverflowed =>
      exact ⟨rfl, rfl, by simp [Event.completesLock]⟩
  | _ => exact ⟨poisoned, rfl, by simp [Event.completesLock]⟩

/-- Once the mutex is poisoned, the list never changes again. -/
theorem run_poisoned
    {limit : Nat}
    {service final : TimerService Message}
    {later : List Event}
    (run : Machine.Run (machine limit Message) service later final)
    (poisoned : service.poisoned = true) :
    final.poisoned = true ∧ final.timers = service.timers ∧
      ∀ event ∈ later, event.completesLock = false := by
  induction run with
  | nil => exact ⟨poisoned, rfl, by simp⟩
  | snoc label earlier last inductionHypothesis =>
      obtain ⟨still, same, none⟩ := inductionHypothesis
      obtain ⟨after, unchanged, silent⟩ := poisoned_stays last still
      refine ⟨after, unchanged.trans same, fun event member => ?_⟩
      rcases List.mem_append.mp member with older | newest
      · exact none event older
      · exact silent event newest

/-- Nobody finds the mutex poisoned before it is. -/
theorem foundPoisoned_of_step
    {limit : Nat}
    {service after : TimerService Message}
    {label : Label Message}
    {events : List Event}
    (step :
      (machine limit Message).step? service label = some (after, events))
    (found : .foundPoisoned ∈ events) :
    service.poisoned = true := by
  cases outcome_of_step step with
  | insertPoisoned _ _ _ _ poisoned | cancelPoisoned poisoned
  | scanPoisoned _ _ poisoned | rearmPoisoned _ _ _ _ _ poisoned =>
      exact poisoned
  | _ => simp at found

/-- An overflow poisons the mutex. -/
theorem poisoned_of_overflowed
    {limit id : Nat}
    {service after : TimerService Message}
    {label : Label Message}
    {events : List Event}
    (step :
      (machine limit Message).step? service label = some (after, events))
    (overflowed : .overflowed id ∈ events) :
    after.poisoned = true := by
  cases outcome_of_step step with
  | insertOverflowed | rearmOverflowed => rfl
  | _ => simp at overflowed

/-- Without an overflow an unpoisoned mutex stays so, and nobody panics. -/
theorem run_unpoisoned
    {limit : Nat}
    {service final : TimerService Message}
    {later : List Event}
    (run : Machine.Run (machine limit Message) service later final)
    (usable : service.poisoned = false)
    (noOverflow : ∀ id, .overflowed id ∉ later) :
    final.poisoned = false ∧ .foundPoisoned ∉ later := by
  induction run with
  | nil => exact ⟨usable, by simp⟩
  | @snoc log events before after label earlier last inductionHypothesis =>
      obtain ⟨still, none⟩ := inductionHypothesis fun id member =>
        noOverflow id (List.mem_append_left events member)
      refine ⟨poisoned_step last (fun id member =>
        noOverflow id (List.mem_append_right log member)) still, ?_⟩
      intro member
      rcases List.mem_append.mp member with older | newest
      · exact none older
      · rw [foundPoisoned_of_step last newest] at still
        cases still

/-- The mutex is usable exactly when it is not poisoned. -/
theorem usable_iff
    {limit : Nat}
    {service : TimerService Message} :
    Usable limit service ↔ service.poisoned = false := by
  constructor
  · intro usable
    by_contra poisoned
    have broken : service.poisoned = true := by simpa using poisoned
    have cancel :
        (machine limit Message).step? service (.cancel 0) =
          some (service, [.foundPoisoned]) := by
      simp [machine, broken]
    exact usable [.foundPoisoned] service (.single _ cancel) (by simp)
      (by simp)
  · intro unpoisoned later final run noOverflow
    exact (run_unpoisoned run unpoisoned noOverflow).2

/-- The mutex is poisoned exactly when some addition has overflowed. -/
theorem run_poisoned_iff
    {limit start : Nat}
    {log : List Event}
    {service : TimerService Message}
    (run :
      Machine.Run (machine limit Message) (new Message start) log service) :
    service.poisoned = false ↔ ∀ id, .overflowed id ∉ log := by
  induction run with
  | nil => simp [new]
  | @snoc log events before after label earlier last inductionHypothesis =>
      constructor
      · intro unpoisoned id member
        rcases List.mem_append.mp member with older | newest
        · have broken : before.poisoned = true := by
            by_contra still
            exact inductionHypothesis.mp (by simpa using still) id older
          rw [(poisoned_stays last broken).1] at unpoisoned
          cases unpoisoned
        · rw [poisoned_of_overflowed last newest] at unpoisoned
          cases unpoisoned
      · intro noOverflow
        exact (run_unpoisoned (earlier.snoc label last) rfl noOverflow).1

/--
A scheduling call leaves the timer service intact exactly when no addition has
overflowed before and its own sum is representable.
-/
theorem schedule_leaves_intact_iff
    {limit start index id : Nat}
    {log events : List Event}
    {service after : TimerService Message}
    {call : ScheduleCall Message}
    (run :
      Machine.Run (machine limit Message) (new Message start) log service)
    (inFlight : service.inFlight[index]? = some (id, call.request))
    (step :
      (machine limit Message).step? service (.insert index) =
        some (after, events)) :
    LeavesIntact limit id call service after events ↔
      (∀ other, .overflowed other ∉ log) ∧
        service.now + call.duration ≤ limit := by
  rw [← run_poisoned_iff run, ← call.request_delay]
  simp only [machine, inFlight, insertStep, Option.some.injEq] at step
  constructor
  · intro intact
    have usable := usable_iff.mp intact.usable
    grind [addDuration]
  · rintro ⟨unpoisoned, representable⟩
    simp only [unpoisoned, Bool.false_eq_true, if_false, addDuration,
      representable, if_true, Prod.mk.injEq] at step
    obtain ⟨rfl, rfl⟩ := step
    have succeeds :
        call.Succeeds id service.now
          [.scheduled id (service.now + call.request.delay)
            call.request.interval] := by
      rw [ScheduleCall.Succeeds, call.request_delay]
    have asked :
        call.entry id service.now =
          { id := id
            actorId := call.request.actorId
            scheduledAt := service.now + call.request.delay
            factory := call.request.factory
            interval := call.request.interval } := by
      rw [ScheduleCall.entry, call.request_delay]
    refine
      { outcome := .inl succeeds
        succeeds := iff_of_true succeeds (by rw [asked])
        fails := iff_of_false (fun fails => ?_) (by simp)
        usable := usable_iff.mpr rfl }
    exact fails _ _ _ List.mem_cons_self

/-- The last `Instant` of a 64-bit Linux, in nanoseconds. -/
def lastInstant : Nat := 9223372036854775807999999999

/-- `Duration::MAX`, in nanoseconds. -/
def durationMax : Nat := 18446744073709551615999999999

/-- A periodic timer is listed, and a scheduling call is about to lock. -/
def aboutToSchedule (duration : Nat) : List (Label String) :=
  [.newId (.handleInterval 5 ⟨1⟩ "tick"), .insert 0,
    .newId (.serviceTimer duration ⟨1⟩ "later")]

theorem schedule_leaves_intact_iff_representable :
    ∃ service after,
      (machine lastInstant String).run? (new String 0) (aboutToSchedule 7) =
          some (service, [.scheduled 0 5 (some 5)]) ∧
        (machine lastInstant String).step? service (.insert 0) =
          some (after, [.scheduled 1 7 none]) ∧
        LeavesIntact lastInstant 1 (.serviceTimer 7 ⟨1⟩ "later") service after
          [.scheduled 1 7 none] := by
  obtain ⟨service, after, executed, inserted, waiting, clock⟩ :
      ∃ service after,
        (machine lastInstant String).run? (new String 0) (aboutToSchedule 7) =
            some (service, [.scheduled 0 5 (some 5)]) ∧
          (machine lastInstant String).step? service (.insert 0) =
            some (after, [.scheduled 1 7 none]) ∧
          service.inFlight[0]? =
            some (1, (ScheduleCall.serviceTimer 7 ⟨1⟩ "later").request) ∧
          service.now = 0 :=
    ⟨_, _, rfl, rfl, rfl, rfl⟩
  refine ⟨service, after, executed, inserted,
    (schedule_leaves_intact_iff (Machine.run?_sound _ executed) waiting
      inserted).mpr ⟨by simp, ?_⟩⟩
  rw [clock]
  decide

/-- `Duration::MAX` poisons the mutex: nothing ever locks the list again. -/
theorem schedule_poisons :
    ∃ service after,
      (machine lastInstant String).run? (new String 0)
          (aboutToSchedule durationMax) =
          some (service, [.scheduled 0 5 (some 5)]) ∧
        (machine lastInstant String).step? service (.insert 0) =
          some (after, [.overflowed 1]) ∧
        (∀ later final,
          Machine.Run (machine lastInstant String) after later final →
          ∀ event ∈ later, event.completesLock = false) ∧
        ¬ LeavesIntact lastInstant 1 (.serviceTimer durationMax ⟨1⟩ "later")
          service after [.overflowed 1] := by
  obtain ⟨service, after, executed, inserted, poisoned⟩ :
      ∃ service after,
        (machine lastInstant String).run? (new String 0)
            (aboutToSchedule durationMax) =
            some (service, [.scheduled 0 5 (some 5)]) ∧
          (machine lastInstant String).step? service (.insert 0) =
            some (after, [.overflowed 1]) ∧
          after.poisoned = true :=
    ⟨_, _, rfl, rfl, rfl⟩
  refine ⟨service, after, executed, inserted,
    fun later final run => (run_poisoned run poisoned).2.2, fun intact => ?_⟩
  rw [usable_iff.mp intact.usable] at poisoned
  cases poisoned

end Runact.TimerService
