import Runact.PeriodicTimers

namespace Runact

/-!
# The public timer type

`Timer` is exported beside the timer service and keeps its own schedule.  It
reschedules from the clock, the service from the previous deadline, so a late
call moves every later deadline of a `Timer`.
-/

universe u

/-- `Timer`. -/
structure Timer (Message : Type u) where
  id : Nat
  actorId : ActorId
  scheduledAt : Nat
  message : Message
  interval : Option Nat

namespace Timer

open TimerService (addDuration addDuration_eq_some)

variable {Message : Type u}

/-- `Timer::every`, at a clock reading; `none` is a panic. -/
def every?
    (limit id now interval : Nat)
    (actorId : ActorId)
    (message : Message) : Option (Timer Message) :=
  (addDuration limit now interval).map fun deadline =>
    { id := id
      actorId := actorId
      scheduledAt := deadline
      message := message
      interval := some interval }

/-- `Timer::is_due`, at a clock reading. -/
def isDue (timer : Timer Message) (now : Nat) : Bool :=
  decide (now ≥ timer.scheduledAt)

/-- `Timer::reschedule`, at a clock reading; `none` is a panic. -/
def reschedule?
    (limit : Nat)
    (timer : Timer Message)
    (now : Nat) : Option (Timer Message) :=
  match timer.interval with
  | none => some timer
  | some interval =>
      (addDuration limit now interval).map fun deadline =>
        { timer with scheduledAt := deadline }

/-- A call of `reschedule`, with the time it was made at and the time the timer
was scheduled for. -/
structure RescheduleCall where
  now : Nat
  scheduledAt : Nat
  deriving DecidableEq, Repr

/-- How late a call was. -/
def RescheduleCall.late (call : RescheduleCall) : Nat :=
  call.now - call.scheduledAt

/-- A timer whose owner reschedules it when it is due. -/
def machine (limit : Nat) (Message : Type u) :
    Machine (Timer Message) Nat RescheduleCall where
  step? timer now :=
    if timer.isDue now then
      (timer.reschedule? limit now).map fun after =>
        (after, [{ now := now, scheduledAt := timer.scheduledAt }])
    else
      none

/-- The first deadlines after the creation, one interval apart. -/
def nominalDeadlines (created interval count : Nat) : List Nat :=
  (List.range count).map fun k => created + (k + 1) * interval

theorem nominalDeadlines_succ (created interval count : Nat) :
    nominalDeadlines created interval (count + 1) =
      nominalDeadlines created interval count ++
        [created + (count + 1) * interval] := by
  simp [nominalDeadlines, List.range_succ]

/-- A periodic timer is scheduled one interval after the call. -/
theorem reschedule_periodic
    {limit now interval : Nat}
    {timer after : Timer Message}
    {calls : List RescheduleCall}
    (periodic : timer.interval = some interval)
    (step : (machine limit Message).step? timer now = some (after, calls)) :
    timer.scheduledAt ≤ now ∧
      after = { timer with scheduledAt := now + interval } ∧
      calls = [{ now := now, scheduledAt := timer.scheduledAt }] := by
  simp only [machine, isDue, decide_eq_true_eq, reschedule?, periodic,
    Option.ite_none_right_eq_some, Option.map_map, Option.map_eq_some_iff]
    at step
  obtain ⟨due, deadline, added, same⟩ := step
  obtain ⟨rfl, -⟩ := addDuration_eq_some added
  obtain ⟨rfl, rfl⟩ := Prod.mk.inj same
  exact ⟨due, by simp [periodic], rfl⟩

/-- Over every run, the lateness of all calls adds up. -/
theorem run_scheduledAt
    {limit interval : Nat}
    {timer after : Timer Message}
    {calls : List RescheduleCall}
    (periodic : timer.interval = some interval)
    (run : Machine.Run (machine limit Message) timer calls after) :
    after.interval = some interval ∧
      after.scheduledAt =
        timer.scheduledAt + calls.length * interval +
          (calls.map RescheduleCall.late).sum := by
  induction run with
  | nil => simp [periodic]
  | snoc now earlier last inductionHypothesis =>
      obtain ⟨stillPeriodic, scheduled⟩ := inductionHypothesis
      obtain ⟨due, rfl, rfl⟩ := reschedule_periodic stillPeriodic last
      refine ⟨stillPeriodic, ?_⟩
      simp only [List.length_append, List.length_singleton, List.map_append,
        List.map_singleton, List.sum_append, List.sum_singleton, Nat.add_mul,
        Nat.one_mul, RescheduleCall.late]
      omega

/-- The nominal deadline is reached exactly when each call was made at the
nominal deadline before. -/
theorem run_onTime_iff
    {limit created interval : Nat}
    {timer after : Timer Message}
    {calls : List RescheduleCall}
    (periodic : timer.interval = some interval)
    (first : timer.scheduledAt = created + interval)
    (run : Machine.Run (machine limit Message) timer calls after) :
    after.scheduledAt = created + (calls.length + 1) * interval ↔
      calls.map RescheduleCall.now =
        nominalDeadlines created interval calls.length := by
  induction run with
  | nil => simp [first, nominalDeadlines]
  | @snoc calls events middle after now earlier last inductionHypothesis =>
      obtain ⟨stillPeriodic, scheduled⟩ := run_scheduledAt periodic earlier
      obtain ⟨due, rfl, rfl⟩ := reschedule_periodic stillPeriodic last
      rw [List.length_append, List.length_singleton, nominalDeadlines_succ,
        List.map_append, List.map_singleton]
      have reached : now + interval =
          created + (calls.length + 1 + 1) * interval ↔
            now = created + (calls.length + 1) * interval := by
        rw [Nat.add_mul (calls.length + 1)]
        omega
      simp only [reached]
      constructor
      · intro onTime
        -- the timer is never ahead of its nominal deadline
        have nominal :
            middle.scheduledAt = created + (calls.length + 1) * interval := by
          rw [Nat.add_mul, Nat.one_mul] at onTime ⊢
          omega
        rw [inductionHypothesis.mp nominal, onTime]
      · intro same
        exact List.singleton_inj.mp (List.append_inj' same rfl).2

/--
A periodic `Timer` keeps the deadlines the timer service would give it exactly
when each call is made at the deadline itself.
-/
theorem reschedule_agrees_iff
    {limit id created interval : Nat}
    {actorId : ActorId}
    {message : Message}
    {timer after : Timer Message}
    {calls : List RescheduleCall}
    (made : every? limit id created interval actorId message = some timer)
    (run : Machine.Run (machine limit Message) timer calls after) :
    (after.scheduledAt = created + (calls.length + 1) * interval ∧
      ∀ {start other : Nat} {log : List TimerService.Event}
          {service : TimerService Message},
        Machine.Run (TimerService.machine limit Message)
          (TimerService.new Message start) log service →
        .scheduled other (created + interval) (some interval) ∈ log →
        TimerService.firings other log = calls.length →
        ∀ deadline, (other, deadline) ∈ TimerService.timetable service →
          deadline = after.scheduledAt) ↔
      calls.map RescheduleCall.now =
        nominalDeadlines created interval calls.length := by
  obtain ⟨deadline, added, rfl⟩ := Option.map_eq_some_iff.mp made
  obtain ⟨rfl, -⟩ := addDuration_eq_some added
  have onTime :
      after.scheduledAt = created + (calls.length + 1) * interval ↔
        calls.map RescheduleCall.now =
          nominalDeadlines created interval calls.length :=
    run_onTime_iff rfl rfl run
  rw [← onTime]
  refine ⟨And.left, fun reached => ⟨reached, ?_⟩⟩
  intro start other log service running scheduled fired deadline listed
  rw [(TimerService.run_onSchedule running scheduled).next deadline listed,
    fired, reached]

/-- Two calls, both in time. -/
theorem reschedule_agrees_iff_inTime :
    ∃ timer after calls,
      every? 100 0 0 10 ⟨1⟩ "tick" = some timer ∧
        (machine 100 String).run? timer [10, 20] = some (after, calls) ∧
        calls.map RescheduleCall.now = [10, 20] ∧
        after.scheduledAt = 0 + (calls.length + 1) * 10 := by
  obtain ⟨timer, after, calls, made, executed, times⟩ :
      ∃ timer after calls,
        every? 100 0 0 10 ⟨1⟩ "tick" = some timer ∧
          (machine 100 String).run? timer [10, 20] = some (after, calls) ∧
          calls = [⟨10, 10⟩, ⟨20, 20⟩] :=
    ⟨_, _, _, rfl, rfl, rfl⟩
  refine ⟨timer, after, calls, made, executed, by rw [times]; rfl, ?_⟩
  exact ((reschedule_agrees_iff made (Machine.run?_sound _ executed)).mpr
    (by rw [times]; rfl)).1

/-- One call that comes three nanoseconds late: the timer service puts its
periodic entry back for 20, the timer is rescheduled for 23. -/
theorem reschedule_drifts :
    ∃ timer after calls service log,
      every? 100 0 0 10 ⟨1⟩ "tick" = some timer ∧
        (machine 100 String).run? timer [13] = some (after, calls) ∧
        after.scheduledAt = 23 ∧
        (TimerService.machine 100 String).run? (TimerService.new String 0)
            [.newId (.handleInterval 10 ⟨1⟩ "tick"), .insert 0, .clock 13,
              .service, .service, .service, .sendReturns, .service] =
          some (service, log) ∧
        .scheduled 0 10 (some 10) ∈ log ∧
        TimerService.firings 0 log = calls.length ∧
        TimerService.timetable service = [(0, 20)] := by
  refine ⟨_, _, _, _, _, rfl, rfl, rfl, rfl, ?_, rfl, rfl⟩
  exact List.mem_cons_self

end Timer

end Runact
