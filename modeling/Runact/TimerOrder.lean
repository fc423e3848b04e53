import Runact.PeriodicTimers
import Runact.TimerDelivery

namespace Runact

/-!
# The order in which timers arrive

A pass extracts the due entries in the order of the list, whatever their
deadlines, and the list is in the order in which entries were pushed: scheduled,
or put back after a firing.  So of two messages the one whose entry was pushed
earlier arrives first, unless it was not due yet when the other one's pass was
made.
-/

universe u

namespace TimerService

variable {Message : Type u}

/-- How many entries were pushed, and when each timer was last. -/
structure Pushes where
  count : Nat
  last : Nat → Nat

namespace Pushes

/-- Nothing was pushed yet. -/
def none : Pushes where
  count := 0
  last := fun _ => 0

/-- An entry of the timer is pushed. -/
def push (pushes : Pushes) (id : Nat) : Pushes where
  count := pushes.count + 1
  last := fun other =>
    if other = id then pushes.count + 1 else pushes.last other

/-- What an event tells about pushes. -/
def see (pushes : Pushes) : Event → Pushes
  | .scheduled id _ _ => pushes.push id
  | .rearmed id _ => pushes.push id
  | _ => pushes

end Pushes

/-- A firing of a timer: its nominal deadline, the clock of its pass, and the
push of the entry it fires. -/
structure Firing where
  id : Nat
  deadline : Nat
  pass : Nat
  pushed : Nat
  deriving DecidableEq, Repr

/-- Pushed earlier, or fired in a pass for which the other one was too late. -/
def Firing.Before (first second : Firing) : Prop :=
  first.pushed < second.pushed ∨ first.pass < second.deadline

/-- The firing of an entry in a pass. -/
def firingOf
    (pushes : Pushes)
    (pass : Nat)
    (entry : TimerEntry Message) : Firing where
  id := entry.id
  deadline := entry.scheduledAt
  pass := pass
  pushed := pushes.last entry.id

/-- The firings that are extracted and not delivered yet. -/
def underWay
    (pushes : Pushes)
    (position : ServicePosition Message) : List Firing :=
  match position.pass? with
  | none => []
  | some pass => position.undelivered.map (firingOf pushes pass)

/-- The firing that an event delivers. -/
def delivered?
    (pushes : Pushes)
    (position : ServicePosition Message) : Event → Option Firing
  | .delivered _ => (underWay pushes position).head?
  | _ => none

/-- The list is in the order of the pushes, the firings come one before the
other, and all of them before what is still in the list. -/
structure InOrder
    (done : List Firing)
    (pushes : Pushes)
    (service : TimerService Message) : Prop where
  listed :
    service.timers.Pairwise fun first second =>
      pushes.last first.id < pushes.last second.id
  counted : ∀ id, pushes.last id ≤ pushes.count
  ordered :
    (done ++ underWay pushes service.position).Pairwise
      fun first second => first.Before second ∧ first.pass ≤ second.pass
  due :
    ∀ firing ∈ done ++ underWay pushes service.position,
      firing.deadline ≤ firing.pass ∧
        firing.pushed ≤ pushes.count ∧
        firing.pass ≤ service.now ∧
        ∀ pass, service.position.pass? = some pass → firing.pass ≤ pass
  waiting :
    ∀ firing ∈ done ++ underWay pushes service.position,
      ∀ entry ∈ service.timers,
        firing.pushed < pushes.last entry.id ∨
          firing.pass < entry.scheduledAt

namespace InOrder

variable {done : List Firing} {pushes : Pushes}
  {service after : TimerService Message}

/-- Fewer firings and fewer entries are in order as well. -/
theorem fewer
    {less : List Firing}
    (order : InOrder done pushes service)
    (firings :
      (less ++ underWay pushes after.position).Sublist
        (done ++ underWay pushes service.position))
    (timers : after.timers.Sublist service.timers)
    (later : service.now ≤ after.now)
    (passes :
      ∀ pass, after.position.pass? = some pass →
        service.position.pass? = some pass ∨ pass = service.now) :
    InOrder less pushes after where
  listed := order.listed.sublist timers
  counted := order.counted
  ordered := order.ordered.sublist firings
  due := fun firing member => by
    obtain ⟨due, pushed, past, current⟩ :=
      order.due firing (firings.subset member)
    refine ⟨due, pushed, past.trans later, fun pass reading => ?_⟩
    rcases passes pass reading with same | rfl
    · exact current pass same
    · exact past
  waiting := fun firing member entry listed =>
    order.waiting firing (firings.subset member) entry
      (timers.subset listed)

/-- Of the firings, some may be left out. -/
theorem sublist
    {less : List Firing}
    (order : InOrder done pushes service)
    (firings : less.Sublist done) :
    InOrder less pushes service :=
  order.fewer (firings.append_right _) (List.Sublist.refl _) le_rfl
    fun _ same => .inl same

/-- A new entry is behind everything that was pushed before. -/
theorem pushed
    {entry : TimerEntry Message}
    (order : InOrder done pushes service)
    (timers : after.timers = service.timers ++ [entry])
    (absent :
      ∀ other ∈ service.position.undelivered ++ service.timers,
        other.id ≠ entry.id)
    (undelivered :
      after.position.undelivered = service.position.undelivered)
    (pass : after.position.pass? = service.position.pass?)
    (now : after.now = service.now) :
    InOrder done (pushes.push entry.id) after := by
  obtain ⟨absentHere, absentListed⟩ := List.forall_mem_append.mp absent
  have unchanged (other : TimerEntry Message) (different : other.id ≠ entry.id) :
      (pushes.push entry.id).last other.id = pushes.last other.id := by
    simp [Pushes.push, different]
  have newest :
      (pushes.push entry.id).last entry.id = pushes.count + 1 := by
    simp [Pushes.push]
  have sameUnderWay :
      underWay (pushes.push entry.id) after.position =
        underWay pushes service.position := by
    unfold underWay
    rw [undelivered, pass]
    split
    · rfl
    · refine List.map_congr_left fun other member => ?_
      simp only [firingOf, unchanged other (absentHere other member)]
  constructor
  · rw [timers, List.pairwise_append]
    refine ⟨order.listed.imp_of_mem fun {first second} firstListed
      secondListed earlier => ?_, List.pairwise_singleton _ _,
      fun other listed last same => ?_⟩
    · rwa [unchanged first (absentListed first firstListed),
        unchanged second (absentListed second secondListed)]
    · obtain rfl := List.mem_singleton.mp same
      rw [unchanged other (absentListed other listed), newest]
      exact Nat.lt_succ_of_le (order.counted other.id)
  · intro id
    have counted := order.counted id
    simp only [Pushes.push]
    split <;> omega
  · rw [sameUnderWay]
    exact order.ordered
  · rw [sameUnderWay, now, pass]
    intro firing member
    obtain ⟨due, pushed, rest⟩ := order.due firing member
    exact ⟨due, Nat.le_succ_of_le pushed, rest⟩
  · rw [sameUnderWay, timers]
    intro firing member other listed
    rcases List.mem_append.mp listed with older | same
    · rw [unchanged other (absentListed other older)]
      exact order.waiting firing member other older
    · obtain rfl := List.mem_singleton.mp same
      rw [newest]
      exact .inl (Nat.lt_succ_of_le (order.due firing member).2.1)

/-- A pass extracts the due entries in the order of the list, and leaves those
for which it is too early. -/
theorem scanned
    {pass : Nat}
    (order : InOrder done pushes service)
    (scanning : service.position = .scanning pass)
    (past : pass ≤ service.now) :
    InOrder done pushes
      { service with
        timers := service.timers.filter fun entry => !isDue pass entry
        position :=
          .delivering pass (service.timers.filter (isDue pass)) } := by
  have noneBefore : underWay pushes service.position = [] := by
    rw [scanning]
    rfl
  have readsClock : service.position.pass? = some pass := by
    rw [scanning]
    rfl
  have ordered := order.ordered
  have due := order.due
  have waiting := order.waiting
  rw [noneBefore, List.append_nil] at ordered due waiting
  have dueOf {entry : TimerEntry Message} (isIn : isDue pass entry = true) :
      entry.scheduledAt ≤ pass := by
    simpa [isDue] using isIn
  constructor
  · exact order.listed.sublist List.filter_sublist
  · exact order.counted
  · simp only [underWay, ServicePosition.pass?, ServicePosition.undelivered]
    refine List.pairwise_append.mpr ⟨ordered, ?_, ?_⟩
    · refine List.pairwise_map.mpr ?_
      refine (order.listed.sublist List.filter_sublist).imp
        fun {first second} earlier => ⟨.inl earlier, le_rfl⟩
    · intro firing member other extracted
      obtain ⟨entry, taken, rfl⟩ := List.mem_map.mp extracted
      exact ⟨waiting firing member entry (List.mem_filter.mp taken).1,
        (due firing member).2.2.2 pass readsClock⟩
  · simp only [underWay, ServicePosition.pass?, ServicePosition.undelivered]
    intro firing member
    rcases List.mem_append.mp member with older | extracted
    · obtain ⟨early, pushed, before, current⟩ := due firing older
      refine ⟨early, pushed, before, fun reading same => ?_⟩
      exact current reading (readsClock.trans same)
    · obtain ⟨entry, taken, rfl⟩ := List.mem_map.mp extracted
      refine ⟨dueOf (List.mem_filter.mp taken).2, order.counted entry.id, past,
        fun reading same => ?_⟩
      exact (Option.some.inj same).le
  · simp only [underWay, ServicePosition.pass?, ServicePosition.undelivered]
    intro firing member entry left
    obtain ⟨listed, notDue⟩ := List.mem_filter.mp left
    rcases List.mem_append.mp member with older | extracted
    · exact waiting firing older entry listed
    · obtain ⟨other, taken, rfl⟩ := List.mem_map.mp extracted
      right
      simpa [isDue, firingOf] using notDue

end InOrder

/-- The timers that wait are all different. -/
theorem run_waiting_nodup
    {limit now : Nat}
    {log : List Event}
    {service : TimerService Message}
    (run :
      Machine.Run (machine limit Message) (new Message now) log service) :
    ((service.position.undelivered ++ service.timers).map
      TimerEntry.id).Nodup := by
  have distinct := TimedRuntime.run_ids_nodup run
  simp only [TimedRuntime.busy, TimedRuntime.upcoming,
    TimedRuntime.remaining] at distinct
  cases position : service.position with
  | scanning pass =>
      have parts :
          (service.timers.filter (isDue pass) ++
              service.timers.filter fun entry => !isDue pass entry).Perm
            service.timers :=
        List.filter_append_perm _ _
      simp only [position, List.nil_append] at distinct
      rw [(parts.map TimerEntry.id).nodup_iff] at distinct
      simpa [ServicePosition.undelivered] using distinct
  | rearming pass entry interval due =>
      rw [position] at distinct
      exact distinct.sublist ((List.sublist_append_right _ _).map _)
  | _ =>
      rw [position] at distinct
      exact distinct

/-- An entry pushed at the back is none of those that wait already. -/
theorem absent_of_nodup
    {undelivered timers : List (TimerEntry Message)}
    {entry : TimerEntry Message}
    (distinct :
      ((undelivered ++ (timers ++ [entry])).map TimerEntry.id).Nodup) :
    ∀ other ∈ undelivered ++ timers, other.id ≠ entry.id := by
  rw [← List.append_assoc, List.map_append, List.nodup_append] at distinct
  intro other member
  exact distinct.2.2 other.id (List.mem_map_of_mem member) entry.id (by simp)

/-- Every step keeps firings and entries in order. -/
theorem InOrder.step
    {limit : Nat}
    {done : List Firing}
    {pushes : Pushes}
    {service after : TimerService Message}
    {label : Label Message}
    {events : List Event}
    (order : InOrder done pushes service)
    (sound : Sound service)
    (distinct :
      ((after.position.undelivered ++ after.timers).map
        TimerEntry.id).Nodup)
    (step :
      (machine limit Message).step? service label = some (after, events)) :
    InOrder (done ++ events.filterMap (delivered? pushes service.position))
      (events.foldl Pushes.see pushes) after := by
  obtain ⟨later, passes⟩ := step_pass step
  have noneDone : InOrder (done ++ []) pushes service := by
    rwa [List.append_nil]
  -- steps that neither push nor deliver, and at most lose what they hold
  have loses
      (timers : after.timers.Sublist service.timers)
      (firings :
        (underWay pushes after.position).Sublist
          (underWay pushes service.position)) :
      InOrder (done ++ []) pushes after := by
    rw [List.append_nil]
    exact order.fewer (firings.append_left done) timers later passes
  cases outcome_of_step step with
  | inserted index id pushed claimed usable =>
      have absent := absent_of_nodup distinct
      exact noneDone.pushed rfl absent rfl rfl rfl
  | rearmed pass entry interval due shape usable fitting =>
      refine @pushed _ _ _ _ _ { entry with
        scheduledAt := entry.scheduledAt + interval
        interval := some interval } noneDone rfl ?_ ?_ ?_ rfl
      · rw [shape]
        exact absent_of_nodup distinct
      · rw [shape]
        rfl
      · rw [shape]
        rfl
  | scanned pass shape usable =>
      have position := sound.position
      rw [shape] at position
      exact noneDone.scanned shape position
  | fired pass entry due message factory shape called =>
      refine loses (List.Sublist.refl _) ?_
      rw [shape]
      exact List.Sublist.refl _
  | sendReturned pass entry message due shape =>
      have taken :
          [Event.delivered entry.id].filterMap
              (delivered? pushes service.position) =
            [firingOf pushes pass entry] := by
        rw [shape]
        rfl
      rw [taken]
      refine order.fewer ?_ (List.Sublist.refl _) le_rfl passes
      rw [shape]
      cases interval : entry.interval <;>
        simp [underWay, ServicePosition.pass?, ServicePosition.undelivered]
  | cancelled timerId usable =>
      exact loses List.filter_sublist (List.Sublist.refl _)
  | stopped shape | polled shape | passOver pass shape
  | scanPoisoned pass shape | firedTwice pass entry due shape
  | rearmPoisoned pass entry interval due shape
  | rearmOverflowed pass entry interval due shape =>
      exact loses (List.Sublist.refl _) (by simp [underWay,
        ServicePosition.pass?, ServicePosition.undelivered])
  | _ => exact loses (List.Sublist.refl _) (List.Sublist.refl _)

end TimerService

namespace TimedRuntime

open TimerService

variable {Value State Frame : Type u}

/-- A message the timer service put into a mailbox, and the firing it is of. -/
structure TimerPut (Value : Type u) where
  channel : Nat
  message : AnyBox Value
  firing : Firing

/-- The message an event puts into a mailbox. -/
def acceptedMessage? : TimedEvent Value → Option (Nat × AnyBox Value)
  | .runtime (.accepted channel (.message message)) => some (channel, message)
  | _ => none

/-- The message a step of the timer service puts into a mailbox. -/
def put?
    (limit : Nat)
    (pushes : Pushes)
    (step : TimedRuntime Value State Frame × TimedLabel Value State Frame) :
    Option (TimerPut Value) :=
  match step.2, step.1.service.position with
  | .own, .sending pass entry _ _ =>
      (((machine limit Value State Frame).shown step).findSome?
        acceptedMessage?).map fun accepted =>
          { channel := accepted.1
            message := accepted.2
            firing := firingOf pushes pass entry }
  | _, _ => none

/-- The pushes of a trace, and the timer messages put into mailboxes. -/
structure Journal (Value : Type u) where
  pushes : Pushes
  puts : List (TimerPut Value)

/-- One more step is recorded. -/
def Journal.record
    (limit : Nat)
    (journal : Journal Value)
    (step : TimedRuntime Value State Frame × TimedLabel Value State Frame) :
    Journal Value where
  pushes :=
    (((machine limit Value State Frame).shown step).flatMap
      serviceEvent).foldl Pushes.see journal.pushes
  puts := journal.puts ++ (put? limit journal.pushes step).toList

/-- The journal of a trace. -/
def journal
    (limit : Nat)
    (steps :
      List (TimedRuntime Value State Frame × TimedLabel Value State Frame)) :
    Journal Value :=
  steps.foldl (Journal.record limit) { pushes := .none, puts := [] }

@[simp] theorem journal_snoc
    (limit : Nat)
    (steps :
      List (TimedRuntime Value State Frame × TimedLabel Value State Frame))
    (step : TimedRuntime Value State Frame × TimedLabel Value State Frame) :
    journal limit (steps ++ [step]) =
      (journal limit steps).record limit step := by
  simp [journal]

/-- The timer messages put into one mailbox, in order. -/
def putsInto
    (limit channel : Nat)
    (steps :
      List (TimedRuntime Value State Frame × TimedLabel Value State Frame)) :
    List (TimerPut Value) :=
  (journal limit steps).puts.filter (·.channel = channel)

/-- Inside of a send, the thread delivers the timer it has fired. -/
theorem events_of_sending
    {limit pass : Nat}
    {timed after : TimedRuntime Value State Frame}
    {entry : TimerEntry (AnyBox Value)}
    {message : AnyBox Value}
    {due : List (TimerEntry (AnyBox Value))}
    {events : List (TimedEvent Value)}
    (position : timed.service.position = .sending pass entry message due)
    (step : timed.ownStep? limit = some (after, events)) :
    ∃ runtime shown,
      returnSend? timed.runtime = some (runtime, shown) ∧
        events = .service (.delivered entry.id) :: shown.map .runtime := by
  simp only [ownStep?, position] at step
  split at step
  · cases step
  · rename_i runtime shown returned
    simp only [TimerService.machine, position, Option.map_some,
      Option.some.injEq, Prod.mk.injEq] at step
    exact ⟨runtime, shown, returned, step.2.symm⟩

/-- What is put is one of the firings that the step delivers. -/
theorem put_delivered
    {limit : Nat}
    {pushes : Pushes}
    {timed after : TimedRuntime Value State Frame}
    {label : TimedLabel Value State Frame}
    {events : List (TimedEvent Value)}
    (step :
      (machine limit Value State Frame).step? timed label =
        some (after, events)) :
    ((put? limit pushes (timed, label)).toList.map TimerPut.firing).Sublist
      ((events.flatMap serviceEvent).filterMap
        (delivered? pushes timed.service.position)) := by
  cases found : put? limit pushes (timed, label) with
  | none => exact List.nil_sublist _
  | some put =>
      unfold put? at found
      split at found
      · rename_i own pass entry message due isOwn position
        obtain rfl : label = .own := isOwn
        obtain ⟨accepted, -, rfl⟩ := Option.map_eq_some_iff.mp found
        obtain ⟨runtime, shown, -, rfl⟩ := events_of_sending position step
        rw [List.flatMap_cons, flatMap_runtime, position]
        exact List.Sublist.refl _
      · cases found

/-- Over every trace, firings and entries are in order. -/
theorem trace_inOrder
    {limit mailboxCapacity now : Nat}
    {steps :
      List (TimedRuntime Value State Frame × TimedLabel Value State Frame)}
    {log : List (TimedEvent Value)}
    {timed : TimedRuntime Value State Frame}
    (trace :
      Machine.Trace (machine limit Value State Frame)
        (new Value State Frame mailboxCapacity now) steps log timed) :
    InOrder ((journal limit steps).puts.map TimerPut.firing)
      (journal limit steps).pushes timed.service := by
  induction trace with
  | nil =>
      exact
        { listed := .nil
          counted := fun _ => le_rfl
          ordered := .nil
          due := nofun
          waiting := nofun }
  | @snoc steps log events middle final label earlier last
      inductionHypothesis =>
      rw [journal_snoc]
      have putOf :
          ((put? limit (journal limit steps).pushes (middle, label)).toList.map
              TimerPut.firing).Sublist
            ((events.flatMap serviceEvent).filterMap
              (delivered? (journal limit steps).pushes
                middle.service.position)) :=
        put_delivered last
      simp only [Journal.record, Machine.shown_of_step last, List.map_append]
      obtain ⟨same, silent⟩ | ⟨serviceLabel, taken⟩ := service_of_step last
      · rw [silent] at putOf ⊢
        rw [List.sublist_nil.mp putOf, same, List.append_nil]
        exact inductionHypothesis
      · have sound := (run_account (run_service earlier.run) 0).1
        have distinct :=
          run_waiting_nodup (run_service (earlier.run.snoc label last))
        exact (inductionHypothesis.step sound distinct taken).sublist
          (putOf.append_left _)

/--
Of two timer messages put into an actor's mailbox, the one with the earlier
deadline is put first exactly when its entry was pushed first, or its pass was
made before the other one was due.
-/
theorem deadline_order_iff
    {limit mailboxCapacity now channel first second : Nat}
    {steps :
      List (TimedRuntime Value State Frame × TimedLabel Value State Frame)}
    {log : List (TimedEvent Value)}
    {timed : TimedRuntime Value State Frame}
    {early late : TimerPut Value}
    (trace :
      Machine.Trace (machine limit Value State Frame)
        (new Value State Frame mailboxCapacity now) steps log timed)
    (earlyPut : (putsInto limit channel steps)[first]? = some early)
    (latePut : (putsInto limit channel steps)[second]? = some late)
    (deadlines : early.firing.deadline < late.firing.deadline) :
    first < second ↔
      early.firing.pushed < late.firing.pushed ∨
        early.firing.pass < late.firing.deadline := by
  have order := trace_inOrder trace
  have ordered :
      (putsInto limit channel steps).Pairwise fun one other =>
        one.firing.Before other.firing ∧
          one.firing.pass ≤ other.firing.pass :=
    (List.pairwise_map.mp (List.pairwise_append.mp order.ordered).1).sublist
      List.filter_sublist
  have due {put : TimerPut Value} {index : Nat}
      (found : (putsInto limit channel steps)[index]? = some put) :
      put.firing.deadline ≤ put.firing.pass := by
    have member := (List.mem_filter.mp (List.mem_of_getElem? found)).1
    exact (order.due put.firing
      (List.mem_append_left _ (List.mem_map_of_mem member))).1
  have before {index other : Nat} {one two : TimerPut Value}
      (foundOne : (putsInto limit channel steps)[index]? = some one)
      (foundTwo : (putsInto limit channel steps)[other]? = some two)
      (less : index < other) :
      one.firing.Before two.firing ∧ one.firing.pass ≤ two.firing.pass := by
    obtain ⟨oneBound, rfl⟩ := List.getElem?_eq_some_iff.mp foundOne
    obtain ⟨twoBound, rfl⟩ := List.getElem?_eq_some_iff.mp foundTwo
    exact List.pairwise_iff_getElem.mp ordered index other oneBound twoBound
      less
  constructor
  · exact fun less => (before earlyPut latePut less).1
  · intro reason
    rcases Nat.lt_trichotomy first second with less | rfl | greater
    · exact less
    · obtain rfl : early = late := by simpa [earlyPut] using latePut
      exact absurd deadlines (lt_irrefl _)
    · -- the late one came first, so its pass was made before either was due
      obtain ⟨reverse, passes⟩ := before latePut earlyPut greater
      have lateDue := due latePut
      unfold Firing.Before at reverse
      omega

/-- A timer for 10, then one for 5, both for the same actor, and a pass at 20. -/
def latePass : List (TimedLabel Nat Unit Unit) :=
  [.runtime (.spawn quiet ()),
    .service (.newId (.serviceTimer 10 ⟨1⟩ ⟨0, 1⟩)), .service (.insert 0),
    .service (.newId (.serviceTimer 5 ⟨1⟩ ⟨0, 2⟩)), .service (.insert 0),
    .service (.clock 20), .own, .own, .own, .own, .own, .own]

/-- The same timers, and a pass made when only the second one is due. -/
def timelyPass : List (TimedLabel Nat Unit Unit) :=
  [.runtime (.spawn quiet ()),
    .service (.newId (.serviceTimer 10 ⟨1⟩ ⟨0, 1⟩)), .service (.insert 0),
    .service (.newId (.serviceTimer 5 ⟨1⟩ ⟨0, 2⟩)), .service (.insert 0),
    .service (.clock 7), .own, .own, .own, .own, .own,
    .service (.clock 20), .own, .own, .own, .own]

/-- In time, the message for 5 is put before the message for 10. -/
theorem deadline_order_iff_timely :
    ∃ timed log early late,
      (machine 100 Nat Unit Unit).run? (new Nat Unit Unit 2 0) timelyPass =
          some (timed, log) ∧
        putsInto 100 0
            ((machine 100 Nat Unit Unit).taken (new Nat Unit Unit 2 0)
              timelyPass) =
          [early, late] ∧
        early.firing = { id := 1, deadline := 5, pass := 7, pushed := 2 } ∧
        late.firing = { id := 0, deadline := 10, pass := 20, pushed := 1 } ∧
        (0 < 1 ↔
          early.firing.pushed < late.firing.pushed ∨
            early.firing.pass < late.firing.deadline) := by
  obtain ⟨timed, log, early, late, executed, puts, earlyIs, lateIs⟩ :
      ∃ timed log early late,
        (machine 100 Nat Unit Unit).run? (new Nat Unit Unit 2 0) timelyPass =
            some (timed, log) ∧
          putsInto 100 0
              ((machine 100 Nat Unit Unit).taken (new Nat Unit Unit 2 0)
                timelyPass) =
            [early, late] ∧
          early.firing = { id := 1, deadline := 5, pass := 7, pushed := 2 } ∧
          late.firing =
            { id := 0, deadline := 10, pass := 20, pushed := 1 } :=
    ⟨_, _, _, _, rfl, rfl, rfl, rfl⟩
  refine ⟨timed, log, early, late, executed, puts, earlyIs, lateIs, ?_⟩
  exact deadline_order_iff (Machine.run?_taken _ executed)
    (by rw [puts]; rfl) (by rw [puts]; rfl) (by rw [earlyIs, lateIs]; decide)

/-- In one late pass, the message for 10 is put before the message for 5. -/
theorem deadline_order_broken :
    ∃ timed log early late,
      (machine 100 Nat Unit Unit).run? (new Nat Unit Unit 2 0) latePass =
          some (timed, log) ∧
        log =
          [.runtime (.spawned ⟨1⟩ 0), .service (.scheduled 0 10 none),
            .service (.scheduled 1 5 none), .service (.extracted [0, 1]),
            .service (.fired 0 10 none 20 20), .service (.delivered 0),
            .runtime (.accepted 0 (.message ⟨0, 1⟩)),
            .runtime (.answered (.ok ())),
            .service (.fired 1 5 none 20 20), .service (.delivered 1),
            .runtime (.accepted 0 (.message ⟨0, 2⟩)),
            .runtime (.answered (.ok ()))] ∧
        putsInto 100 0
            ((machine 100 Nat Unit Unit).taken (new Nat Unit Unit 2 0)
              latePass) =
          [late, early] ∧
        early.firing.deadline = 5 ∧
        late.firing.deadline = 10 :=
  ⟨_, _, _, _, rfl, rfl, rfl, rfl, rfl⟩

end TimedRuntime

end Runact
