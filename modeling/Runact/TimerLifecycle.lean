import Runact.TimerService

namespace Runact.TimerService

/-!
# The life of a timer

Seen from outside, a timer is live from the moment its entry is pushed: the
entry sits in the shared list or in the batch of the service thread, and an
extraction is invisible.  Each step of the machine has one of a few effects on
the live entries; the account of every timer identifier follows from these.
-/

universe u

variable {Message : Type u}

/-- The entry is due at `now`. -/
def isDue (now : Nat) (entry : TimerEntry Message) : Bool :=
  decide (entry.scheduledAt ≤ now)

/-- The extraction loop from index `passed.length` on. -/
theorem scanLoop_eq
    (now : Nat)
    (rest : List (TimerEntry Message))
    (passed due : List (TimerEntry Message)) :
    scanLoop now rest.length (passed ++ rest) passed.length due =
      (passed ++ rest.filter (fun entry => !isDue now entry),
        due ++ rest.filter (isDue now)) := by
  induction rest generalizing passed due with
  | nil =>
      simp [scanLoop]
  | cons entry later inductionHypothesis =>
      have found :
          (passed ++ entry :: later)[passed.length]? = some entry := by
        simp
      by_cases entryDue : entry.scheduledAt ≤ now
      · have removed :
            (passed ++ entry :: later).eraseIdx passed.length =
              passed ++ later := by
          simp [List.eraseIdx_append_of_length_le]
        simp only [List.length_cons, scanLoop, found, ge_iff_le, entryDue,
          ↓reduceIte, removed, inductionHypothesis]
        simp [isDue, entryDue]
      · have skipped :=
          inductionHypothesis (passed ++ [entry]) due
        simp only [List.append_assoc, List.singleton_append,
          List.length_append, List.length_singleton] at skipped
        simp only [List.length_cons, scanLoop, found, ge_iff_le, entryDue,
          ↓reduceIte, skipped]
        simp [isDue, entryDue]

/-- A scan keeps the entries that are not due, and takes the due ones. -/
theorem scan_eq
    (now : Nat)
    (timers : List (TimerEntry Message)) :
    scan now timers =
      (timers.filter (fun entry => !isDue now entry),
        timers.filter (isDue now)) := by
  simpa [scan] using scanLoop_eq now timers [] []

theorem addDuration_eq_some
    {limit instant duration deadline : Nat}
    (added : addDuration limit instant duration = some deadline) :
    deadline = instant + duration ∧ instant + duration ≤ limit := by
  simp only [addDuration, Option.ite_none_right_eq_some,
    Option.some.injEq] at added
  exact ⟨added.2.symm, added.1⟩

theorem addDuration_eq_none
    {limit instant duration : Nat}
    (overflowed : addDuration limit instant duration = none) :
    limit < instant + duration := by
  simp only [addDuration, ite_eq_right_iff, reduceCtorEq, imp_false,
    Nat.not_le] at overflowed
  exact overflowed

/-- What a step does, one rule for each way it ends. -/
inductive StepOutcome
    (limit : Nat)
    (service : TimerService Message) :
    TimerService Message → List Event → Prop where
  | clock (later : Nat) :
      service.now ≤ later →
      StepOutcome limit service { service with now := later } []
  | newId (call : ScheduleCall Message) :
      StepOutcome limit service
        { service with
          nextId := service.nextId + 1
          inFlight :=
            service.inFlight ++ [(service.nextId, call.request)] }
        []
  | insertPoisoned (index id : Nat) (pushed : ScheduleRequest Message) :
      service.inFlight[index]? = some (id, pushed) →
      service.poisoned = true →
      StepOutcome limit service
        { service with inFlight := service.inFlight.eraseIdx index }
        [.foundPoisoned]
  | insertOverflowed (index id : Nat) (pushed : ScheduleRequest Message) :
      service.inFlight[index]? = some (id, pushed) →
      service.poisoned = false →
      StepOutcome limit service
        { service with
          inFlight := service.inFlight.eraseIdx index
          poisoned := true }
        [.overflowed id]
  | inserted (index id : Nat) (pushed : ScheduleRequest Message) :
      service.inFlight[index]? = some (id, pushed) →
      service.poisoned = false →
      StepOutcome limit service
        { service with
          inFlight := service.inFlight.eraseIdx index
          timers := service.timers ++
            [{ id := id
               actorId := pushed.actorId
               scheduledAt := service.now + pushed.delay
               factory := pushed.factory
               interval := pushed.interval }] }
        [.scheduled id (service.now + pushed.delay) pushed.interval]
  | cancelPoisoned :
      service.poisoned = true →
      StepOutcome limit service service [.foundPoisoned]
  | cancelled (timerId : Nat) :
      service.poisoned = false →
      StepOutcome limit service
        { service with timers := retain timerId service.timers }
        [.cancelled timerId]
  | setStop :
      StepOutcome limit service { service with stop := true } []
  | stopped :
      service.position = .polling →
      StepOutcome limit service { service with position := .stopped } []
  | polled :
      service.position = .polling →
      StepOutcome limit service
        { service with position := .scanning service.now } []
  | scanPoisoned (pass : Nat) :
      service.position = .scanning pass →
      service.poisoned = true →
      StepOutcome limit service
        { service with position := .panicked } [.foundPoisoned]
  | scanned (pass : Nat) :
      service.position = .scanning pass →
      service.poisoned = false →
      StepOutcome limit service
        { service with
          timers := service.timers.filter fun entry => !isDue pass entry
          position :=
            .delivering pass (service.timers.filter (isDue pass)) }
        [.extracted
          ((service.timers.filter (isDue pass)).map TimerEntry.id)]
  | passOver (pass : Nat) :
      service.position = .delivering pass [] →
      StepOutcome limit service { service with position := .polling } []
  | firedTwice
      (pass : Nat) (entry : TimerEntry Message)
      (due : List (TimerEntry Message)) :
      service.position = .delivering pass (entry :: due) →
      entry.factory.call? = none →
      StepOutcome limit service
        { service with position := .panicked } [.firedTwice entry.id]
  | fired
      (pass : Nat) (entry : TimerEntry Message)
      (due : List (TimerEntry Message)) (message : Message)
      (factory : MessageFactory Message) :
      service.position = .delivering pass (entry :: due) →
      entry.factory.call? = some (message, factory) →
      StepOutcome limit service
        { service with
          position :=
            .sending pass { entry with factory := factory } message due }
        [.fired entry.id entry.scheduledAt entry.interval pass service.now]
  | sendReturned
      (pass : Nat) (entry : TimerEntry Message) (message : Message)
      (due : List (TimerEntry Message)) :
      service.position = .sending pass entry message due →
      StepOutcome limit service
        { service with
          position :=
            match entry.interval with
            | none => .delivering pass due
            | some interval => .rearming pass entry interval due }
        [.delivered entry.id]
  | rearmPoisoned
      (pass : Nat) (entry : TimerEntry Message) (interval : Nat)
      (due : List (TimerEntry Message)) :
      service.position = .rearming pass entry interval due →
      service.poisoned = true →
      StepOutcome limit service
        { service with position := .panicked } [.foundPoisoned]
  | rearmOverflowed
      (pass : Nat) (entry : TimerEntry Message) (interval : Nat)
      (due : List (TimerEntry Message)) :
      service.position = .rearming pass entry interval due →
      service.poisoned = false →
      limit < entry.scheduledAt + interval →
      StepOutcome limit service
        { service with poisoned := true, position := .panicked }
        [.overflowed entry.id]
  | rearmed
      (pass : Nat) (entry : TimerEntry Message) (interval : Nat)
      (due : List (TimerEntry Message)) :
      service.position = .rearming pass entry interval due →
      service.poisoned = false →
      entry.scheduledAt + interval ≤ limit →
      StepOutcome limit service
        { service with
          timers := service.timers ++
            [{ entry with
              scheduledAt := entry.scheduledAt + interval
              interval := some interval }]
          position := .delivering pass due }
        [.rearmed entry.id (entry.scheduledAt + interval)]

/-- Every step of the service thread ends in one of these ways. -/
theorem outcome_of_serviceStep
    {limit : Nat}
    {service after : TimerService Message}
    {events : List Event}
    (step : serviceStep? limit service = some (after, events)) :
    StepOutcome limit service after events := by
  unfold serviceStep? at step
  split at step
  · rename_i polling
    split at step <;> obtain ⟨rfl, rfl⟩ := Prod.mk.inj (Option.some.inj step)
    · exact .stopped polling
    · exact .polled polling
  · rename_i pass scanning
    split at step <;> obtain ⟨rfl, rfl⟩ := Prod.mk.inj (Option.some.inj step)
    · rename_i poisoned
      exact .scanPoisoned pass scanning poisoned
    · rename_i usable
      simp only [scan_eq]
      exact .scanned pass scanning (by simpa using usable)
  · rename_i pass delivering
    obtain ⟨rfl, rfl⟩ := Prod.mk.inj (Option.some.inj step)
    exact .passOver pass delivering
  · rename_i pass entry due delivering
    split at step <;> obtain ⟨rfl, rfl⟩ := Prod.mk.inj (Option.some.inj step)
    · rename_i used
      exact .firedTwice pass entry due delivering used
    · rename_i message factory called
      exact .fired pass entry due message factory delivering called
  · cases step
  · rename_i pass entry interval due rearming
    split at step
    · rename_i poisoned
      obtain ⟨rfl, rfl⟩ := Prod.mk.inj (Option.some.inj step)
      exact .rearmPoisoned pass entry interval due rearming poisoned
    · rename_i usable
      have usable : service.poisoned = false := by simpa using usable
      split at step <;> obtain ⟨rfl, rfl⟩ := Prod.mk.inj (Option.some.inj step)
      · rename_i overflowed
        exact .rearmOverflowed pass entry interval due rearming usable
          (addDuration_eq_none overflowed)
      · rename_i deadline added
        obtain ⟨rfl, fits⟩ := addDuration_eq_some added
        exact .rearmed pass entry interval due rearming usable fits
  · cases step
  · cases step

/-- Every step ends in one of these ways. -/
theorem outcome_of_step
    {limit : Nat}
    {service after : TimerService Message}
    {label : Label Message}
    {events : List Event}
    (step :
      (machine limit Message).step? service label = some (after, events)) :
    StepOutcome limit service after events := by
  cases label with
  | clock later =>
      simp only [machine, Option.ite_none_right_eq_some,
        Option.some.injEq, Prod.mk.injEq] at step
      obtain ⟨forward, rfl, rfl⟩ := step
      exact .clock later forward
  | newId call =>
      obtain ⟨rfl, rfl⟩ := Prod.mk.inj (Option.some.inj step)
      exact .newId call
  | insert index =>
      simp only [machine] at step
      split at step
      · cases step
      · rename_i id pushed claimed
        simp only [insertStep, Option.some.injEq] at step
        split at step
        · rename_i poisoned
          obtain ⟨rfl, rfl⟩ := Prod.mk.inj step
          exact .insertPoisoned index id pushed claimed poisoned
        · rename_i usable
          have usable : service.poisoned = false := by simpa using usable
          split at step <;> obtain ⟨rfl, rfl⟩ := Prod.mk.inj step
          · exact .insertOverflowed index id pushed claimed usable
          · rename_i deadline added
            obtain ⟨rfl, -⟩ := addDuration_eq_some added
            exact .inserted index id pushed claimed usable
  | cancel timerId =>
      simp only [machine] at step
      split at step <;> obtain ⟨rfl, rfl⟩ := Prod.mk.inj (Option.some.inj step)
      · rename_i poisoned
        exact .cancelPoisoned poisoned
      · rename_i usable
        exact .cancelled timerId (by simpa using usable)
  | service => exact outcome_of_serviceStep step
  | sendReturns =>
      simp only [machine] at step
      split at step
      · rename_i pass entry message due sending
        obtain ⟨rfl, rfl⟩ := Prod.mk.inj (Option.some.inj step)
        exact .sendReturned pass entry message due sending
      · cases step
  | setStop =>
      obtain ⟨rfl, rfl⟩ := Prod.mk.inj (Option.some.inj step)
      exact .setStop

/-- One-shot entries own a message, periodic entries clone one. -/
def Fits : MessageFactory Message → Option Nat → Prop
  | .once (some _), none => True
  | .cloned _, some _ => True
  | _, _ => False

/-- What the service thread knows about its batch. -/
def PositionSound (now : Nat) : ServicePosition Message → Prop
  | .scanning pass => pass ≤ now
  | .delivering pass due =>
      pass ≤ now ∧
        ∀ entry ∈ due,
          Fits entry.factory entry.interval ∧ entry.scheduledAt ≤ pass
  | .sending pass entry _ due =>
      (pass ≤ now ∧
        ∀ entry ∈ due,
          Fits entry.factory entry.interval ∧ entry.scheduledAt ≤ pass) ∧
        (entry.interval.isSome → Fits entry.factory entry.interval)
  | .rearming pass entry interval due =>
      (pass ≤ now ∧
        ∀ entry ∈ due,
          Fits entry.factory entry.interval ∧ entry.scheduledAt ≤ pass) ∧
        entry.interval = some interval ∧
        Fits entry.factory entry.interval
  | _ => True

/-- The invariant of the timer service. -/
structure Sound (service : TimerService Message) : Prop where
  entries :
    ∀ entry ∈ service.timers, Fits entry.factory entry.interval
  position :
    PositionSound service.now service.position
  requests :
    ∀ call ∈ service.inFlight, Fits call.2.factory call.2.interval
  claimed :
    ∀ call ∈ service.inFlight, call.1 < service.nextId
  claimsDistinct :
    (service.inFlight.map Prod.fst).Nodup

/-- Every entry point builds an entry whose factory fits its interval. -/
theorem ScheduleCall.request_fits
    (call : ScheduleCall Message) :
    Fits call.request.factory call.request.interval := by
  cases call <;> exact trivial

theorem sound_new (now : Nat) : Sound (new Message now) where
  entries := by simp [new]
  position := trivial
  requests := by simp [new]
  claimed := by simp [new]
  claimsDistinct := by simp [new]

/-- A fired entry keeps a fitting factory exactly when it is periodic. -/
theorem call?_of_fits
    {entry : TimerEntry Message}
    (fits : Fits entry.factory entry.interval) :
    ∃ message factory,
      entry.factory.call? = some (message, factory) ∧
        (entry.interval.isSome →
          factory = entry.factory) := by
  rcases entry with ⟨id, actorId, scheduledAt, factory, interval⟩
  cases factory with
  | once message =>
      cases message with
      | none =>
          simp [Fits] at fits
      | some message =>
          cases interval with
          | none =>
              exact ⟨message, .once none, rfl, by simp⟩
          | some interval =>
              simp [Fits] at fits
  | cloned message =>
      exact ⟨message, .cloned message, rfl, fun _ => rfl⟩

/-- A later clock reading does not disturb the batch. -/
theorem PositionSound.later
    {now later : Nat}
    {position : ServicePosition Message}
    (sound : PositionSound now position)
    (forward : now ≤ later) :
    PositionSound later position := by
  cases position with
  | scanning pass =>
      exact Nat.le_trans sound forward
  | delivering pass due =>
      exact ⟨Nat.le_trans sound.1 forward, sound.2⟩
  | sending pass entry message due =>
      exact ⟨⟨Nat.le_trans sound.1.1 forward, sound.1.2⟩, sound.2⟩
  | rearming pass entry interval due =>
      exact ⟨⟨Nat.le_trans sound.1.1 forward, sound.1.2⟩, sound.2⟩
  | _ =>
      trivial

/-- Every step keeps the invariant. -/
theorem sound_step
    {limit : Nat}
    {service after : TimerService Message}
    {label : Label Message}
    {events : List Event}
    (sound : Sound service)
    (step :
      (machine limit Message).step? service label = some (after, events)) :
    Sound after := by
  have position := sound.position
  have others
      (index : Nat) :
      Sound
        { service with inFlight := service.inFlight.eraseIdx index } := {
    sound with
    requests := fun call member =>
      sound.requests call (List.mem_of_mem_eraseIdx member)
    claimed := fun call member =>
      sound.claimed call (List.mem_of_mem_eraseIdx member)
    claimsDistinct :=
      ((List.eraseIdx_sublist _ _).map Prod.fst).nodup sound.claimsDistinct
  }
  cases outcome_of_step step with
  | clock later forward =>
      exact { sound with position := position.later forward }
  | newId call =>
      refine { sound with requests := ?_, claimed := ?_, claimsDistinct := ?_ }
      · intro claim member
        rcases List.mem_append.mp member with older | newest
        · exact sound.requests claim older
        · obtain rfl := List.mem_singleton.mp newest
          exact call.request_fits
      · intro claim member
        rcases List.mem_append.mp member with older | newest
        · exact Nat.lt_succ_of_lt (sound.claimed claim older)
        · obtain rfl := List.mem_singleton.mp newest
          exact Nat.lt_succ_self _
      · rw [List.map_append, List.nodup_append]
        refine ⟨sound.claimsDistinct, by simp, ?_⟩
        intro older olderMember newest newestMember
        obtain ⟨claim, member, rfl⟩ := List.mem_map.mp olderMember
        obtain rfl : newest = service.nextId := by simpa using newestMember
        exact Nat.ne_of_lt (sound.claimed claim member)
  | insertPoisoned index id pushed claimed poisoned => exact others index
  | insertOverflowed index id pushed claimed usable =>
      exact { others index with }
  | inserted index id pushed claimed usable =>
      have fits := sound.requests _ (List.mem_of_getElem? claimed)
      refine { others index with entries := ?_ }
      intro entry member
      rcases List.mem_append.mp member with listed | inserted
      · exact sound.entries entry listed
      · obtain rfl := List.mem_singleton.mp inserted
        exact fits
  | cancelPoisoned poisoned => exact sound
  | cancelled timerId usable =>
      refine { sound with entries := ?_ }
      intro entry member
      exact sound.entries entry (List.mem_of_mem_filter member)
  | polled polling =>
      exact { sound with position := Nat.le_refl service.now }
  | scanned pass shape usable =>
      rw [shape] at position
      refine { sound with entries := ?_, position := ⟨position, ?_⟩ }
      · intro entry member
        exact sound.entries entry (List.mem_of_mem_filter member)
      · intro entry member
        obtain ⟨listed, entryDue⟩ := List.mem_filter.mp member
        exact ⟨sound.entries entry listed, of_decide_eq_true entryDue⟩
  | fired pass entry due message factory shape called =>
      rw [shape] at position
      obtain ⟨passed, fitting⟩ := position
      have fits := (fitting entry (by simp)).1
      obtain ⟨other, same, calledToo, kept⟩ := call?_of_fits fits
      obtain ⟨rfl, rfl⟩ : message = other ∧ factory = same := by
        simpa [called] using calledToo
      refine { sound with position := ⟨⟨passed, ?_⟩, ?_⟩ }
      · intro other member
        exact fitting other (by simp [member])
      · intro periodic
        rw [kept periodic]
        exact fits
  | sendReturned pass entry message due shape =>
      rw [shape] at position
      refine { sound with position := ?_ }
      cases interval : entry.interval with
      | none => exact position.1
      | some period =>
          exact ⟨position.1, interval, position.2 (by simp [interval])⟩
  | rearmed pass entry interval due shape usable fitting =>
      rw [shape] at position
      obtain ⟨batch, periodic, fits⟩ := position
      refine { sound with entries := ?_, position := batch }
      intro other member
      rcases List.mem_append.mp member with listed | rearmed
      · exact sound.entries other listed
      · obtain rfl := List.mem_singleton.mp rearmed
        rw [periodic] at fits
        exact fits
  | setStop => exact { sound with }
  | _ => exact { sound with position := trivial }

/-- The live entries: listed, or extracted and still to be fired or put back. -/
def live (service : TimerService Message) : Multiset (TimerEntry Message) :=
  service.timers + service.position.held

/-- No scheduling call has returned this identifier yet. -/
def Unissued (service : TimerService Message) (id : Nat) : Prop :=
  service.nextId ≤ id ∨ id ∈ service.inFlight.map Prod.fst

/-- Events that tell nothing about which timers are live. -/
def Event.isQuiet : Event → Bool
  | .extracted _ => true
  | .delivered _ => true
  | _ => false

/-- What one step can do to the live entries, and what it shows of it. -/
inductive Effect
    (before after : TimerService Message) : List Event → Prop where
  | quiet {events : List Event} :
      (∀ event ∈ events, event.isQuiet = true) →
      live after = live before →
      Effect before after events
  | scheduled (entry : TimerEntry Message) :
      Unissued before entry.id →
      ¬ Unissued after entry.id →
      live after = entry ::ₘ live before →
      Effect before after
        [.scheduled entry.id entry.scheduledAt entry.interval]
  | cancelled (id : Nat) (removed : Multiset (TimerEntry Message)) :
      (∀ entry ∈ removed, entry.id = id) →
      live before = live after + removed →
      Effect before after [.cancelled id]
  | firedOnce (entry : TimerEntry Message) (pass : Nat) :
      entry.interval = none →
      entry.scheduledAt ≤ pass →
      pass ≤ before.now →
      live before = entry ::ₘ live after →
      Effect before after
        [.fired entry.id entry.scheduledAt entry.interval pass before.now]
  | firedPeriodic (entry : TimerEntry Message) (pass : Nat) :
      entry.interval.isSome = true →
      entry.scheduledAt ≤ pass →
      pass ≤ before.now →
      entry ∈ live before →
      live after = live before →
      Effect before after
        [.fired entry.id entry.scheduledAt entry.interval pass before.now]
  | rearmed
      (entry : TimerEntry Message) (interval : Nat)
      (others : Multiset (TimerEntry Message)) :
      entry.interval = some interval →
      live before = entry ::ₘ others →
      live after =
        { entry with scheduledAt := entry.scheduledAt + interval } ::ₘ
          others →
      Effect before after
        [.rearmed entry.id (entry.scheduledAt + interval)]
  | overflowed (id : Nat) :
      live after ≤ live before →
      Effect before after [.overflowed id]
  | poisoned :
      before.poisoned = true →
      live after ≤ live before →
      Effect before after [.foundPoisoned]

/-- A thread that loses its batch leaves the listed entries live. -/
theorem live_le_of_lost
    {before after : TimerService Message}
    (sameTimers : after.timers = before.timers)
    (lost : after.position.held = []) :
    live after ≤ live before := by
  rw [live, live, sameTimers, lost, Multiset.coe_nil, add_zero]
  exact Multiset.le_add_right _ _

/-- Steps issue identifiers and never take one back. -/
theorem unissued_mono
    {limit : Nat}
    {service after : TimerService Message}
    {label : Label Message}
    {events : List Event}
    (step :
      (machine limit Message).step? service label = some (after, events))
    {id : Nat}
    (unissued : Unissued after id) :
    Unissued service id := by
  have fewer
      {index : Nat}
      (claimed : id ∈ (service.inFlight.eraseIdx index).map Prod.fst) :
      id ∈ service.inFlight.map Prod.fst :=
    ((List.eraseIdx_sublist _ _).map Prod.fst).subset claimed
  cases outcome_of_step step with
  | newId call =>
      rcases unissued with beyond | claimed
      · exact .inl (Nat.le_of_succ_le beyond)
      · simp only [List.map_append, List.mem_append, List.map_cons,
          List.map_nil, List.mem_singleton] at claimed
        rcases claimed with older | newest
        · exact .inr older
        · exact .inl (Nat.le_of_eq newest.symm)
  | insertPoisoned index other pushed claimed
  | insertOverflowed index other pushed claimed
  | inserted index other pushed claimed =>
      exact unissued.imp_right fewer
  | _ => exact unissued

/-- The identifier of a call in flight is unissued until its lock section. -/
theorem inFlight_issues
    {service : TimerService Message}
    (sound : Sound service)
    {index id : Nat}
    {pushed : ScheduleRequest Message}
    (claimed : service.inFlight[index]? = some (id, pushed)) :
    Unissued service id ∧
      ¬ Unissued
        { service with inFlight := service.inFlight.eraseIdx index } id := by
  have member := List.mem_of_getElem? claimed
  refine ⟨.inr (List.mem_map_of_mem member), ?_⟩
  rintro (beyond | again)
  · exact absurd (sound.claimed _ member) (Nat.not_lt.mpr beyond)
  · rw [← List.eraseIdx_map] at again
    have here : (service.inFlight.map Prod.fst)[index]? = some id := by
      simp [claimed]
    obtain ⟨inBounds, value⟩ := List.getElem?_eq_some_iff.mp here
    have erased :
        (service.inFlight.map Prod.fst).eraseIdx index =
          (service.inFlight.map Prod.fst).erase id := by
      rw [← value, List.Nodup.erase_getElem sound.claimsDistinct]
    rw [erased] at again
    exact sound.claimsDistinct.not_mem_erase again

/-- What a step does to the live entries. -/
theorem step_effect
    {limit : Nat}
    {service after : TimerService Message}
    {label : Label Message}
    {events : List Event}
    (sound : Sound service)
    (step :
      (machine limit Message).step? service label = some (after, events)) :
    Effect service after events := by
  have position := sound.position
  cases outcome_of_step step with
  | insertPoisoned index id pushed claimed poisoned =>
      exact .poisoned poisoned le_rfl
  | insertOverflowed index id pushed claimed usable =>
      exact .overflowed id le_rfl
  | inserted index id pushed claimed usable =>
      obtain ⟨unissued, issued⟩ := inFlight_issues sound claimed
      refine .scheduled
        { id := id
          actorId := pushed.actorId
          scheduledAt := service.now + pushed.delay
          factory := pushed.factory
          interval := pushed.interval } unissued issued ?_
      simp only [live, ← Multiset.coe_add, Multiset.coe_singleton]
      rw [add_right_comm, add_comm, Multiset.singleton_add]
  | cancelPoisoned poisoned => exact .poisoned poisoned le_rfl
  | cancelled timerId usable =>
      refine .cancelled timerId
        (service.timers.filter (·.id = timerId)) (by simp) ?_
      have partitioned :
          (service.timers : Multiset (TimerEntry Message)) =
            retain timerId service.timers +
              service.timers.filter (·.id = timerId) := by
        rw [Multiset.coe_add]
        refine Multiset.coe_eq_coe.mpr
          ((List.filter_append_perm (·.id = timerId)
            service.timers).symm.trans ?_)
        simpa [retain] using List.perm_append_comm
      rw [live, partitioned, live, add_right_comm]
  | stopped shape | polled shape | passOver pass shape =>
      exact .quiet (by simp) (by simp [live, shape, ServicePosition.held])
  | scanPoisoned pass shape poisoned
  | rearmPoisoned pass entry interval due shape poisoned =>
      exact .poisoned poisoned (live_le_of_lost rfl rfl)
  | scanned pass shape usable =>
      refine .quiet (by simp [Event.isQuiet]) ?_
      simp only [live, shape, ServicePosition.held, Multiset.coe_nil,
        add_zero, Multiset.coe_add]
      exact Multiset.coe_eq_coe.mpr
        (List.perm_append_comm.trans
          (List.filter_append_perm (isDue pass) service.timers))
  | firedTwice pass entry due shape used =>
      rw [shape] at position
      obtain ⟨message, factory, called, -⟩ :=
        call?_of_fits (position.2 entry (by simp)).1
      simp [used] at called
  | fired pass entry due message factory shape called =>
      rw [shape] at position
      obtain ⟨passed, fitting⟩ := position
      obtain ⟨fits, entryDue⟩ := fitting entry (by simp)
      obtain ⟨other, same, calledToo, kept⟩ := call?_of_fits fits
      obtain ⟨rfl, rfl⟩ : message = other ∧ factory = same := by
        simpa [called] using calledToo
      cases interval : entry.interval with
      | none =>
          rw [← interval]
          refine .firedOnce entry pass interval entryDue passed ?_
          simp [live, shape, ServicePosition.held, interval]
      | some period =>
          have sameFactory := kept (by simp [interval])
          subst factory
          rw [← interval]
          refine .firedPeriodic entry pass (by simp [interval])
            entryDue passed ?_ ?_
          · simp [live, shape, ServicePosition.held]
          · change
              (service.timers : Multiset (TimerEntry Message)) +
                  (if entry.interval.isSome then entry :: due else due :
                    List (TimerEntry Message)) =
                live service
            simp [live, shape, ServicePosition.held, interval]
  | sendReturned pass entry message due shape =>
      refine .quiet (by simp [Event.isQuiet]) ?_
      cases interval : entry.interval <;>
        simp [live, shape, ServicePosition.held, interval]
  | rearmOverflowed pass entry interval due shape usable =>
      exact .overflowed entry.id (live_le_of_lost rfl rfl)
  | rearmed pass entry interval due shape usable fitting =>
      rw [shape] at position
      obtain ⟨batch, periodic, fits⟩ := position
      refine .rearmed entry interval (service.timers + due) periodic ?_ ?_
      · simp [live, shape, ServicePosition.held]
      · simp only [live, ServicePosition.held, ← periodic,
          ← Multiset.coe_add, Multiset.coe_singleton]
        rw [add_right_comm, add_comm, Multiset.singleton_add]
  | _ => exact .quiet (by simp) rfl

namespace Event

/-- A scheduling call returned this identifier. -/
def schedules (id : Nat) : Event → Bool
  | .scheduled other _ _ => decide (other = id)
  | _ => false

/-- The factory of this timer was called. -/
def fires (id : Nat) : Event → Bool
  | .fired other _ _ _ _ => decide (other = id)
  | _ => false

/-- The factory of this timer was called, and the timer is one-shot. -/
def firesOnce (id : Nat) : Event → Bool
  | .fired other _ interval _ _ => decide (other = id) && interval.isNone
  | _ => false

end Event

/-- How often a timer is in the list or among the extracted entries. -/
def pending (id : Nat) (service : TimerService Message) : Nat :=
  ((service.timers ++ service.position.held).map TimerEntry.id).count id

/-- How often the factory of a timer was called. -/
def firings (id : Nat) (log : List Event) : Nat :=
  log.countP (Event.fires id)

theorem pending_eq_count_live
    (id : Nat)
    (service : TimerService Message) :
    pending id service = ((live service).map TimerEntry.id).count id := by
  simp [pending, live]

/-- Quiet events neither schedule nor fire anything. -/
theorem countP_quiet
    {events : List Event}
    (silent : ∀ event ∈ events, event.isQuiet = true)
    (id : Nat) :
    events.countP (Event.firesOnce id) = 0 ∧
      events.countP (Event.schedules id) = 0 := by
  constructor <;>
    refine List.countP_eq_zero.mpr fun event member => ?_ <;>
    have quiet := silent event member <;>
    cases event <;> simp_all [Event.isQuiet, Event.firesOnce, Event.schedules]

/--
The balance of one timer over one step.  Something is lost only to a
cancellation, to an overflow, or on a poisoned mutex.
-/
theorem Effect.pending_balance
    {before after : TimerService Message}
    {events : List Event}
    (effect : Effect before after events)
    (id : Nat) :
    ∃ lost,
      pending id after + events.countP (Event.firesOnce id) + lost =
          pending id before + events.countP (Event.schedules id) ∧
        (.cancelled id ∉ events →
          (∀ other, .overflowed other ∉ events) →
          before.poisoned = false →
          lost = 0) := by
  simp only [pending_eq_count_live]
  cases effect with
  | quiet silent same =>
      obtain ⟨unfired, unscheduled⟩ := countP_quiet silent id
      exact ⟨0, by rw [same, unfired, unscheduled], fun _ _ _ => rfl⟩
  | scheduled entry unissued issued added =>
      refine ⟨0, ?_, fun _ _ _ => rfl⟩
      simp [added, Event.firesOnce, Event.schedules,
        Multiset.count_cons, eq_comm]
  | cancelled other removed named split =>
      refine ⟨(removed.map TimerEntry.id).count id, ?_, ?_⟩
      · simp [split, Event.firesOnce, Event.schedules]
      · intro kept _ _
        refine Multiset.count_eq_zero.mpr fun member => ?_
        obtain ⟨entry, removedMember, rfl⟩ := Multiset.mem_map.mp member
        simp [named entry removedMember] at kept
  | firedOnce entry pass oneShot _ _ gone =>
      refine ⟨0, ?_, fun _ _ _ => rfl⟩
      simp [gone, oneShot, Event.firesOnce, Event.schedules,
        Multiset.count_cons, eq_comm]
  | firedPeriodic entry pass periodic _ _ member same =>
      have notOnce : entry.interval.isNone = false := by
        cases shape : entry.interval <;> simp_all
      refine ⟨0, ?_, fun _ _ _ => rfl⟩
      simp [same, notOnce, Event.firesOnce, Event.schedules]
  | rearmed entry interval others periodic shapeBefore shapeAfter =>
      refine ⟨0, ?_, fun _ _ _ => rfl⟩
      simp [shapeBefore, shapeAfter, Event.firesOnce, Event.schedules]
  | overflowed other fewer =>
      obtain ⟨removed, split⟩ := Multiset.le_iff_exists_add.mp fewer
      refine ⟨(removed.map TimerEntry.id).count id, ?_, ?_⟩
      · simp [split, Event.firesOnce, Event.schedules]
      · intro _ noOverflow _
        exact (noOverflow other (by simp)).elim
  | poisoned broken fewer =>
      obtain ⟨removed, split⟩ := Multiset.le_iff_exists_add.mp fewer
      refine ⟨(removed.map TimerEntry.id).count id, ?_, ?_⟩
      · simp [split, Event.firesOnce, Event.schedules]
      · intro _ _ usable
        simp [broken] at usable

/-- The mutex is poisoned by an overflow only. -/
theorem poisoned_step
    {limit : Nat}
    {service after : TimerService Message}
    {label : Label Message}
    {events : List Event}
    (step :
      (machine limit Message).step? service label = some (after, events))
    (noOverflow : ∀ other, .overflowed other ∉ events)
    (usable : service.poisoned = false) :
    after.poisoned = false := by
  cases outcome_of_step step with
  | insertOverflowed index id pushed claimed =>
      exact (noOverflow id (by simp)).elim
  | rearmOverflowed pass entry interval due shape =>
      exact (noOverflow entry.id (by simp)).elim
  | _ => exact usable

/-- What the log of a run says about one timer and about the live entries. -/
structure Account
    (id : Nat)
    (log : List Event)
    (service : TimerService Message) : Prop where
  bounded :
    pending id service + log.countP (Event.firesOnce id) ≤
      log.countP (Event.schedules id)
  exact' :
    .cancelled id ∉ log →
    (∀ other, .overflowed other ∉ log) →
    service.poisoned = false ∧
      pending id service + log.countP (Event.firesOnce id) =
        log.countP (Event.schedules id)
  issuedOnce :
    log.countP (Event.schedules id) ≤ 1
  unissued :
    Unissued service id →
    log.countP (Event.schedules id) = 0
  liveScheduled :
    ∀ entry ∈ live service,
      ∃ deadline,
        .scheduled entry.id deadline entry.interval ∈ log ∧
          (entry.interval = none → entry.scheduledAt = deadline)
  firedScheduled :
    ∀ {fired deadline interval pass clock},
      .fired fired deadline interval pass clock ∈ log →
      deadline ≤ pass ∧ pass ≤ clock ∧
        ∃ scheduledAt,
          .scheduled fired scheduledAt interval ∈ log ∧
            (interval = none → deadline = scheduledAt)
  neverTwice :
    ∀ other, .firedTwice other ∉ log

theorem account_new
    (id now : Nat) :
    Account id [] (new Message now) where
  bounded := by simp [pending, new, ServicePosition.held]
  exact' := by simp [pending, new, ServicePosition.held]
  issuedOnce := by simp
  unissued := by simp
  liveScheduled := by simp [live, new, ServicePosition.held]
  firedScheduled := by simp
  neverTwice := by simp

/-- A step schedules a timer at most once, and issues its identifier then. -/
theorem Effect.schedules_count
    {before after : TimerService Message}
    {events : List Event}
    (effect : Effect before after events)
    (id : Nat) :
    events.countP (Event.schedules id) = 0 ∨
      events.countP (Event.schedules id) = 1 ∧
        Unissued before id ∧ ¬ Unissued after id := by
  cases effect with
  | quiet silent same =>
      exact .inl (countP_quiet silent id).2
  | scheduled entry unissued issued added =>
      by_cases same : entry.id = id
      · subst id
        exact .inr ⟨by simp [Event.schedules], unissued, issued⟩
      · exact .inl (by simp [Event.schedules, same])
  | _ =>
      exact .inl (by simp [Event.schedules])

/-- Live entries after a step were live before, scheduled now, or re-armed. -/
theorem Effect.live_cases
    {before after : TimerService Message}
    {events : List Event}
    (effect : Effect before after events)
    {entry : TimerEntry Message}
    (member : entry ∈ live after) :
    entry ∈ live before ∨
      .scheduled entry.id entry.scheduledAt entry.interval ∈ events ∨
      entry.interval.isSome = true ∧
        ∃ earlier ∈ live before,
          earlier.id = entry.id ∧ earlier.interval = entry.interval := by
  cases effect with
  | quiet silent same =>
      exact .inl (same ▸ member)
  | scheduled pushed unissued issued added =>
      rw [added] at member
      rcases Multiset.mem_cons.mp member with rfl | older
      · exact .inr (.inl (by simp))
      · exact .inl older
  | cancelled other removed named split =>
      exact .inl (split ▸ Multiset.mem_add.mpr (.inl member))
  | firedOnce fired pass oneShot _ _ gone =>
      exact .inl (gone ▸ Multiset.mem_cons_of_mem member)
  | firedPeriodic fired pass periodic _ _ _ same =>
      exact .inl (same ▸ member)
  | rearmed earlier interval others periodic shapeBefore shapeAfter =>
      rw [shapeAfter] at member
      rcases Multiset.mem_cons.mp member with rfl | other
      · refine .inr (.inr ⟨by simp [periodic], earlier, ?_, rfl, rfl⟩)
        rw [shapeBefore]
        exact Multiset.mem_cons_self _ _
      · exact .inl (shapeBefore ▸ Multiset.mem_cons_of_mem other)
  | overflowed other fewer =>
      exact .inl (Multiset.mem_of_le fewer member)
  | poisoned broken fewer =>
      exact .inl (Multiset.mem_of_le fewer member)

/-- A step fires live entries only, in a pass that found them due. -/
theorem Effect.fired_cases
    {before after : TimerService Message}
    {events : List Event}
    (effect : Effect before after events)
    {id deadline pass clock : Nat}
    {interval : Option Nat}
    (member : .fired id deadline interval pass clock ∈ events) :
    deadline ≤ pass ∧ pass ≤ clock ∧
      ∃ entry ∈ live before,
        entry.id = id ∧ entry.scheduledAt = deadline ∧
          entry.interval = interval := by
  cases effect with
  | quiet silent same =>
      have := silent _ member
      simp [Event.isQuiet] at this
  | firedOnce entry at' oneShot entryDue passed gone =>
      simp only [List.mem_singleton, Event.fired.injEq] at member
      obtain ⟨rfl, rfl, rfl, rfl, rfl⟩ := member
      exact ⟨entryDue, passed, entry,
        gone ▸ Multiset.mem_cons_self _ _, rfl, rfl, rfl⟩
  | firedPeriodic entry at' periodic entryDue passed here same =>
      simp only [List.mem_singleton, Event.fired.injEq] at member
      obtain ⟨rfl, rfl, rfl, rfl, rfl⟩ := member
      exact ⟨entryDue, passed, entry, here, rfl, rfl, rfl⟩
  | _ =>
      simp at member

/-- No step calls the factory of a one-shot timer that is used up. -/
theorem Effect.never_twice
    {before after : TimerService Message}
    {events : List Event}
    (effect : Effect before after events)
    (id : Nat) :
    .firedTwice id ∉ events := by
  cases effect with
  | quiet silent same =>
      intro member
      have := silent _ member
      simp [Event.isQuiet] at this
  | _ =>
      simp

/-- Every step keeps the account of every timer. -/
theorem account_step
    {limit id : Nat}
    {log events : List Event}
    {service after : TimerService Message}
    {label : Label Message}
    (account : Account id log service)
    (sound : Sound service)
    (step :
      (machine limit Message).step? service label = some (after, events)) :
    Account id (log ++ events) after := by
  have effect := step_effect sound step
  obtain ⟨lost, balance, nothingLost⟩ := effect.pending_balance id
  have counts := effect.schedules_count id
  have bounded := account.bounded
  have stillScheduled
      {fired deadline : Nat} {interval : Option Nat}
      (member : Event.scheduled fired deadline interval ∈ log) :
      Event.scheduled fired deadline interval ∈ log ++ events :=
    List.mem_append_left _ member
  refine {
    bounded := by
      rw [List.countP_append, List.countP_append]
      omega
    exact' := ?_
    issuedOnce := ?_
    unissued := ?_
    liveScheduled := ?_
    firedScheduled := ?_
    neverTwice := ?_
  }
  · intro kept noOverflow
    simp only [List.mem_append, not_or] at kept noOverflow
    obtain ⟨usable, balanced⟩ :=
      account.exact' kept.1 fun other => (noOverflow other).1
    have here := fun other => (noOverflow other).2
    have none := nothingLost kept.2 here usable
    refine ⟨poisoned_step step here usable, ?_⟩
    rw [List.countP_append, List.countP_append]
    omega
  · rw [List.countP_append]
    rcases counts with silent | ⟨once, unissued, issued⟩
    · rw [silent]
      exact account.issuedOnce
    · rw [once, account.unissued unissued]
  · intro unissued
    rw [List.countP_append, account.unissued (unissued_mono step unissued)]
    rcases counts with silent | ⟨once, before, issued⟩
    · rw [silent]
    · exact (issued unissued).elim
  · intro entry member
    rcases effect.live_cases member with
      older | scheduled | ⟨periodic, earlier, earlierLive, sameId, sameInterval⟩
    · obtain ⟨deadline, scheduled, same⟩ := account.liveScheduled entry older
      exact ⟨deadline, stillScheduled scheduled, same⟩
    · exact ⟨entry.scheduledAt, List.mem_append_right _ scheduled,
        fun _ => rfl⟩
    · obtain ⟨deadline, scheduled, same⟩ :=
        account.liveScheduled earlier earlierLive
      rw [sameId, sameInterval] at scheduled
      refine ⟨deadline, stillScheduled scheduled, fun oneShot => ?_⟩
      simp [oneShot] at periodic
  · intro fired deadline interval pass clock member
    rcases List.mem_append.mp member with older | newest
    · obtain ⟨due, passed, scheduledAt, scheduled, same⟩ :=
        account.firedScheduled older
      exact ⟨due, passed, scheduledAt, stillScheduled scheduled, same⟩
    · obtain ⟨due, passed, entry, entryLive, rfl, rfl, rfl⟩ :=
        effect.fired_cases newest
      obtain ⟨scheduledAt, scheduled, same⟩ :=
        account.liveScheduled entry entryLive
      exact ⟨due, passed, scheduledAt, stillScheduled scheduled, same⟩
  · intro other member
    rcases List.mem_append.mp member with older | newest
    · exact account.neverTwice other older
    · exact effect.never_twice other newest

/-- The invariant and every account hold at the end of every run. -/
theorem run_account
    {limit now : Nat}
    {log : List Event}
    {service : TimerService Message}
    (run :
      Machine.Run (machine limit Message) (new Message now) log service)
    (id : Nat) :
    Sound service ∧ Account id log service :=
  run.history (fun log service => Sound service ∧ Account id log service)
    (fun ⟨sound, account⟩ step =>
      ⟨sound_step sound step, account_step account sound step⟩)
    ⟨sound_new now, account_new id now⟩

/-- Elements picked out by a test that holds at most once are equal. -/
private theorem eq_of_countP_le_one
    {Item : Type*}
    {items : List Item}
    {test : Item → Bool}
    (once : items.countP test ≤ 1)
    {first second : Item}
    (firstMember : first ∈ items)
    (secondMember : second ∈ items)
    (firstHolds : test first = true)
    (secondHolds : test second = true) :
    first = second := by
  have firstPicked := List.mem_filter.mpr ⟨firstMember, firstHolds⟩
  have secondPicked := List.mem_filter.mpr ⟨secondMember, secondHolds⟩
  rw [List.countP_eq_length_filter] at once
  match shape : items.filter test with
  | [] =>
      simp [shape] at firstPicked
  | [only] =>
      rw [shape, List.mem_singleton] at firstPicked secondPicked
      exact firstPicked.trans secondPicked.symm
  | _ :: _ :: _ =>
      simp [shape] at once

namespace Account

variable {id : Nat} {log : List Event} {service : TimerService Message}

/-- A timer is scheduled once: with one deadline and one interval. -/
theorem scheduled_unique
    (account : Account id log service)
    {first second : Nat}
    {firstInterval secondInterval : Option Nat}
    (firstMember : .scheduled id first firstInterval ∈ log)
    (secondMember : .scheduled id second secondInterval ∈ log) :
    first = second ∧ firstInterval = secondInterval := by
  have same :=
    eq_of_countP_le_one account.issuedOnce firstMember secondMember
      (by simp [Event.schedules]) (by simp [Event.schedules])
  simpa using same

/-- The account of a scheduled timer speaks of exactly one scheduling. -/
theorem schedules_eq_one
    (account : Account id log service)
    {deadline : Nat}
    {interval : Option Nat}
    (member : .scheduled id deadline interval ∈ log) :
    log.countP (Event.schedules id) = 1 := by
  have positive : 0 < log.countP (Event.schedules id) :=
    List.countP_pos_iff.mpr ⟨_, member, by simp [Event.schedules]⟩
  have := account.issuedOnce
  omega

/-- All firings of a one-shot timer are one-shot firings. -/
theorem firings_eq
    (account : Account id log service)
    {deadline : Nat}
    (member : .scheduled id deadline none ∈ log) :
    firings id log = log.countP (Event.firesOnce id) := by
  refine List.countP_congr fun event eventMember => ?_
  cases event with
  | fired fired at' interval pass clock =>
      simp only [Event.fires, Event.firesOnce, decide_eq_true_eq,
        Bool.and_eq_true, Option.isNone_iff_eq_none]
      refine ⟨fun same => ⟨same, ?_⟩, fun both => both.1⟩
      subst same
      obtain ⟨_, _, scheduledAt, scheduled, _⟩ :=
        account.firedScheduled eventMember
      exact (account.scheduled_unique scheduled member).2
  | _ =>
      simp [Event.fires, Event.firesOnce]

/-- A periodic timer has no one-shot firing. -/
theorem firesOnce_eq_zero
    (account : Account id log service)
    {deadline interval : Nat}
    (member : .scheduled id deadline (some interval) ∈ log) :
    log.countP (Event.firesOnce id) = 0 := by
  refine List.countP_eq_zero.mpr fun event eventMember holds => ?_
  cases event with
  | fired fired at' period pass clock =>
      simp only [Event.firesOnce, Bool.and_eq_true, decide_eq_true_eq,
        Option.isNone_iff_eq_none] at holds
      obtain ⟨rfl, rfl⟩ := holds
      obtain ⟨_, _, scheduledAt, scheduled, _⟩ :=
        account.firedScheduled eventMember
      have := (account.scheduled_unique scheduled member).2
      simp at this
  | _ =>
      simp [Event.firesOnce] at holds

end Account

/-- What a state of the timer service owes to the log that led to it. -/
structure TimersAccounted
    (log : List Event)
    (service : TimerService Message) : Prop where
  /-- No identifier occurs twice among the list and the extracted entries. -/
  distinct :
    ((service.timers ++ service.position.held).map TimerEntry.id).Nodup
  /-- `expect("timer fired twice")` never fails. -/
  neverTwice :
    ∀ id, .firedTwice id ∉ log
  oneShotFiresOnce :
    ∀ {id deadline},
      .scheduled id deadline none ∈ log →
      firings id log ≤ 1
  oneShotNotEarly :
    ∀ {id deadline},
      .scheduled id deadline none ∈ log →
      ∀ {firedFor interval pass clock},
        .fired id firedFor interval pass clock ∈ log →
        firedFor = deadline ∧ deadline ≤ clock
  /-- Either still pending, or fired exactly once. -/
  oneShotKept :
    ∀ {id deadline},
      .scheduled id deadline none ∈ log →
      .cancelled id ∉ log →
      pending id service + firings id log = 1
  periodicKept :
    ∀ {id deadline interval},
      .scheduled id deadline (some interval) ∈ log →
      .cancelled id ∉ log →
      pending id service = 1

/-- Timers are neither lost nor duplicated while no time addition overflows. -/
theorem timers_accounted
    {limit now : Nat}
    {log : List Event}
    {service : TimerService Message}
    (run :
      Machine.Run (machine limit Message) (new Message now) log service)
    (noOverflow : ∀ id, .overflowed id ∉ log) :
    TimersAccounted log service where
  distinct := by
    refine List.nodup_iff_count_le_one.mpr fun id => ?_
    have account := (run_account run id).2
    have bounded := account.bounded
    have once := account.issuedOnce
    unfold pending at bounded
    omega
  neverTwice := (run_account run 0).2.neverTwice
  oneShotFiresOnce {id deadline} member := by
    have account := (run_account run id).2
    have bounded := account.bounded
    have once := account.issuedOnce
    rw [account.firings_eq member]
    omega
  oneShotNotEarly {id deadline} member := by
    intro firedFor interval pass clock fired
    have account := (run_account run id).2
    obtain ⟨due, passed, scheduledAt, scheduled, same⟩ :=
      account.firedScheduled fired
    obtain ⟨rfl, rfl⟩ := account.scheduled_unique scheduled member
    obtain rfl := same rfl
    exact ⟨rfl, due.trans passed⟩
  oneShotKept {id deadline} member kept := by
    have account := (run_account run id).2
    rw [account.firings_eq member, (account.exact' kept noOverflow).2]
    exact account.schedules_eq_one member
  periodicKept {id deadline interval} member kept := by
    have account := (run_account run id).2
    have balanced := (account.exact' kept noOverflow).2
    rw [account.firesOnce_eq_zero member,
      account.schedules_eq_one member] at balanced
    exact balanced

/--
A one-shot and a periodic timer become due in one pass; the one-shot timer has
fired and the periodic one is fired but not yet back in the list.
-/
def passInProgress : List (Label String) :=
  [.newId (.serviceTimer 5 ⟨1⟩ "wake up"),
    .newId (.handleInterval 3 ⟨1⟩ "tick"),
    .insert 0, .insert 0, .clock 10,
    .service, .service, .service, .sendReturns, .service, .sendReturns]

theorem timers_accounted_passInProgress :
    ∃ service,
      (machine 1000 String).run? (new String 0) passInProgress =
          some (service,
            [.scheduled 0 5 none, .scheduled 1 3 (some 3),
              .extracted [0, 1], .fired 0 5 none 10 10, .delivered 0,
              .fired 1 3 (some 3) 10 10, .delivered 1]) ∧
        service.timers = [] ∧
        service.position.held.map TimerEntry.id = [1] ∧
        TimersAccounted
          [.scheduled 0 5 none, .scheduled 1 3 (some 3),
            .extracted [0, 1], .fired 0 5 none 10 10, .delivered 0,
            .fired 1 3 (some 3) 10 10, .delivered 1] service := by
  obtain ⟨service, executed, emptied, held⟩ :
      ∃ service,
        (machine 1000 String).run? (new String 0) passInProgress =
            some (service,
              [.scheduled 0 5 none, .scheduled 1 3 (some 3),
                .extracted [0, 1], .fired 0 5 none 10 10, .delivered 0,
                .fired 1 3 (some 3) 10 10, .delivered 1]) ∧
          service.timers = [] ∧
          service.position.held.map TimerEntry.id = [1] :=
    ⟨_, rfl, rfl, rfl⟩
  exact ⟨service, executed, emptied, held,
    timers_accounted (Machine.run?_sound _ executed) (by simp)⟩

end Runact.TimerService
