import Runact.Progress
import Runact.TimerLifecycle

namespace Runact

/-!
# Due timers fire

The service thread polls: it never waits for a deadline, but looks at the clock
once in each pass.  So a timer fires in the first pass that begins after its
deadline, or in the one under way, as long as sends return, and unless it is
cancelled or the list poisoned before.  `shutdown` waits for the end of the pass
under way; what is in the list then never fires.
-/

universe u

variable {Message : Type u}

namespace ServicePosition

/-- The thread has left its loop. -/
def isOver : ServicePosition Message → Bool
  | .stopped => true
  | .panicked => true
  | _ => false

/-- What is left to do for the timer that was fired last. -/
def errand : ServicePosition Message → Nat
  | .sending .. => 2
  | .rearming .. => 1
  | _ => 0

/-- How much is left of a pass. -/
def untilPolling : ServicePosition Message → ℕ ×ₗ ℕ ×ₗ ℕ
  | .scanning _ => toLex (2, toLex (0, 0))
  | .polling => toLex (0, toLex (0, 0))
  | position =>
      toLex (1, toLex (position.unfired.length, position.errand))

/-- One for a thread that is about to scan the list, else zero. -/
def mayScan : ServicePosition Message → Nat
  | .scanning _ => 1
  | _ => 0

open Classical in
/-- How far the thread is from firing an entry that is due. -/
noncomputable def untilFired
    (entry : TimerEntry Message)
    (position : ServicePosition Message) : ℕ ×ₗ ℕ ×ₗ ℕ :=
  if entry ∈ position.unfired then
    toLex (0, toLex (position.unfired.idxOf entry, position.errand))
  else
    match position with
    | .scanning pass =>
        if entry.scheduledAt ≤ pass then
          toLex (1, toLex (0, 0))
        else
          toLex (4, toLex (0, 0))
    | .polling => toLex (2, toLex (0, 0))
    | position =>
        toLex (3, toLex (position.unfired.length, position.errand))

end ServicePosition

namespace TimerService

/-- The step is one of the service thread. -/
def Label.isThread : Label Message → Bool
  | .service => true
  | .sendReturns => true
  | _ => false

/-- The thread is in its loop, and the entry in the list or in its batch. -/
structure Awaits
    (entry : TimerEntry Message)
    (service : TimerService Message) : Prop where
  going : service.position.isOver = false
  there : entry ∈ service.timers ∨ entry ∈ service.position.unfired

section Fires

variable {limit : Nat} {before after : TimerService Message}
  {label : Label Message} {events : List Event} {entry : TimerEntry Message}

/-- The thread can always take a step; a send can always return. -/
theorem thread_enabled
    (going : before.position.isOver = false) :
    (machine limit Message).Enabled before Label.isThread := by
  cases position : before.position with
  | stopped | panicked =>
      rw [position] at going
      cases going
  | sending pass fired message due =>
      refine ⟨.sendReturns, ?_⟩
      simp [Label.isThread, machine, position]
  | polling =>
      refine ⟨.service, ?_⟩
      cases stop : before.stop <;>
        simp [Label.isThread, machine, serviceStep?, position, stop]
  | scanning pass =>
      refine ⟨.service, ?_⟩
      cases poisoned : before.poisoned <;>
        simp [Label.isThread, machine, serviceStep?, position, poisoned]
  | delivering pass due =>
      refine ⟨.service, ?_⟩
      cases due with
      | nil => simp [Label.isThread, machine, serviceStep?, position]
      | cons fired due =>
          cases called : fired.factory.call? <;>
            simp [Label.isThread, machine, serviceStep?, position, called]
  | rearming pass fired interval due =>
      refine ⟨.service, ?_⟩
      cases poisoned : before.poisoned
      · cases added : addDuration limit fired.scheduledAt interval <;>
          simp [Label.isThread, machine, serviceStep?, position, poisoned,
            added]
      · simp [Label.isThread, machine, serviceStep?, position, poisoned]

/-- Callers of the service leave its thread alone, and an entry that they do
not cancel in the list. -/
theorem step_caller
    (caller : label.isThread = false)
    (step :
      (machine limit Message).step? before label = some (after, events)) :
    after.position = before.position ∧
      before.now ≤ after.now ∧
      ∀ entry ∈ before.timers,
        label ≠ .cancel entry.id → entry ∈ after.timers := by
  cases label with
  | service | sendReturns => cases caller
  | clock later =>
      simp only [machine, Option.ite_none_right_eq_some,
        Option.some.injEq, Prod.mk.injEq] at step
      obtain ⟨forward, rfl, -⟩ := step
      exact ⟨rfl, forward, fun entry member _ => member⟩
  | newId call | setStop =>
      cases step
      exact ⟨rfl, le_refl _, fun entry member _ => member⟩
  | cancel timerId =>
      simp only [machine] at step
      split at step <;> cases step
      · exact ⟨rfl, le_refl _, fun entry member _ => member⟩
      · refine ⟨rfl, le_refl _, fun entry member kept => ?_⟩
        have different : entry.id ≠ timerId := by
          rintro rfl
          exact kept rfl
        simpa [retain] using ⟨member, different⟩
  | insert index =>
      simp only [machine] at step
      split at step
      · cases step
      · simp only [insertStep, Option.some.injEq] at step
        split at step
        · cases step
          exact ⟨rfl, le_refl _, fun entry member _ => member⟩
        · split at step <;> cases step
          · exact ⟨rfl, le_refl _, fun entry member _ => member⟩
          · exact ⟨rfl, le_refl _, fun entry member _ =>
              List.mem_append_left _ member⟩

/-- The entry was fired, in a pass that found it due. -/
def Fired (entry : TimerEntry Message) (events : List Event) : Prop :=
  ∃ pass clock,
    entry.scheduledAt ≤ pass ∧
      .fired entry.id entry.scheduledAt entry.interval pass clock ∈ events

/-- What a step of the thread does, with a list that is not poisoned and no
stop flag. -/
inductive ThreadStep (before : TimerService Message) :
    TimerService Message → List Event → Prop where
  | polled :
      before.position = .polling →
      ThreadStep before { before with position := .scanning before.now } []
  | scanned (pass : Nat) (events : List Event) :
      before.position = .scanning pass →
      ThreadStep before
        { before with
          timers := before.timers.filter fun entry => !isDue pass entry
          position :=
            .delivering pass (before.timers.filter (isDue pass)) }
        events
  | passOver (pass : Nat) :
      before.position = .delivering pass [] →
      ThreadStep before { before with position := .polling } []
  | fired
      (pass : Nat) (entry changed : TimerEntry Message)
      (due : List (TimerEntry Message)) (message : Message) :
      before.position = .delivering pass (entry :: due) →
      ThreadStep before
        { before with position := .sending pass changed message due }
        [.fired entry.id entry.scheduledAt entry.interval pass before.now]
  | sendReturned
      (pass : Nat) (entry : TimerEntry Message) (message : Message)
      (due : List (TimerEntry Message))
      (position : ServicePosition Message)
      (events : List Event) :
      before.position = .sending pass entry message due →
      position = .delivering pass due ∨
        (∃ interval, position = .rearming pass entry interval due) →
      ThreadStep before { before with position := position } events
  | rearmed
      (pass : Nat) (entry changed : TimerEntry Message) (interval : Nat)
      (due : List (TimerEntry Message)) (events : List Event) :
      before.position = .rearming pass entry interval due →
      ThreadStep before
        { before with
          timers := before.timers ++ [changed]
          position := .delivering pass due }
        events

theorem threadStep_of_step
    (sound : Sound before)
    (running : before.stop = false)
    (intact : after.poisoned = false)
    (own : label.isThread = true)
    (step :
      (machine limit Message).step? before label = some (after, events)) :
    ThreadStep before after events := by
  cases label with
  | clock | newId | insert | cancel | setStop => cases own
  | sendReturns =>
      simp only [machine] at step
      split at step
      · rename_i pass entry message due position
        cases step
        refine .sendReturned pass entry message due _ _ position ?_
        cases entry.interval
        · exact .inl rfl
        · exact .inr ⟨_, rfl⟩
      · cases step
  | service =>
      simp only [machine, serviceStep?] at step
      split at step
      case h_1 position =>
        split at step <;> cases step
        · rename_i stopping
          rw [running] at stopping
          cases stopping
        · exact .polled position
      case h_2 pass position =>
        split at step <;> cases step
        · rename_i poisoned
          rw [poisoned] at intact
          cases intact
        · simp only [scan_eq]
          exact .scanned pass _ position
      case h_3 pass position =>
        cases step
        exact .passOver pass position
      case h_4 pass entry due position =>
        have batch := sound.position
        rw [position] at batch
        obtain ⟨message, factory, called, -⟩ :=
          call?_of_fits (batch.2 entry List.mem_cons_self).1
        rw [called] at step
        cases step
        exact .fired pass entry _ due message position
      case h_5 => cases step
      case h_6 pass entry interval due position =>
        split at step
        · rename_i poisoned
          cases step
          rw [poisoned] at intact
          cases intact
        · split at step <;> cases step
          · cases intact
          · exact .rearmed pass entry _ interval due _ position
      case h_7 => cases step
      case h_8 => cases step

/-- The thread fires the entry, or comes closer to it once it is due. -/
theorem ThreadStep.awaits
    (sound : Sound before)
    (awaits : Awaits entry before)
    (step : ThreadStep before after events) :
    Fired entry events ∨
      Awaits entry after ∧
        before.now ≤ after.now ∧
        (entry.scheduledAt ≤ before.now →
          after.position.untilFired entry <
            before.position.untilFired entry) := by
  obtain ⟨going, there⟩ := awaits
  cases step with
  | polled position =>
      refine .inr ⟨⟨rfl, ?_⟩, le_refl _, fun passed => ?_⟩
      · refine .inl (there.resolve_right ?_)
        rw [position]
        exact List.not_mem_nil
      · rw [position]
        simp [ServicePosition.untilFired, ServicePosition.unfired, passed,
          Prod.Lex.toLex_lt_toLex]
  | scanned pass events position =>
      have listed : entry ∈ before.timers := by
        refine there.resolve_right ?_
        rw [position]
        exact List.not_mem_nil
      by_cases found : entry.scheduledAt ≤ pass
      · have extracted : entry ∈ before.timers.filter (isDue pass) := by
          simp [isDue, listed, found]
        refine .inr ⟨⟨rfl, .inr extracted⟩, le_refl _, fun _ => ?_⟩
        rw [position]
        simp [ServicePosition.untilFired, ServicePosition.unfired,
          Prod.Lex.toLex_lt_toLex, found, extracted]
      · have left :
            entry ∈ before.timers.filter fun entry => !isDue pass entry := by
          simp [isDue, listed, found]
        refine .inr ⟨⟨rfl, .inl left⟩, le_refl _, fun _ => ?_⟩
        rw [position]
        simp [ServicePosition.untilFired, ServicePosition.unfired,
          Prod.Lex.toLex_lt_toLex, found, isDue]
  | passOver pass position =>
      refine .inr ⟨⟨rfl, ?_⟩, le_refl _, fun _ => ?_⟩
      · refine .inl (there.resolve_right ?_)
        rw [position]
        exact List.not_mem_nil
      · rw [position]
        simp [ServicePosition.untilFired, ServicePosition.unfired,
          Prod.Lex.toLex_lt_toLex]
  | fired pass first changed due message position =>
      by_cases same : first = entry
      · subst same
        have batch := sound.position
        rw [position] at batch
        exact .inl ⟨pass, before.now,
          (batch.2 first List.mem_cons_self).2, List.mem_cons_self⟩
      · refine .inr ⟨⟨rfl, ?_⟩, le_refl _, fun _ => ?_⟩
        · refine there.imp_right fun batched => ?_
          rw [position] at batched
          exact (List.mem_cons.mp batched).resolve_left (Ne.symm same)
        · rw [position]
          by_cases batched : entry ∈ due <;>
            simp [ServicePosition.untilFired, ServicePosition.unfired,
              Prod.Lex.toLex_lt_toLex, batched, same, Ne.symm same,
              List.idxOf_cons_ne]
  | sendReturned pass first message due next events position onward =>
      have batch : next.unfired = before.position.unfired := by
        rw [position]
        rcases onward with rfl | ⟨interval, rfl⟩ <;> rfl
      refine .inr ⟨⟨?_, ?_⟩, le_refl _, fun _ => ?_⟩
      · rcases onward with rfl | ⟨interval, rfl⟩ <;> rfl
      · exact there.imp_right fun batched => batch ▸ batched
      · rw [position]
        rcases onward with rfl | ⟨interval, rfl⟩ <;>
          by_cases batched : entry ∈ due <;>
          simp [ServicePosition.untilFired, ServicePosition.unfired,
            ServicePosition.errand, Prod.Lex.toLex_lt_toLex, batched]
  | rearmed pass first changed interval due events position =>
      rw [position] at there
      refine .inr ⟨⟨rfl, there.imp_left (List.mem_append_left _)⟩,
        le_refl _, fun _ => ?_⟩
      rw [position]
      by_cases batched : entry ∈ due <;>
        simp [ServicePosition.untilFired, ServicePosition.unfired,
          ServicePosition.errand, Prod.Lex.toLex_lt_toLex, batched]

/-- An entry that is not cancelled fires, or its firing comes closer. -/
theorem Awaits.step
    (sound : Sound before)
    (awaits : Awaits entry before)
    (running : before.stop = false)
    (intact : after.poisoned = false)
    (kept : label ≠ .cancel entry.id)
    (step :
      (machine limit Message).step? before label = some (after, events)) :
    Fired entry events ∨
      (Awaits entry after ∧ before.now ≤ after.now) ∧
        (entry.scheduledAt ≤ before.now →
          after.position.untilFired entry ≤
              before.position.untilFired entry ∧
            (label.isThread = true →
              after.position.untilFired entry <
                before.position.untilFired entry)) := by
  cases own : label.isThread with
  | true =>
      have inside := threadStep_of_step sound running intact own step
      refine (inside.awaits sound awaits).imp_right fun moved => ?_
      obtain ⟨still, forward, closer⟩ := moved
      exact ⟨⟨still, forward⟩, fun passed =>
        ⟨(closer passed).le, fun _ => closer passed⟩⟩
  | false =>
      obtain ⟨position, forward, members⟩ := step_caller own step
      refine .inr ⟨⟨⟨?_, ?_⟩, forward⟩, fun _ => ⟨?_, by simp⟩⟩
      · rw [position]
        exact awaits.going
      · rw [position]
        exact awaits.there.imp_left fun listed => members entry listed kept
      · rw [position]

/-- The stop flag stays set, and a poisoned list poisoned. -/
theorem step_disturbed
    (step :
      (machine limit Message).step? before label = some (after, events)) :
    (before.stop = true → after.stop = true) ∧
      (before.poisoned = true → after.poisoned = true) := by
  cases outcome_of_step step <;> simp_all

/-- The thread leaves its loop only where it is told to, or meets a panic. -/
theorem going_of_run
    {now : Nat}
    {log : List Event}
    {service : TimerService Message}
    (run :
      Machine.Run (machine limit Message) (new Message now) log service)
    (running : service.stop = false)
    (intact : service.poisoned = false) :
    service.position.isOver = false := by
  have kept :=
    run.invariant
      (fun service =>
        Sound service ∧
          (service.stop = false →
            service.poisoned = false →
            service.position.isOver = false))
      (fun {before label after events} held step => by
        refine ⟨sound_step held.1 step, fun running intact => ?_⟩
        have runningBefore : before.stop = false :=
          Bool.eq_false_iff.mpr fun stopped =>
            Bool.eq_false_iff.mp running ((step_disturbed step).1 stopped)
        have intactBefore : before.poisoned = false :=
          Bool.eq_false_iff.mpr fun poisoned =>
            Bool.eq_false_iff.mp intact ((step_disturbed step).2 poisoned)
        have going := held.2 runningBefore intactBefore
        cases own : label.isThread with
        | false => rw [(step_caller own step).1]; exact going
        | true =>
            cases threadStep_of_step held.1 runningBefore intact own step with
            | sendReturned pass first message due next events position
                onward =>
                rcases onward with rfl | ⟨interval, rfl⟩ <;> rfl
            | _ => rfl)
      ⟨sound_new now, fun _ _ => rfl⟩
  exact kept.2 running intact

/--
An entry of the list fires in a pass that is made after its deadline, however
the callers of the service and its thread are scheduled: if the clock gets
there, sends return and the thread is not left alone for ever, and if meanwhile
nobody cancels the timer, stops the service or poisons the list.
-/
theorem timer_fires
    (execution : Machine.Execution (machine limit Message))
    (fair : execution.Fair Label.isThread)
    {time now : Nat}
    {log : List Event}
    (reached :
      Machine.Run (machine limit Message) (new Message now) log
        (execution.states time))
    (listed : entry ∈ (execution.states time).timers)
    (clock :
      ∃ later, time ≤ later ∧
        entry.scheduledAt ≤ (execution.states later).now)
    (undisturbed :
      ∀ later, time ≤ later →
        (execution.states later).stop = false ∧
          (execution.states later).poisoned = false ∧
          execution.labels later ≠ .cancel entry.id) :
    ∃ later, time ≤ later ∧ Fired entry (execution.events later) := by
  by_contra never
  have unfired (later : Nat) (notBefore : time ≤ later) :
      ¬ Fired entry (execution.events later) :=
    fun fired => never ⟨later, notBefore, fired⟩
  have steps (later : Nat) (notBefore : time ≤ later) :=
    undisturbed (later + 1) (notBefore.trans (Nat.le_succ later))
  -- unless it fires, the entry stays in the list or in the batch
  have awaits (later : Nat) (notBefore : time ≤ later) :
      Sound (execution.states later) ∧
        Awaits entry (execution.states later) := by
    induction later, notBefore using Nat.le_induction with
    | base =>
        obtain ⟨running, intact, -⟩ := undisturbed time (le_refl time)
        exact ⟨(run_account reached entry.id).1,
          going_of_run reached running intact, .inl listed⟩
    | succ later notBefore inductionHypothesis =>
        obtain ⟨sound, awaits⟩ := inductionHypothesis
        obtain ⟨running, -, kept⟩ := undisturbed later notBefore
        have step := execution.valid later
        have moved :=
          (awaits.step sound running (steps later notBefore).2.1 kept
            step).resolve_left (unfired later notBefore)
        exact ⟨sound_step sound step, moved.1.1⟩
  obtain ⟨late, notBefore, passed⟩ := clock
  obtain ⟨-, -, impossible⟩ : ∃ later, late ≤ later ∧ False := by
    apply fair.reaches
      (fun service =>
        Awaits entry service ∧ entry.scheduledAt ≤ service.now)
      (fun _ => False)
      (fun service => service.position.untilFired entry)
    · rintro later since ⟨stillAwaits, stillPassed⟩
      have after := notBefore.trans since
      obtain ⟨running, -, kept⟩ := undisturbed later after
      have moved :=
        (stillAwaits.step (awaits later after).1 running
          (steps later after).2.1 kept (execution.valid later)).resolve_left
          (unfired later after)
      exact .inr ⟨⟨moved.1.1, stillPassed.trans moved.1.2⟩,
        moved.2 stillPassed⟩
    · rintro service ⟨stillAwaits, -⟩
      exact thread_enabled stillAwaits.going
    · exact ⟨(awaits late notBefore).2, passed⟩
  exact impossible

/-! ## The service is shut down -/

/-- A pass took the due entries out of the list. -/
def Event.isExtracted : Event → Bool
  | .extracted _ => true
  | _ => false

/-- A timer fired, or its send returned. -/
def Event.isFiring : Event → Bool
  | .fired .. => true
  | .delivered _ => true
  | _ => false

/-- With the stop flag set, the thread begins no further pass and comes closer
to its end. -/
theorem step_stopping
    (stopping : before.stop = true)
    (own : label.isThread = true)
    (step :
      (machine limit Message).step? before label = some (after, events)) :
    events.countP Event.isExtracted + after.position.mayScan ≤
        before.position.mayScan ∧
      (after.position.isOver = true ∨
        after.position.untilPolling < before.position.untilPolling) := by
  cases label with
  | clock | newId | insert | cancel | setStop => cases own
  | sendReturns =>
      simp only [machine] at step
      split at step
      · rename_i pass entry message due position
        cases step
        rw [position]
        cases entry.interval <;>
          simp [Event.isExtracted, ServicePosition.mayScan,
            ServicePosition.untilPolling, ServicePosition.unfired,
            ServicePosition.errand, Prod.Lex.toLex_lt_toLex]
      · cases step
  | service =>
      simp only [machine, serviceStep?] at step
      split at step
      case h_1 position =>
        rw [if_pos stopping] at step
        cases step
        rw [position]
        exact ⟨le_refl _, .inl rfl⟩
      case h_2 pass position =>
        rw [position]
        split at step <;> cases step
        · exact ⟨by simp [Event.isExtracted, ServicePosition.mayScan], .inl rfl⟩
        · refine ⟨by simp [Event.isExtracted, ServicePosition.mayScan],
            .inr ?_⟩
          simp [ServicePosition.untilPolling, Prod.Lex.toLex_lt_toLex]
      case h_3 pass position =>
        cases step
        rw [position]
        refine ⟨le_refl _, .inr ?_⟩
        simp [ServicePosition.untilPolling, Prod.Lex.toLex_lt_toLex]
      case h_4 pass entry due position =>
        rw [position]
        split at step <;> cases step
        · exact ⟨by simp [Event.isExtracted, ServicePosition.mayScan], .inl rfl⟩
        · refine ⟨by simp [Event.isExtracted, ServicePosition.mayScan],
            .inr ?_⟩
          simp [ServicePosition.untilPolling, ServicePosition.unfired,
            Prod.Lex.toLex_lt_toLex]
      case h_5 => cases step
      case h_6 pass entry interval due position =>
        rw [position]
        split at step
        · cases step
          exact ⟨by simp [Event.isExtracted, ServicePosition.mayScan], .inl rfl⟩
        · split at step <;> cases step
          · exact ⟨by simp [Event.isExtracted, ServicePosition.mayScan], .inl rfl⟩
          · refine ⟨by simp [Event.isExtracted, ServicePosition.mayScan],
              .inr ?_⟩
            simp [ServicePosition.untilPolling, ServicePosition.unfired,
              ServicePosition.errand, Prod.Lex.toLex_lt_toLex]
      case h_7 => cases step
      case h_8 => cases step

/-- Callers of the service neither scan nor fire. -/
theorem caller_quiet
    (caller : label.isThread = false)
    (step :
      (machine limit Message).step? before label = some (after, events)) :
    events.countP Event.isExtracted = 0 ∧
      events.countP Event.isFiring = 0 := by
  cases label with
  | service | sendReturns => cases caller
  | clock later =>
      simp only [machine, Option.ite_none_right_eq_some,
        Option.some.injEq, Prod.mk.injEq] at step
      obtain ⟨forward, rfl, rfl⟩ := step
      exact ⟨rfl, rfl⟩
  | newId call | setStop =>
      cases step
      exact ⟨rfl, rfl⟩
  | cancel timerId =>
      simp only [machine] at step
      split at step <;> cases step <;> exact ⟨rfl, rfl⟩
  | insert index =>
      simp only [machine] at step
      split at step
      · cases step
      · simp only [insertStep, Option.some.injEq] at step
        split at step
        · cases step
          exact ⟨rfl, rfl⟩
        · split at step <;> cases step <;> exact ⟨rfl, rfl⟩

/-- A thread that has left its loop takes no step. -/
theorem not_thread_enabled
    (gone : before.position.isOver = true) :
    ¬ (machine limit Message).Enabled before Label.isThread := by
  rintro ⟨label, after, events, own, step⟩
  cases position : before.position with
  | stopped | panicked =>
      cases label with
      | service | sendReturns =>
          simp [machine, serviceStep?, position] at step
      | _ => cases own
  | _ =>
      rw [position] at gone
      cases gone

/-- Once the thread has left its loop, nothing fires any more. -/
theorem run_over
    {final : TimerService Message}
    {log : List Event}
    (gone : before.position.isOver = true)
    (run : Machine.Run (machine limit Message) before log final) :
    final.position.isOver = true ∧ log.countP Event.isFiring = 0 := by
  have paid :=
    run.budget (fun service => service.position.isOver = true)
      Event.isFiring (fun _ => 0)
      (fun {before label after events} gone step => by
        have caller : label.isThread = false :=
          Bool.eq_false_iff.mpr fun own =>
            not_thread_enabled gone ⟨label, after, events, own, step⟩
        rw [(step_caller caller step).1, (caller_quiet caller step).2]
        exact ⟨gone, le_refl _⟩)
      gone
  exact ⟨paid.1, Nat.le_zero.mp paid.2⟩

/--
After `shutdown` has set the stop flag the service thread begins at most the
pass it has read the clock for, and where sends return and the thread is not
left alone for ever, it ends.  From then on nothing fires, whatever is in the
list or is scheduled later.
-/
theorem timer_shutdown_ends
    (execution : Machine.Execution (machine limit Message))
    (fair : execution.Fair Label.isThread)
    (time : Nat)
    (stopping : (execution.states time).stop = true) :
    (∀ log final,
      Machine.Run (machine limit Message) (execution.states time) log final →
      log.countP Event.isExtracted ≤ 1) ∧
      ∃ ended, time ≤ ended ∧
        ∀ log final,
          Machine.Run (machine limit Message) (execution.states ended)
            log final →
          final.position.isOver = true ∧
            log.countP Event.isFiring = 0 := by
  constructor
  · intro log final run
    have paid :=
      run.budget (fun service => service.stop = true) Event.isExtracted
        (fun service => service.position.mayScan)
        (fun {before label after events} stopping step => by
          refine ⟨(step_disturbed step).1 stopping, ?_⟩
          cases own : label.isThread with
          | true => exact (step_stopping stopping own step).1
          | false =>
              rw [(caller_quiet own step).1, (step_caller own step).1,
                Nat.zero_add])
        stopping
    have atMostOne :
        (execution.states time).position.mayScan ≤ 1 := by
      cases (execution.states time).position <;>
        simp [ServicePosition.mayScan]
    exact (Nat.le_add_right _ _).trans (paid.2.trans atMostOne)
  · obtain ⟨ended, notBefore, gone⟩ :
        ∃ ended, time ≤ ended ∧
          (execution.states ended).position.isOver = true := by
      cases gone : (execution.states time).position.isOver with
      | true => exact ⟨time, le_refl time, gone⟩
      | false =>
          apply fair.reaches
            (fun service =>
              service.stop = true ∧ service.position.isOver = false)
            (fun service => service.position.isOver = true)
            (fun service => service.position.untilPolling)
          · rintro later since ⟨stillStopping, going⟩
            have step := execution.valid later
            have stopped := (step_disturbed step).1 stillStopping
            cases own : (execution.labels later).isThread with
            | true =>
                have moved := (step_stopping stillStopping own step).2
                cases overNow :
                    (execution.states (later + 1)).position.isOver with
                | true => exact .inl rfl
                | false =>
                    have closer := moved.resolve_left (by simp [overNow])
                    exact .inr ⟨⟨stopped, rfl⟩, closer.le, fun _ => closer⟩
            | false =>
                rw [(step_caller own step).1]
                exact .inr ⟨⟨stopped, going⟩, le_refl _, by simp⟩
          · rintro service ⟨-, going⟩
            exact thread_enabled going
          · exact ⟨stopping, gone⟩
    exact ⟨ended, notBefore, fun log final run => run_over gone run⟩

end Fires

/-- A timer is scheduled, its deadline passes, and it fires. -/
def oneTimer : List (Label Nat) :=
  [.newId (.serviceTimer 5 ⟨1⟩ 7), .insert 0]

def itFires : List (Label Nat) :=
  [.service, .service, .clock 6, .service,
    .service, .service, .service, .sendReturns, .service]

/-- A pass that finds nothing due. -/
def emptyPass : List (Label Nat) :=
  [.service, .service, .service]

theorem timer_fires_oneTimer :
    ∃ (execution : Machine.Execution (machine 100 Nat)) (log : _) (later : _),
      (machine 100 Nat).run? (new Nat 0) oneTimer =
          some (execution.states 0, log) ∧
        ∃ pass clock,
          5 ≤ pass ∧ .fired 0 5 none pass clock ∈ execution.events later := by
  obtain ⟨set, log, final, later, executed, listed, onward, round, calm,
      late⟩ :
      ∃ set log final later,
        (machine 100 Nat).run? (new Nat 0) oneTimer = some (set, log) ∧
          { id := 0
            actorId := ⟨1⟩
            scheduledAt := 5
            factory := .once (some 7)
            interval := none } ∈ set.timers ∧
          (machine 100 Nat).run? set itFires = some (final, later) ∧
          (machine 100 Nat).run? final emptyPass =
            some (final, [.extracted []]) ∧
          (∀ step ∈
            (machine 100 Nat).taken set itFires ++
              (machine 100 Nat).taken final emptyPass,
            step.1.stop = false ∧ step.1.poisoned = false) ∧
          5 ≤ final.now :=
    ⟨_, _, _, _, rfl, .head _, rfl, rfl, by decide, by decide⟩
  obtain ⟨execution, rfl, rfl, among, fair⟩ :=
    Machine.Execution.exists_of_lasso itFires onward emptyPass
      (List.cons_ne_nil _ _) round
  have fairly : execution.Fair Label.isThread :=
    (fair _ _ (.inl rfl)).fair
  have kept (time : Nat) : execution.labels time ≠ .cancel 0 := by
    have listed := (List.mem_append.mp (among time)).imp
      Machine.Execution.label_of_taken Machine.Execution.label_of_taken
    intro cancels
    rw [cancels] at listed
    simp [itFires, emptyPass] at listed
  obtain ⟨later, -, pass, clock, passed, fired⟩ :=
    timer_fires execution fairly (Machine.run?_sound _ executed) listed
      ⟨_, Nat.zero_le _, late⟩
      fun time _ => ⟨(calm _ (among time)).1, (calm _ (among time)).2,
        kept time⟩
  exact ⟨execution, log, later, executed, pass, clock, passed, fired⟩

/-- The service is told to stop when the thread has read the clock. -/
def stoppedInPass : List (Label Nat) :=
  oneTimer ++ [.clock 6, .service, .setStop]

/-- The thread makes its pass, and ends. -/
def lastPass : List (Label Nat) :=
  [.service, .service, .sendReturns, .service, .service]

theorem timer_shutdown_ends_stoppedInPass :
    ∃ (execution : Machine.Execution (machine 100 Nat)) (log : _) (ended : _),
      (machine 100 Nat).run? (new Nat 0) stoppedInPass =
          some (execution.states 0, log) ∧
        (∀ later final,
          Machine.Run (machine 100 Nat) (execution.states 0) later final →
          later.countP Event.isExtracted ≤ 1) ∧
        (execution.states ended).position.isOver = true := by
  obtain ⟨stopped, log, final, later, executed, stopping, onward, idle,
      gone⟩ :
      ∃ stopped log final later,
        (machine 100 Nat).run? (new Nat 0) stoppedInPass =
            some (stopped, log) ∧
          stopped.stop = true ∧
          (machine 100 Nat).run? stopped lastPass = some (final, later) ∧
          (machine 100 Nat).step? final .setStop = some (final, []) ∧
          final.position.isOver = true :=
    ⟨_, _, _, _, rfl, rfl, rfl, rfl, rfl⟩
  obtain ⟨execution, rfl, fair⟩ :=
    Machine.Execution.exists_of_run? lastPass onward .setStop idle
  have fairly : execution.Fair Label.isThread :=
    (fair _ _ fun enabled => not_thread_enabled gone enabled.2).fair
  obtain ⟨atMostOne, ended, -, quiet⟩ :=
    timer_shutdown_ends execution fairly 0 stopping
  exact ⟨execution, log, ended, executed, atMostOne, (quiet _ _ .nil).1⟩

end TimerService

end Runact
