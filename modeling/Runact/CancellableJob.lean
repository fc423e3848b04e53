import Runact.Machine

namespace Runact

/-!
# One job that may be cancelled

A job is submitted, taken by a worker, and then goes through two checks of its
cancellation flag, one before and one after it runs; a single result is sent at
the end.  The flag can be raised at any time.  The facts that follow relate the
history of one job to these two checks, whatever the job and its results are.

This module is independent of any particular program.
-/

universe u v w

/-- `first` occurs in the log, with no `second` before it. -/
def Precedes
    {Event : Type u}
    (first second : Event)
    (log : List Event) : Prop :=
  ∃ earlier later,
    log = earlier ++ first :: later ∧ second ∉ earlier

namespace Precedes

variable {Event : Type u} {first second : Event} {log : List Event}

/-- What comes first occurs. -/
theorem mem
    (precedes : Precedes first second log) :
    first ∈ log := by
  obtain ⟨earlier, later, rfl, -⟩ := precedes
  simp

/-- The order of two events is settled by the first log that holds the earlier. -/
theorem of_snoc
    {event : Event}
    (precedes : Precedes first second (log ++ [event])) :
    Precedes first second log ∨ event = first ∧ second ∉ log := by
  obtain ⟨earlier, later, shape, absent⟩ := precedes
  rcases List.eq_nil_or_concat later with rfl | ⟨front, last, rfl⟩
  · obtain ⟨rfl, same⟩ := List.append_inj' shape rfl
    exact .inr ⟨by simpa using same, absent⟩
  · have regrouped :
        log ++ [event] = (earlier ++ first :: front) ++ [last] := by
      simpa using shape
    obtain ⟨rfl, -⟩ := List.append_inj' regrouped rfl
    exact .inl ⟨earlier, front, rfl, absent⟩

/-- Observing a log keeps the order of two events that are seen in full. -/
theorem flatMap
    {Event' : Type v}
    {observe : Event → List Event'}
    {first' second' : Event'}
    (precedes : Precedes first second log)
    (firstSeen : observe first = [first'])
    (secondSeen :
      ∀ event, second' ∈ observe event → event = second) :
    Precedes first' second' (log.flatMap observe) := by
  obtain ⟨earlier, later, rfl, absent⟩ := precedes
  refine
    ⟨earlier.flatMap observe, later.flatMap observe,
      by simp [firstSeen], fun member => absent ?_⟩
  obtain ⟨event, occurs, seen⟩ := List.mem_flatMap.mp member
  rw [← secondSeen event seen]
  exact occurs

end Precedes

namespace CancellableJob

variable {Outcome : Type v} {Result : Type w}

/-- Where a job stands. -/
inductive Phase (Outcome : Type v) (Result : Type w) where
  | absent
  | queued
  /-- Taken, the flag not checked yet. -/
  | checking
  /-- The first check has passed. -/
  | starting
  | running
  /-- The job has ended, the second check is still to come. -/
  | rechecking (outcome : Outcome)
  | sending (result : Result)
  | finished

/-- A job and its cancellation flag. -/
structure State (Outcome : Type v) (Result : Type w) where
  phase : Phase Outcome Result
  cancelled : Bool

/-- What the history of a job records. -/
inductive Event (Outcome : Type v) (Result : Type w) where
  | submitted
  | cancelCalled
  | taken
  | checked
  | started
  | ended (outcome : Outcome)
  | rechecked
  | sent (result : Result)

namespace Event

/-- The job is started. -/
def isStarted : Event Outcome Result → Bool
  | .started => true
  | _ => false

/-- A result is sent. -/
def isSent : Event Outcome Result → Bool
  | .sent _ => true
  | _ => false

end Event

/-- Scheduling choices. -/
inductive Label (Outcome : Type v) where
  /-- The next step on the way from submission to the sent result. -/
  | next
  /-- The running job ends. -/
  | finish (outcome : Outcome)
  /-- The job is dropped from the queue, or its result has no receiver. -/
  | lose
  | cancel

variable (report : Outcome → Result) (cancelledResult : Result)

/-- One step of a job: `report` turns how it ended into the result to send. -/
def step? :
    State Outcome Result → Label Outcome →
      Option (State Outcome Result × List (Event Outcome Result))
  | ⟨.absent, flag⟩, .next =>
      some (⟨.queued, flag⟩, [.submitted])
  | ⟨.queued, flag⟩, .next =>
      some (⟨.checking, flag⟩, [.taken])
  | ⟨.queued, flag⟩, .lose =>
      some (⟨.finished, flag⟩, [])
  | ⟨.checking, true⟩, .next =>
      some (⟨.sending cancelledResult, true⟩, [.checked])
  | ⟨.checking, false⟩, .next =>
      some (⟨.starting, false⟩, [.checked])
  | ⟨.starting, flag⟩, .next =>
      some (⟨.running, flag⟩, [.started])
  | ⟨.running, flag⟩, .finish outcome =>
      some (⟨.rechecking outcome, flag⟩, [.ended outcome])
  | ⟨.rechecking _, true⟩, .next =>
      some (⟨.sending cancelledResult, true⟩, [.rechecked])
  | ⟨.rechecking outcome, false⟩, .next =>
      some (⟨.sending (report outcome), false⟩, [.rechecked])
  | ⟨.sending result, flag⟩, .next =>
      some (⟨.finished, flag⟩, [.sent result])
  | ⟨.sending _, flag⟩, .lose =>
      some (⟨.finished, flag⟩, [])
  | ⟨.absent, _⟩, .cancel =>
      none
  | ⟨phase, _⟩, .cancel =>
      some (⟨phase, true⟩, [.cancelCalled])
  | _, _ =>
      none

/-- The machine of one job. -/
def machine :
    Machine (State Outcome Result) (Label Outcome) (Event Outcome Result) where
  step? := step? report cancelledResult

/-- A job nobody has submitted. -/
def initial : State Outcome Result where
  phase := .absent
  cancelled := false

/-- The steps of a job, one rule each. -/
inductive Moves :
    State Outcome Result → State Outcome Result →
      List (Event Outcome Result) → Prop where
  | submit (flag : Bool) :
      Moves ⟨.absent, flag⟩ ⟨.queued, flag⟩ [.submitted]
  | take (flag : Bool) :
      Moves ⟨.queued, flag⟩ ⟨.checking, flag⟩ [.taken]
  | loseJob (flag : Bool) :
      Moves ⟨.queued, flag⟩ ⟨.finished, flag⟩ []
  | skip :
      Moves ⟨.checking, true⟩ ⟨.sending cancelledResult, true⟩ [.checked]
  | pass :
      Moves ⟨.checking, false⟩ ⟨.starting, false⟩ [.checked]
  | start (flag : Bool) :
      Moves ⟨.starting, flag⟩ ⟨.running, flag⟩ [.started]
  | finish (flag : Bool) (outcome : Outcome) :
      Moves ⟨.running, flag⟩ ⟨.rechecking outcome, flag⟩ [.ended outcome]
  | discard (outcome : Outcome) :
      Moves ⟨.rechecking outcome, true⟩
        ⟨.sending cancelledResult, true⟩ [.rechecked]
  | keep (outcome : Outcome) :
      Moves ⟨.rechecking outcome, false⟩
        ⟨.sending (report outcome), false⟩ [.rechecked]
  | send (flag : Bool) (result : Result) :
      Moves ⟨.sending result, flag⟩ ⟨.finished, flag⟩ [.sent result]
  | loseResult (flag : Bool) (result : Result) :
      Moves ⟨.sending result, flag⟩ ⟨.finished, flag⟩ []
  | cancel (flag : Bool) (phase : Phase Outcome Result) :
      Moves ⟨phase, flag⟩ ⟨phase, true⟩ [.cancelCalled]

variable {report : Outcome → Result} {cancelledResult : Result}

/-- Every enabled step follows one of the rules. -/
theorem moves_of_step
    {before after : State Outcome Result}
    {label : Label Outcome}
    {events : List (Event Outcome Result)}
    (step :
      (machine report cancelledResult).step? before label =
        some (after, events)) :
    Moves report cancelledResult before after events := by
  simp only [machine] at step
  unfold step? at step
  split at step <;>
    first
      | (simp only [Option.some.injEq, Prod.mk.injEq] at step
         obtain ⟨rfl, rfl⟩ := step
         constructor)
      | cases step

/-- A submitted job can be cancelled wherever it stands. -/
theorem step_cancel
    {phase : Phase Outcome Result}
    (submitted : phase ≠ .absent)
    (flag : Bool) :
    (machine report cancelledResult).step? ⟨phase, flag⟩ .cancel =
      some (⟨phase, true⟩, [.cancelCalled]) := by
  cases phase with
  | absent => exact absurd rfl submitted
  | checking | rechecking outcome => cases flag <;> rfl
  | _ => rfl

/-- What the history of a job says about where it stands. -/
structure Told
    (report : Outcome → Result)
    (cancelledResult : Result)
    (log : List (Event Outcome Result))
    (state : State Outcome Result) : Prop where
  flag : state.cancelled = true ↔ .cancelCalled ∈ log
  startedOnce : log.countP Event.isStarted ≤ 1
  unstarted :
    match state.phase with
    | .absent | .queued | .checking | .starting => Event.started ∉ log
    | _ => True
  sentOnce : log.countP Event.isSent ≤ 1
  unsent :
    match state.phase with
    | .finished => True
    | _ => ∀ result, Event.sent result ∉ log
  /-- A start comes after the first check. -/
  passed :
    state.phase = .starting ∨ .started ∈ log →
    .checked ∈ log
  /-- A job that ended has run. -/
  ran :
    (state.phase = .running ∨ ∃ outcome, .ended outcome ∈ log) →
    .started ∈ log
  outcomeHeld :
    ∀ outcome, state.phase = .rechecking outcome → .ended outcome ∈ log
  /-- A result reports a cancellation or, after the second check, an end. -/
  reported :
    ∀ result,
      state.phase = .sending result ∨ .sent result ∈ log →
      result = cancelledResult ∧ .cancelCalled ∈ log ∨
        .rechecked ∈ log ∧
          ∃ outcome, result = report outcome ∧ .ended outcome ∈ log
  cancelledUnstarted :
    Precedes .cancelCalled .checked log →
    state.phase ≠ .starting ∧ .started ∉ log
  cancelledResultOnly :
    Precedes .cancelCalled .rechecked log →
    ∀ result,
      state.phase = .sending result ∨ .sent result ∈ log →
      result = cancelledResult
  /-- A result sent before any `cancel` is a report. -/
  sentEarly :
    ∀ result,
      Precedes (.sent result) .cancelCalled log →
      ∃ outcome, result = report outcome

/-- Before submission there is nothing to tell. -/
theorem told_initial :
    Told report cancelledResult [] (initial : State Outcome Result) where
  flag := by simp [initial]
  startedOnce := by simp
  unstarted := by simp [initial]
  sentOnce := by simp
  unsent := by simp [initial]
  passed := by simp [initial]
  ran := by simp [initial]
  outcomeHeld := by simp [initial]
  reported := by simp [initial]
  cancelledUnstarted precedes := by simpa using precedes.mem
  cancelledResultOnly precedes := by simpa using precedes.mem
  sentEarly _ precedes := by simpa using precedes.mem

theorem countP_isStarted_eq_zero
    {log : List (Event Outcome Result)}
    (unstarted : .started ∉ log) :
    log.countP Event.isStarted = 0 := by
  rw [List.countP_eq_zero]
  intro event member
  cases event with
  | started => exact absurd member unstarted
  | _ => simp [Event.isStarted]

theorem countP_isSent_eq_zero
    {log : List (Event Outcome Result)}
    (unsent : ∀ result, .sent result ∉ log) :
    log.countP Event.isSent = 0 := by
  rw [List.countP_eq_zero]
  intro event member
  cases event with
  | sent result => exact absurd member (unsent result)
  | _ => simp [Event.isSent]

/-- The job starts once: the start leaves the phases that precede it. -/
theorem Told.startedOnce_step
    {log events : List (Event Outcome Result)}
    {before after : State Outcome Result}
    (told : Told report cancelledResult log before)
    (moves : Moves report cancelledResult before after events) :
    (log ++ events).countP Event.isStarted ≤ 1 := by
  have once := told.startedOnce
  rw [List.countP_append]
  cases moves with
  | start flag =>
      have none := countP_isStarted_eq_zero told.unstarted
      simp [none, Event.isStarted]
  | _ => simpa [Event.isStarted] using once

/-- One result is sent: the sending leaves a phase only it leaves. -/
theorem Told.sentOnce_step
    {log events : List (Event Outcome Result)}
    {before after : State Outcome Result}
    (told : Told report cancelledResult log before)
    (moves : Moves report cancelledResult before after events) :
    (log ++ events).countP Event.isSent ≤ 1 := by
  have once := told.sentOnce
  rw [List.countP_append]
  cases moves with
  | send flag result =>
      have none := countP_isSent_eq_zero told.unsent
      simp [none, Event.isSent]
  | _ => simpa [Event.isSent] using once

/-- After a `cancel` that comes first, the first check lets nothing start. -/
theorem Told.cancelledUnstarted_step
    {log events : List (Event Outcome Result)}
    {before after : State Outcome Result}
    (told : Told report cancelledResult log before)
    (moves : Moves report cancelledResult before after events)
    (precedes : Precedes .cancelCalled .checked (log ++ events)) :
    after.phase ≠ .starting ∧ .started ∉ log ++ events := by
  have flag := told.flag
  have passed := told.passed
  have unstarted := told.cancelledUnstarted
  cases moves with
  | pass =>
      -- the flag was down, so no `cancel` has been called yet
      have occurs := precedes.mem
      simp_all
  | cancel flag phase =>
      rcases precedes.of_snoc with earlier | ⟨-, unchecked⟩
      · simpa using unstarted earlier
      · have early := mt passed unchecked
        simpa [not_or] using early
  | loseJob flag | loseResult flag result =>
      have earlier := unstarted (by simpa using precedes)
      simpa using earlier.2
  | _ =>
      have earlier := unstarted (by simpa using precedes.of_snoc)
      simp_all

/-- After a `cancel` that comes before it, the second check reports nothing. -/
theorem Told.cancelledResultOnly_step
    {log events : List (Event Outcome Result)}
    {before after : State Outcome Result}
    (told : Told report cancelledResult log before)
    (moves : Moves report cancelledResult before after events)
    (precedes : Precedes .cancelCalled .rechecked (log ++ events))
    (result : Result)
    (there :
      after.phase = .sending result ∨ .sent result ∈ log ++ events) :
    result = cancelledResult := by
  have flag := told.flag
  have reported := told.reported result
  have only := told.cancelledResultOnly
  cases moves with
  | keep outcome =>
      have occurs := precedes.mem
      simp_all
  | cancel flag phase =>
      rcases precedes.of_snoc with earlier | ⟨-, unchecked⟩
      · exact only earlier result (by simpa using there)
      · rcases reported (by simpa using there) with cancelled | checked
        · exact cancelled.1
        · exact absurd checked.1 unchecked
  | loseJob flag | loseResult flag result =>
      exact only (by simpa using precedes) _ (by simp_all)
  | _ =>
      have earlier := only (by simpa using precedes.of_snoc) result
      grind

/-- A result sent before any `cancel` passed the second check unharmed. -/
theorem Told.sentEarly_step
    {log events : List (Event Outcome Result)}
    {before after : State Outcome Result}
    (told : Told report cancelledResult log before)
    (moves : Moves report cancelledResult before after events)
    (result : Result)
    (precedes : Precedes (.sent result) .cancelCalled (log ++ events)) :
    ∃ outcome, result = report outcome := by
  cases moves with
  | send flag other =>
      rcases precedes.of_snoc with earlier | ⟨same, uncalled⟩
      · exact told.sentEarly result earlier
      · obtain rfl : other = result := by simpa using same
        rcases told.reported other (.inl rfl) with cancelled | checked
        · exact absurd cancelled.2 uncalled
        · exact checked.2.imp fun outcome ended => ended.1
  | loseJob flag | loseResult flag other =>
      exact told.sentEarly result (by simpa using precedes)
  | _ =>
      exact told.sentEarly result (by simpa using precedes.of_snoc)

/-- Every step keeps what the history tells. -/
theorem Told.step
    {log events : List (Event Outcome Result)}
    {before after : State Outcome Result}
    (told : Told report cancelledResult log before)
    (moves : Moves report cancelledResult before after events) :
    Told report cancelledResult (log ++ events) after where
  flag := by
    have flag := told.flag
    cases moves <;> simp_all
  startedOnce := told.startedOnce_step moves
  unstarted := by
    have unstarted := told.unstarted
    cases moves <;> simp_all
  sentOnce := told.sentOnce_step moves
  unsent := by
    have unsent := told.unsent
    cases moves <;> simp_all
  passed := by
    have passed := told.passed
    cases moves <;> simp_all
  ran := by
    have ran := told.ran
    cases moves <;> grind
  outcomeHeld := by
    have held := told.outcomeHeld
    cases moves <;> simp_all
  reported := by
    have flag := told.flag
    have held := told.outcomeHeld
    have reported := told.reported
    cases moves <;> grind
  cancelledUnstarted := told.cancelledUnstarted_step moves
  cancelledResultOnly := told.cancelledResultOnly_step moves
  sentEarly := told.sentEarly_step moves

/-- What the history of a job tells holds of every run. -/
theorem told
    {log : List (Event Outcome Result)}
    {final : State Outcome Result}
    (run :
      Machine.Run (machine report cancelledResult) initial log final) :
    Told report cancelledResult log final :=
  run.history (Told report cancelledResult)
    (fun earlier step => earlier.step (moves_of_step step))
    told_initial

end CancellableJob

end Runact
