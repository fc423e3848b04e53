import Runact.RuntimeEffect

namespace Runact

/-!
# The reduction budget

An actor loop counts the messages it takes and yields when the count reaches the
budget; a timeout starts the count again.  `increment` returns the count before
the addition, and the loop compares that with the budget, so it yields one
message late.
-/

universe u

/-- `ReductionCounter`. -/
structure ReductionCounter where
  count : Nat
  deriving DecidableEq, Repr

namespace ReductionCounter

/-- `ReductionCounter::new`. -/
def new : ReductionCounter where
  count := 0

/-- `ReductionCounter::increment`: the value before the addition. -/
def increment (counter : ReductionCounter) : Nat × ReductionCounter :=
  (counter.count, { count := counter.count + 1 })

/-- `ReductionCounter::reset`. -/
def reset (_ : ReductionCounter) : ReductionCounter where
  count := 0

/-- `ReductionCounter::should_preempt`. -/
def shouldPreempt (counter : ReductionCounter) : Bool :=
  decide (counter.count ≥ maxReductions)

/-- How one iteration of the loop ends while the stop flag is unset. -/
inductive LoopOutcome where
  /-- A message or a request was taken and dealt with. -/
  | message
  /-- `recv_timeout` timed out. -/
  | timeout
  deriving DecidableEq, Repr

/-- What an iteration does with the counter. -/
inductive ReductionEvent where
  | taken
  /-- The comparison after `increment`, and what `should_preempt` would have
  answered just then. -/
  | decided (yields preempt : Bool)
  | yielded
  | timedOut
  deriving DecidableEq, Repr

/-- The loop, as far as it concerns the counter. -/
def machine : Machine ReductionCounter LoopOutcome ReductionEvent where
  step?
    | counter, .message =>
        let (returned, counted) := counter.increment
        if returned ≥ maxReductions then
          some (counted.reset,
            [.taken, .decided true counted.shouldPreempt, .yielded])
        else
          some (counted, [.taken, .decided false counted.shouldPreempt])
    | counter, .timeout => some (counter.reset, [.timedOut])

/-- What one more event makes of the count. -/
def countEvent (count : Nat) : ReductionEvent → Nat
  | .taken => count + 1
  | .decided _ _ => count
  | .yielded => 0
  | .timedOut => 0

/-- The messages taken since the last yield or timeout. -/
def sinceReset (log : List ReductionEvent) : Nat :=
  log.foldl countEvent 0

@[simp] theorem sinceReset_snoc
    (log : List ReductionEvent)
    (event : ReductionEvent) :
    sinceReset (log ++ [event]) = countEvent (sinceReset log) event := by
  simp [sinceReset]

/-- The messages taken since the last timeout, whether or not the loop has
yielded among them. -/
def messagesInRow (outcomes : List LoopOutcome) : Nat :=
  (outcomes.rtakeWhile (· = .message)).length

@[simp] theorem messagesInRow_message (outcomes : List LoopOutcome) :
    messagesInRow (outcomes ++ [.message]) = messagesInRow outcomes + 1 := by
  simp [messagesInRow]

@[simp] theorem messagesInRow_timeout (outcomes : List LoopOutcome) :
    messagesInRow (outcomes ++ [.timeout]) = 0 := by
  simp [messagesInRow]

/-- The budget is kept: no more messages than allowed are taken without a yield
or a timeout, the loop yields right after the last of them, and every decision
is the one `should_preempt` would have made. -/
def KeepsBudget (log : List ReductionEvent) : Prop :=
  AtEach
    (fun earlier event =>
      sinceReset (earlier ++ [event]) ≤ maxReductions ∧
        ∀ yields preempt,
          event = .decided yields preempt →
          yields = preempt ∧
            (yields = true ↔ sinceReset earlier = maxReductions))
    log

/-- So many messages were taken in a row, without a timeout in between. -/
def TakesInRow (count : Nat) (outcomes : List LoopOutcome) : Prop :=
  List.replicate count .message <:+: outcomes

theorem TakesInRow.le_length
    {count : Nat}
    {outcomes : List LoopOutcome}
    (row : TakesInRow count outcomes) :
    count ≤ outcomes.length := by
  simpa using row.length_le

/-- A row of messages lies at the end of some initial part. -/
theorem takesInRow_iff
    {count : Nat}
    {outcomes : List LoopOutcome} :
    TakesInRow count outcomes ↔
      ∃ earlier later,
        outcomes = earlier ++ later ∧ count ≤ messagesInRow earlier := by
  constructor
  · rintro ⟨front, later, rfl⟩
    refine ⟨front ++ List.replicate count .message, later, rfl, ?_⟩
    induction count with
    | zero => exact Nat.zero_le _
    | succ count inductionHypothesis =>
        rw [List.replicate_succ', ← List.append_assoc, messagesInRow_message]
        omega
  · rintro ⟨earlier, later, rfl, long⟩
    have row :
        List.replicate (messagesInRow earlier) .message =
          earlier.rtakeWhile (· = LoopOutcome.message) :=
      (List.eq_replicate_iff.mpr ⟨rfl, fun outcome member => by
        simpa using List.mem_rtakeWhile_imp member⟩).symm
    have shorter :
        List.replicate count LoopOutcome.message <:+:
          List.replicate (messagesInRow earlier) .message := by
      rw [← Nat.sub_add_cancel long, List.replicate_add]
      exact (List.suffix_append _ _).isInfix
    rw [row] at shorter
    exact shorter.trans
      ((List.rtakeWhile_suffix _ _).isInfix.trans
        (List.prefix_append earlier later).isInfix)

theorem takesInRow_snoc_iff
    {count : Nat}
    {outcomes : List LoopOutcome}
    {outcome : LoopOutcome} :
    TakesInRow count (outcomes ++ [outcome]) ↔
      TakesInRow count outcomes ∨
        count ≤ messagesInRow (outcomes ++ [outcome]) := by
  rw [takesInRow_iff, takesInRow_iff]
  constructor
  · rintro ⟨earlier, later, shape, long⟩
    rcases List.eq_nil_or_concat later with rfl | ⟨front, last, rfl⟩
    · rw [List.append_nil] at shape
      exact .inr (shape ▸ long)
    · rw [List.concat_eq_append, ← List.append_assoc] at shape
      exact .inl ⟨earlier, front, (List.append_inj' shape rfl).1, long⟩
  · rintro (⟨earlier, later, rfl, long⟩ | long)
    · exact ⟨earlier, later ++ [outcome], by simp, long⟩
    · exact ⟨outcomes ++ [outcome], [], by simp, long⟩

/-- The count never passes the budget. -/
theorem run_count_le
    {log : List ReductionEvent}
    {counter : ReductionCounter}
    (run : Machine.Run machine new log counter) :
    counter.count ≤ maxReductions := by
  refine run.invariant
    (fun counter : ReductionCounter => counter.count ≤ maxReductions)
    ?_ (Nat.zero_le _)
  intro counter outcome after events _ step
  cases outcome with
  | timeout =>
      obtain ⟨rfl, -⟩ := Prod.mk.inj (Option.some.inj step)
      exact Nat.zero_le _
  | message =>
      by_cases full : counter.count ≥ maxReductions
      · simp only [machine, increment, full, ↓reduceIte, Option.some.injEq,
          Prod.mk.injEq] at step
        obtain ⟨rfl, -⟩ := step
        exact Nat.zero_le _
      · simp only [machine, increment, full, ↓reduceIte, Option.some.injEq,
          Prod.mk.injEq] at step
        obtain ⟨rfl, -⟩ := step
        exact Nat.not_le.mp full

/-- The outcomes a trace went through. -/
def outcomesOf
    (steps : List (ReductionCounter × LoopOutcome)) : List LoopOutcome :=
  steps.map Prod.snd

/-- As long as no row of messages uses the budget up, the counter counts the
row, no message makes the loop yield, and the budget is kept. -/
structure WithinBudget
    (outcomes : List LoopOutcome)
    (log : List ReductionEvent)
    (counter : ReductionCounter) : Prop where
  counts : counter.count = messagesInRow outcomes
  below : counter.count < maxReductions
  since : sinceReset log = counter.count
  keeps : KeepsBudget log
  short : ¬ TakesInRow maxReductions outcomes

/-- The first message that uses the budget up is the first one on which the two
decisions differ. -/
theorem WithinBudget.step
    {outcomes : List LoopOutcome}
    {log events : List ReductionEvent}
    {counter after : ReductionCounter}
    {outcome : LoopOutcome}
    (within : WithinBudget outcomes log counter)
    (step : machine.step? counter outcome = some (after, events)) :
    WithinBudget (outcomes ++ [outcome]) (log ++ events) after ∨
      TakesInRow maxReductions (outcomes ++ [outcome]) ∧
        .decided false true ∈ events := by
  have below := within.below
  cases outcome with
  | timeout =>
      obtain ⟨rfl, rfl⟩ := Prod.mk.inj (Option.some.inj step)
      refine .inl
        { counts := by simp [reset]
          below := Nat.zero_lt_of_lt below
          since := by simp [countEvent, reset]
          keeps := within.keeps.snoc ⟨by simp [countEvent], by simp⟩
          short := ?_ }
      rw [takesInRow_snoc_iff, messagesInRow_timeout]
      exact not_or.mpr ⟨within.short, by decide⟩
  | message =>
      have continues : ¬ counter.count ≥ maxReductions := Nat.not_le.mpr below
      simp only [machine, increment, continues, ↓reduceIte, Option.some.injEq,
        Prod.mk.injEq] at step
      obtain ⟨rfl, rfl⟩ := step
      by_cases last : counter.count + 1 = maxReductions
      · right
        refine ⟨?_, by simp [shouldPreempt, last]⟩
        rw [takesInRow_snoc_iff, messagesInRow_message, ← within.counts]
        exact .inr last.ge
      · left
        have preempt :
            shouldPreempt { count := counter.count + 1 } = false := by
          simp only [shouldPreempt, decide_eq_false_iff_not]
          omega
        exact
          { counts := by simp [within.counts]
            below := by
              simp only
              omega
            since := by
              rw [preempt]
              simp [sinceReset, ← within.since, countEvent]
            keeps := by
              rw [preempt]
              refine within.keeps.snoc_two ⟨?_, by simp⟩ ⟨?_, ?_⟩
              · simp only [sinceReset_snoc, countEvent, within.since]
                omega
              · simp only [sinceReset_snoc, countEvent, within.since]
                omega
              · rintro yields preempt shape
                obtain ⟨rfl, rfl⟩ := ReductionEvent.decided.inj shape
                simp only [sinceReset_snoc, countEvent, within.since, last]
                simp
            short := by
              rw [takesInRow_snoc_iff, messagesInRow_message, ← within.counts]
              refine not_or.mpr ⟨within.short, ?_⟩
              omega }

/-- Over every trace, the budget is kept up to the first row of messages that
uses it up, and there a decision goes wrong. -/
theorem trace_withinBudget
    {steps : List (ReductionCounter × LoopOutcome)}
    {log : List ReductionEvent}
    {counter : ReductionCounter}
    (trace : Machine.Trace machine new steps log counter) :
    WithinBudget (outcomesOf steps) log counter ∨
      TakesInRow maxReductions (outcomesOf steps) ∧
        .decided false true ∈ log := by
  induction trace with
  | nil =>
      exact .inl
        { counts := rfl
          below := by decide
          since := rfl
          keeps := .nil
          short := fun row => absurd row.le_length (by decide) }
  | @snoc steps log events middle final outcome earlier last
      inductionHypothesis =>
      have extended :
          outcomesOf (steps ++ [(middle, outcome)]) =
            outcomesOf steps ++ [outcome] := by
        simp [outcomesOf]
      rw [extended]
      rcases inductionHypothesis with within | ⟨row, wrong⟩
      · refine (within.step last).imp id ?_
        rintro ⟨row, wrong⟩
        exact ⟨row, List.mem_append_right log wrong⟩
      · exact .inr ⟨takesInRow_snoc_iff.mpr (.inl row),
          List.mem_append_left events wrong⟩

/-- A decision that differs from `should_preempt` breaks the budget. -/
theorem not_keepsBudget
    {log : List ReductionEvent}
    (wrong : .decided false true ∈ log) :
    ¬ KeepsBudget log := by
  intro keeps
  obtain ⟨earlier, later, rfl⟩ := List.append_of_mem wrong
  have same := ((keeps earlier _ later rfl).2 false true rfl).1
  cases same

/--
Over every sequence of outcomes, the budget is kept exactly when no
`MAX_REDUCTIONS` messages are taken in a row without a timeout.
-/
theorem budget_kept_iff
    {steps : List (ReductionCounter × LoopOutcome)}
    {log : List ReductionEvent}
    {counter : ReductionCounter}
    (trace : Machine.Trace machine new steps log counter) :
    KeepsBudget log ↔ ¬ TakesInRow maxReductions (outcomesOf steps) := by
  rcases trace_withinBudget trace with within | ⟨row, wrong⟩
  · exact iff_of_true within.keeps within.short
  · exact iff_of_false (not_keepsBudget wrong) (not_not_intro row)

/-- Two messages, a timeout, and one more message. -/
theorem budget_kept_iff_idle :
    ∃ counter log,
      machine.run? new [.message, .message, .timeout, .message] =
          some (counter, log) ∧
        log =
          [.taken, .decided false false, .taken, .decided false false,
            .timedOut, .taken, .decided false false] ∧
        KeepsBudget log := by
  obtain ⟨counter, log, executed, shown⟩ :
      ∃ counter log,
        machine.run? new [.message, .message, .timeout, .message] =
            some (counter, log) ∧
          log =
            [.taken, .decided false false, .taken, .decided false false,
              .timedOut, .taken, .decided false false] :=
    ⟨_, _, rfl, rfl⟩
  refine ⟨counter, log, executed, shown,
    (budget_kept_iff (Machine.run?_taken _ executed)).mpr fun row => ?_⟩
  exact absurd row.le_length (by decide)

/-- Up to the budget, messages only raise the count. -/
theorem run_messages
    {count : Nat}
    (within : count ≤ maxReductions) :
    ∃ log,
      Machine.Run machine new log { count := count } ∧
        sinceReset log = count := by
  induction count with
  | zero => exact ⟨[], .nil, rfl⟩
  | succ count inductionHypothesis =>
      obtain ⟨log, run, since⟩ := inductionHypothesis (Nat.le_of_succ_le within)
      have continues : ¬ count ≥ maxReductions := Nat.not_le.mpr within
      have step :
          machine.step? { count := count } .message =
            some ({ count := count + 1 },
              [.taken,
                .decided false (shouldPreempt { count := count + 1 })]) := by
        simp [machine, increment, continues]
      exact ⟨_, .snoc .message run step, by
        simp [sinceReset, countEvent, ← since]⟩

/-- After so many messages in a row that the budget is used up,
`should_preempt` says so and the loop goes on; it yields after one more. -/
theorem budget_exceeded :
    ∃ log,
      Machine.Run machine new log { count := maxReductions } ∧
        sinceReset log = maxReductions ∧
        shouldPreempt { count := maxReductions } = true ∧
        Machine.Run machine new
          (log ++ [.taken, .decided true true, .yielded]) new ∧
        sinceReset (log ++ [.taken]) = maxReductions + 1 := by
  obtain ⟨log, run, since⟩ := run_messages le_rfl
  refine ⟨log, run, since, by decide, ?_, by simp [since, countEvent]⟩
  exact .snoc .message run (by simp [machine, increment, reset, new,
    shouldPreempt])

end ReductionCounter

/-! ## The counters of a runtime's loops -/

namespace Runtime

open ReductionCounter (ReductionEvent)

variable {Value State Frame : Type u}

/-- What the runtime shows of a loop's counter. -/
def counterEvent (index : Nat) : RuntimeEvent Value → Option ReductionEvent
  | .yielded cell => if cell = index then some .yielded else none
  | .timedOut cell => if cell = index then some .timedOut else none
  | _ => none

/-- The yields and the timeouts of a counter. -/
def restarts (counted : List ReductionEvent) : List ReductionEvent :=
  counted.filter fun event => event = .yielded ∨ event = .timedOut

/-- The count was reached by the counter alone, with the yields and the timeouts
the log shows. -/
def Counts
    (log : List (RuntimeEvent Value))
    (index count : Nat) : Prop :=
  ∃ counted,
    Machine.Run ReductionCounter.machine ReductionCounter.new counted
        { count := count } ∧
      log.filterMap (counterEvent index) = restarts counted

theorem Counts.silent
    {log events : List (RuntimeEvent Value)}
    {index count : Nat}
    (counts : Counts log index count)
    (silent : events.filterMap (counterEvent index) = []) :
    Counts (log ++ events) index count := by
  obtain ⟨counted, run, same⟩ := counts
  exact ⟨counted, run, by rw [List.filterMap_append, silent, same,
    List.append_nil]⟩

/-- A timeout starts the count again. -/
theorem Counts.timedOut
    {log : List (RuntimeEvent Value)}
    {index count : Nat}
    (counts : Counts log index count) :
    Counts (log ++ [.timedOut index]) index 0 := by
  obtain ⟨counted, run, same⟩ := counts
  refine ⟨counted ++ [.timedOut], .snoc .timeout run rfl, ?_⟩
  simp [restarts, counterEvent] at same ⊢
  exact same

/-- The end of an iteration is a step of the counter, or leaves it alone while
the loop drains its mailbox. -/
theorem Counts.finishIteration
    {log : List (RuntimeEvent Value)}
    {index : Nat}
    {cell : ActorCell Value State Frame}
    (counts : Counts log index cell.reductions)
    (draining : Bool) :
    Counts (log ++ (cell.finishIteration index draining).2) index
      (cell.finishIteration index draining).1.reductions := by
  unfold ActorCell.finishIteration
  split
  · exact counts.silent rfl
  · obtain ⟨counted, run, same⟩ := counts
    split
    · rename_i full
      refine ⟨_, .snoc .message run (by
        simp only [ReductionCounter.machine, ReductionCounter.increment, full,
          ↓reduceIte, ReductionCounter.reset]
        rfl), ?_⟩
      simp [restarts, counterEvent] at same ⊢
      exact same
    · rename_i room
      refine ⟨_, .snoc .message run (by
        simp only [ReductionCounter.machine, ReductionCounter.increment, room,
          ↓reduceIte]
        rfl), ?_⟩
      simp [restarts] at same ⊢
      exact same

/-- A step of a loop ends an iteration, times out, or leaves the counter and its
events alone. -/
theorem counts_ownStep :
    OwnStep fun log index (cell : ActorCell Value State Frame) =>
      Counts log index cell.reductions := by
  intro log events index cell answer runtime after here step counts
  obtain ⟨same, shape, effect⟩ := loopStep_cases step
  obtain rfl : cell = same := by simpa [here] using shape
  cases effect with
  | timedOut position empty =>
      exact ⟨_, modifyCell_here _ here, counts.timedOut⟩
  | skipped draining envelope rest reductions yields position queue foreign =>
      have counted :
          Counts (log ++ [.taken index envelope]) index cell.reductions :=
        counts.silent rfl
      have finished :=
        Counts.finishIteration (show
          Counts (log ++ [.taken index envelope]) index
            { cell with mailbox := rest }.reductions from counted) draining
      have stepped :
          runtime.loopStep? index answer =
            some (runtime.modifyCell index fun _ =>
              (ActorCell.finishIteration { cell with mailbox := rest } index
                draining).1,
              .taken index envelope ::
                (ActorCell.finishIteration { cell with mailbox := rest } index
                  draining).2) := by
        cases draining <;>
          simp [loopStep?, here, position, LoopPosition.atReceive, queue,
            ActorCell.takeEnvelope, foreign]
      obtain ⟨same, shown⟩ :=
        Prod.mk.inj (Option.some.inj (step.symm.trans stepped))
      rw [same, shown]
      refine ⟨_, modifyCell_here _ here, ?_⟩
      simpa using finished
  | returned draining frame state reductions yields position action =>
      have counted : Counts (log ++ [.handled index]) index cell.reductions :=
        counts.silent rfl
      have finished :=
        Counts.finishIteration (show
          Counts (log ++ [.handled index]) index
            { cell with state := state }.reductions from counted) draining
      have stepped :
          runtime.loopStep? index answer =
            some (runtime.modifyCell index fun _ =>
              (ActorCell.finishIteration { cell with state := state } index
                draining).1,
              .handled index ::
                (ActorCell.finishIteration { cell with state := state } index
                  draining).2) := by
        simp [loopStep?, here, position, keptOut, handlerStep, action]
      obtain ⟨same, shown⟩ :=
        Prod.mk.inj (Option.some.inj (step.symm.trans stepped))
      rw [same, shown]
      refine ⟨_, modifyCell_here _ here, ?_⟩
      simpa using finished
  | sent draining channel envelope resume sent position accepted =>
      obtain ⟨extra, there, -⟩ := OnlyExtended.offered accepted here
      exact ⟨_, modifyCell_here _ there, counts.silent rfl⟩
  | _ => exact ⟨_, modifyCell_here _ here, counts.silent rfl⟩

/-- Over every run of the runtime, every loop's counter goes through a run of
its own, with the yields and timeouts the log shows of the loop. -/
theorem run_counts
    {mailboxCapacity : Nat}
    {log : List (RuntimeEvent Value)}
    {runtime : Runtime Value State Frame}
    (run :
      Machine.Run (machine Value State Frame)
        (withConfig Value State Frame mailboxCapacity) log runtime) :
    ∀ index cell,
      runtime.cells[index]? = some cell →
      Counts log index cell.reductions := by
  have own {index : Nat} {event : RuntimeEvent Value} {item : ReductionEvent}
      (seen : counterEvent index event = some item) :
      shownBy event = some index := by
    cases event <;> simp_all [counterEvent, shownBy]
  refine run_cellsOfSteps
    (fun log index cell => Counts log index cell.reductions)
    ?_ ?_ counts_ownStep run
  · intro log index id actor state notShown
    exact ⟨[], .nil, filterMap_of_notShown own notShown⟩
  · intro log events index cell extra notShown counts
    exact counts.silent (filterMap_of_notShown own notShown)

/-- So every counter stays within the budget. -/
theorem run_reductions_le
    {mailboxCapacity : Nat}
    {log : List (RuntimeEvent Value)}
    {runtime : Runtime Value State Frame}
    (run :
      Machine.Run (machine Value State Frame)
        (withConfig Value State Frame mailboxCapacity) log runtime)
    {index : Nat}
    {cell : ActorCell Value State Frame}
    (here : runtime.cells[index]? = some cell) :
    cell.reductions ≤ maxReductions := by
  obtain ⟨counted, counter, -⟩ := run_counts run index cell here
  exact ReductionCounter.run_count_le counter

end Runtime

end Runact
