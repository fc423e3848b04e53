import Runact.StealingPass
import Runact.StopFlag
import Runact.TaskPanics

namespace Runact

/-!
# The queues drain

Nothing tells a sleeping worker about a task: every worker looks into its own
queue over and over, and into those of the others when it is empty.  Once
nothing more is pushed, this empties all queues.  A worker whose task panics is
gone, and the others steal what is in its queue, all but the last task.
-/

universe u

variable {workers : Nat} {Task : Type u}

namespace WorkerPosition

/-- One for a thread that has not ended, else zero. -/
def alive (position : WorkerPosition workers Task) : Nat :=
  if position.isOut then 0 else 1

/-- How far a worker with a task in its queue is from its next pop. -/
def untilStart : WorkerPosition workers Task → ℕ ×ₗ ℕ
  | .stealing targets => toLex (4, targets.length)
  | .pushing batch => toLex (3, batch.length)
  | .running _ => toLex (2, 0)
  | .checkingStop => toLex (1, 0)
  | _ => toLex (0, 0)

/-- How far a worker with nothing of its own is from a look into a queue. -/
def untilLook (victim : Fin workers) :
    WorkerPosition workers Task → ℕ ×ₗ ℕ
  | .pushing _ => toLex (3, 0)
  | .running _ => toLex (3, 0)
  | .checkingStop => toLex (2, 0)
  | .popping => toLex (1, 0)
  | .stealing targets =>
      if victim ∈ targets then
        toLex (0, targets.length)
      else
        toLex (4, targets.length)
  | _ => toLex (0, 0)

end WorkerPosition

namespace Scheduler

/-- A task that panicked. -/
def Event.isPanicked : Event workers Task → Bool
  | .panicked _ _ => true
  | _ => false

/-- The step pushes a task or tells the workers to stop. -/
def Label.disturbs : Label workers Task → Bool
  | .push _ => true
  | .setStop => true
  | _ => false

/-- How many worker threads have not ended. -/
def living (scheduler : Scheduler workers Task) : Nat :=
  ∑ id, (scheduler.positions id).alive

/-- The tasks that wait, and the threads that may still be lost. -/
def remaining (scheduler : Scheduler workers Task) : Nat :=
  (waitingTasks scheduler).card + living scheduler

theorem living_setPosition
    (scheduler : Scheduler workers Task)
    (id : Fin workers)
    (position : WorkerPosition workers Task) :
    living (scheduler.setPosition id position) +
        (scheduler.positions id).alive =
      living scheduler + position.alive :=
  sum_update_add scheduler.positions WorkerPosition.alive id position

/-- No worker is lost by a step between two positions in the loop. -/
theorem living_of_notOut
    {scheduler : Scheduler workers Task}
    {id : Fin workers}
    {position : WorkerPosition workers Task}
    (before : (scheduler.positions id).isOut = false)
    (after : position.isOut = false) :
    living (scheduler.setPosition id position) = living scheduler := by
  have moved := living_setPosition scheduler id position
  simp only [WorkerPosition.alive, before, after] at moved
  exact Nat.add_right_cancel moved

/-- Before a shutdown the steps of a worker outside its tasks lose no thread. -/
theorem WorkerStep.living
    {scheduler after : Scheduler workers Task}
    {id : Fin workers}
    {events : List (Event workers Task)}
    (attended : Attended scheduler)
    (step : WorkerStep scheduler id after events) :
    living after = living scheduler ∧
      events.countP Event.isPanicked = 0 := by
  cases step with
  | exit position stopped =>
      rw [attended.running] at stopped
      cases stopped
  | goOn position running =>
      exact ⟨living_of_notOut (by rw [position]; rfl) rfl, rfl⟩
  | start task rest position queue =>
      refine ⟨living_of_notOut ?_ rfl, rfl⟩
      exact position ▸ rfl
  | empty position queue =>
      exact ⟨living_of_notOut (by rw [position]; rfl) rfl, rfl⟩
  | yield position =>
      exact ⟨living_of_notOut (by rw [position]; rfl) rfl, rfl⟩
  | refused target targets position nothing =>
      exact ⟨living_of_notOut (by rw [position]; rfl) rfl, rfl⟩
  | steal target targets batch rest position shape nonempty =>
      refine ⟨living_of_notOut ?_ rfl, rfl⟩
      exact position ▸ rfl
  | pushed position =>
      exact ⟨living_of_notOut (by rw [position]; rfl) rfl, rfl⟩
  | repush task batch position =>
      refine ⟨living_of_notOut ?_ rfl, rfl⟩
      exact position ▸ rfl

/-- The steps that neither push a task nor tell the workers to stop. -/
inductive UndisturbedStep (before : Scheduler workers Task) :
    Label workers Task → Scheduler workers Task →
      List (Event workers Task) → Prop where
  | claimed (task : Task) (after : Scheduler workers Task) :
      after.queues = before.queues →
      after.positions = before.positions →
      after.stop = before.stop →
      UndisturbedStep before (.claim task) after []
  | worked (id : Fin workers)
      (after : Scheduler workers Task)
      (events : List (Event workers Task)) :
      WorkerStep before id after events →
      UndisturbedStep before (.worker id) after events
  | returned (id : Fin workers) (task : Task) :
      before.positions id = .running task →
      UndisturbedStep before (.finish id)
        (before.setPosition id .checkingStop) [.finished id task]
  | panicked (id : Fin workers) (task : Task) :
      before.positions id = .running task →
      UndisturbedStep before (.panic id)
        (before.setPosition id .unwound) [.panicked id task]

section Drained

variable [NeZero workers] {before after : Scheduler workers Task}
  {label : Label workers Task} {events : List (Event workers Task)}

theorem undisturbedStep_of_step
    (step :
      (machine workers Task).step? before label = some (after, events))
    (undisturbed : label.disturbs = false) :
    UndisturbedStep before label after events := by
  cases label with
  | claim task =>
      cases step
      exact .claimed task _ rfl rfl rfl
  | push call | setStop => cases undisturbed
  | worker id => exact .worked id after events (workerStep?_iff.mp step)
  | finish id =>
      simp only [machine] at step
      split at step
      case h_1 task position =>
        cases step
        exact .returned id task position
      case h_2 => cases step
  | panic id =>
      simp only [machine] at step
      split at step
      case h_1 task position =>
        cases step
        exact .panicked id task position
      case h_2 => cases step

omit [NeZero workers] in
theorem Attended.undisturbed
    (attended : Attended before)
    (step : UndisturbedStep before label after events) :
    Attended after := by
  cases step with
  | claimed task after queues positions stop =>
      obtain ⟨running, inLoop, foreign⟩ := attended
      rw [← stop] at running
      rw [← positions] at inLoop foreign
      exact ⟨running, inLoop, foreign⟩
  | worked id after events step => exact attended.workerStep step
  | returned id task position =>
      exact attended.setPosition .checkingStop (by simp) (by simp)
  | panicked id task position =>
      exact attended.setPosition .unwound (by simp) (by simp)

omit [NeZero workers] in
theorem UndisturbedStep.spawnedTasks
    (step : UndisturbedStep before label after events) :
    spawnedTasks events = [] := by
  cases step with
  | claimed | returned | panicked => rfl
  | worked id after events step => cases step <;> rfl

omit [NeZero workers] in
theorem UndisturbedStep.living
    (attended : Attended before)
    (step : UndisturbedStep before label after events) :
    living after + events.countP Event.isPanicked = living before := by
  cases step with
  | claimed task after queues positions stop =>
      simp only [Scheduler.living, positions]
      rfl
  | worked id after events step =>
      obtain ⟨alike, none⟩ := step.living attended
      rw [none, alike]
      rfl
  | returned id task position =>
      exact living_of_notOut (by rw [position]; rfl) rfl
  | panicked id task position =>
      have moved := living_setPosition before id .unwound
      rw [position] at moved
      exact moved

/-- Every task that starts and every thread that is lost is one less. -/
theorem step_remaining
    (attended : Attended before)
    (step :
      (machine workers Task).step? before label = some (after, events))
    (undisturbed : label.disturbs = false) :
    remaining after + (startedTasks events).length +
        events.countP Event.isPanicked =
      remaining before := by
  have inside := undisturbedStep_of_step step undisturbed
  have lives := inside.living attended
  have balance := congrArg Multiset.card (step_waiting_balance step)
  rw [inside.spawnedTasks] at balance
  simp only [Multiset.card_add, Multiset.coe_card, List.length_nil,
    Nat.add_zero] at balance
  unfold remaining
  rw [← balance, ← lives]
  ac_rfl

/-- A worker that lives and has a task in its queue or its batch. -/
structure Holds (scheduler : Scheduler workers Task) (id : Fin workers) :
    Prop where
  alive : (scheduler.positions id).isOut = false
  some : scheduler.queues id ≠ [] ∨ (scheduler.positions id).batch ≠ []

omit [NeZero workers] in
/-- A thief leaves something in every queue that is not empty. -/
theorem stealHalf_keeps
    {queue batch rest : List Task}
    (shape : RunQueue.stealHalf queue = (batch, rest))
    (filled : queue ≠ []) :
    rest ≠ [] := by
  by_cases short : queue.length ≤ 1
  · rw [RunQueue.stealHalf_of_length_le_one short] at shape
    cases shape
    exact filled
  · simp only [RunQueue.stealHalf, short, if_false, Prod.mk.injEq] at shape
    rw [← shape.2]
    apply List.ne_nil_of_length_pos
    rw [List.length_drop]
    exact Nat.sub_pos_of_lt
      (Nat.div_lt_self (List.length_pos_of_ne_nil filled) (Nat.lt_succ_self 1))

omit [NeZero workers] in
/-- Other workers never empty a queue. -/
theorem WorkerStep.leaves_something
    {id other : Fin workers}
    (step : WorkerStep before other after events)
    (different : id ≠ other)
    (filled : before.queues id ≠ []) :
    after.queues id ≠ [] := by
  cases step with
  | start task rest position queue =>
      simpa [setQueue_queues_of_ne before different] using filled
  | steal target targets batch rest position shape nonempty =>
      by_cases victim : id = target
      · subst victim
        simpa using stealHalf_keeps shape filled
      · simpa [setQueue_queues_of_ne before victim] using filled
  | repush task batch position =>
      simpa [setQueue_queues_of_ne before different] using filled
  | _ => exact filled

omit [NeZero workers] in
/-- At a position without a batch the task is in the queue. -/
theorem Holds.queued
    {id : Fin workers}
    (holds : Holds before id)
    (unbatched : (before.positions id).batch = []) :
    before.queues id ≠ [] :=
  holds.some.resolve_right fun batched => batched unbatched

omit [NeZero workers] in
/-- There it stays while the worker moves on to its next pop. -/
theorem Holds.moved
    {id : Fin workers}
    (holds : Holds before id)
    (unbatched : (before.positions id).batch = [])
    {position : WorkerPosition workers Task}
    (alive : position.isOut = false)
    (closer : position.untilStart < (before.positions id).untilStart) :
    Holds (before.setPosition id position) id ∧
      ((before.setPosition id position).positions id).untilStart <
        (before.positions id).untilStart := by
  rw [setPosition_positions_self]
  refine ⟨⟨?_, .inl (holds.queued unbatched)⟩, closer⟩
  rw [setPosition_positions_self]
  exact alive

omit [NeZero workers] in
/-- A worker with a task starts one, or gets closer to it. -/
theorem WorkerStep.holds
    {id : Fin workers}
    (attended : Attended before)
    (holds : Holds before id)
    (step : WorkerStep before id after events) :
    startedTasks events ≠ [] ∨
      Holds after id ∧
        (after.positions id).untilStart <
          (before.positions id).untilStart := by
  cases step with
  | exit position stopped =>
      rw [attended.running] at stopped
      cases stopped
  | start task rest position queue =>
      apply Or.inl
      simp [startedTasks, Event.started?]
  | empty position queue =>
      exact (holds.queued (by rw [position]; rfl) queue).elim
  | goOn position | yield position | refused target targets position
    | pushed position =>
      apply Or.inr
      apply holds.moved
      · rw [position]
        rfl
      · rfl
      · rw [position]
        simp [WorkerPosition.untilStart, Prod.Lex.toLex_lt_toLex]
  | steal target targets batch rest position shape nonempty =>
      refine .inr ⟨⟨by simp [WorkerPosition.isOut], .inr ?_⟩, ?_⟩
      · simpa [WorkerPosition.batch] using nonempty
      · rw [setPosition_positions_self, position]
        simp [WorkerPosition.untilStart, Prod.Lex.toLex_lt_toLex]
  | repush task batch position =>
      refine .inr ⟨⟨by simp [WorkerPosition.isOut], .inl ?_⟩, ?_⟩
      · simp [RunQueue.push]
      · rw [setPosition_positions_self, position]
        simp [WorkerPosition.untilStart, Prod.Lex.toLex_lt_toLex]

/-- A worker with a task: something is done, or it gets closer to its pop. -/
theorem step_holds
    {id : Fin workers}
    (attended : Attended before)
    (holds : Holds before id)
    (step :
      (machine workers Task).step? before label = some (after, events))
    (undisturbed : label.disturbs = false) :
    remaining after < remaining before ∨
      Holds after id ∧
        (after.positions id).untilStart ≤
          (before.positions id).untilStart ∧
        (label.isOf id = true →
          (after.positions id).untilStart <
            (before.positions id).untilStart) := by
  have balance := step_remaining attended step undisturbed
  have inside := undisturbedStep_of_step step undisturbed
  cases own : label.isOf id with
  | false =>
      have unmoved := step_positions_of_not_isOf step own
      refine .inr ⟨⟨?_, ?_⟩, ?_, by simp⟩
      · rw [unmoved]
        exact holds.alive
      · rw [unmoved]
        refine holds.some.imp_left fun filled => ?_
        cases inside with
        | claimed task after queues => rwa [queues]
        | worked other after events step =>
            apply step.leaves_something _ filled
            rintro rfl
            simp [Label.isOf] at own
        | returned | panicked => exact filled
      · rw [unmoved]
  | true =>
      cases inside with
      | claimed => cases own
      | worked other after events step =>
          obtain rfl : other = id := by simpa [Label.isOf] using own
          obtain started | ⟨still, closer⟩ := step.holds attended holds
          · have some := List.length_pos_of_ne_nil started
            exact .inl (by omega)
          · exact .inr ⟨still, closer.le, fun _ => closer⟩
      | returned other task position =>
          obtain rfl : other = id := by simpa [Label.isOf] using own
          obtain ⟨still, closer⟩ :
              Holds (before.setPosition other .checkingStop) other ∧ _ := by
            apply holds.moved
            · rw [position]
              rfl
            · rfl
            · rw [position]
              simp [WorkerPosition.untilStart, Prod.Lex.toLex_lt_toLex]
          exact .inr ⟨still, closer.le, fun _ => closer⟩
      | panicked other task position =>
          simp only [Event.isPanicked, List.countP_cons, List.countP_nil,
            if_true] at balance
          exact .inl (by omega)

/-- A worker with a task gets to start one, unless a thread is lost or another
worker starts one before. -/
theorem holder_starts
    (execution : Machine.Execution (machine workers Task))
    {id : Fin workers}
    (fair : execution.Fair (Label.isOf id))
    {time : Nat}
    (undisturbed :
      ∀ later, time ≤ later → (execution.labels later).disturbs = false)
    (attended : Attended (execution.states time))
    (holds : Holds (execution.states time) id) :
    ∃ later, time ≤ later ∧
      remaining (execution.states later) <
        remaining (execution.states time) := by
  apply fair.reaches
    (fun scheduler =>
      Attended scheduler ∧
        remaining scheduler = remaining (execution.states time) ∧
        Holds scheduler id)
    (fun scheduler => remaining scheduler < remaining (execution.states time))
    (fun scheduler => (scheduler.positions id).untilStart)
  · rintro moment notBefore ⟨stillAttended, alike, stillHolds⟩
    have quiet := undisturbed moment notBefore
    have step := execution.valid moment
    have balance := step_remaining stillAttended step quiet
    rw [← alike]
    by_cases less :
        remaining (execution.states (moment + 1)) <
          remaining (execution.states moment)
    · exact .inl less
    · have moved := (step_holds stillAttended stillHolds step quiet).resolve_left
        less
      refine .inr ⟨⟨?_, ?_, moved.1⟩, moved.2⟩
      · exact stillAttended.undisturbed (undisturbedStep_of_step step quiet)
      · omega
  · rintro scheduler ⟨-, -, stillHolds⟩
    exact enabled_of_not_isOut stillHolds.alive
  · exact ⟨attended, rfl, holds⟩

/-- A living worker with nothing of its own, and a dead one with two tasks. -/
structure Looks
    (scheduler : Scheduler workers Task)
    (thief victim : Fin workers) : Prop where
  alive : (scheduler.positions thief).isOut = false
  queue : scheduler.queues thief = []
  batch : (scheduler.positions thief).batch = []
  lost : scheduler.positions victim = .unwound
  long : 2 ≤ (scheduler.queues victim).length

omit [NeZero workers] in
theorem Looks.different
    {thief victim : Fin workers}
    (looks : Looks before thief victim) :
    victim ≠ thief := by
  rintro rfl
  have alive := looks.alive
  rw [looks.lost] at alive
  cases alive

omit [NeZero workers] in
/-- The worker moves on within its loop, with nothing in its hands. -/
theorem Looks.moved
    {thief victim : Fin workers}
    (looks : Looks before thief victim)
    {position : WorkerPosition workers Task}
    (alive : position.isOut = false)
    (batch : position.batch = [])
    (closer :
      position.untilLook victim <
        (before.positions thief).untilLook victim) :
    Looks (before.setPosition thief position) thief victim ∧
      ((before.setPosition thief position).positions thief).untilLook
          victim <
        (before.positions thief).untilLook victim := by
  rw [setPosition_positions_self]
  refine ⟨?_, closer⟩
  refine {
    alive := ?_
    queue := looks.queue
    batch := ?_
    lost := ?_
    long := looks.long
  }
  · rw [setPosition_positions_self]
    exact alive
  · rw [setPosition_positions_self]
    exact batch
  · rw [setPosition_positions_of_ne _ looks.different]
    exact looks.lost

omit [NeZero workers] in
/-- The worker comes closer to a look at the queue of the dead one. -/
theorem WorkerStep.looks
    {thief victim : Fin workers}
    (attended : Attended before)
    (looks : Looks before thief victim)
    (step : WorkerStep before thief after events) :
    Holds after thief ∨
      Looks after thief victim ∧
        (after.positions thief).untilLook victim <
          (before.positions thief).untilLook victim := by
  cases step with
  | exit position stopped =>
      rw [attended.running] at stopped
      cases stopped
  | start task rest position queue =>
      rw [looks.queue] at queue
      cases queue
  | repush task batch position =>
      have batch := looks.batch
      rw [position] at batch
      cases batch
  | steal target targets batch rest position shape nonempty =>
      refine .inl ⟨by simp [WorkerPosition.isOut], .inr ?_⟩
      simpa [WorkerPosition.batch] using nonempty
  | refused target targets position nothing =>
      apply Or.inr
      apply looks.moved rfl rfl
      rw [position]
      have notTarget : victim ≠ target := by
        rintro rfl
        have short := (stealHalf_eq_nil_iff _).mp nothing
        have long := looks.long
        omega
      by_cases listed : victim ∈ targets <;>
        simp [WorkerPosition.untilLook, Prod.Lex.toLex_lt_toLex, listed,
          notTarget]
  | empty position queue =>
      apply Or.inr
      apply looks.moved rfl rfl
      rw [position]
      simp [WorkerPosition.untilLook, Prod.Lex.toLex_lt_toLex, stealTargets,
        looks.different]
  | goOn position | yield position | pushed position =>
      apply Or.inr
      apply looks.moved rfl rfl
      rw [position]
      simp [WorkerPosition.untilLook, Prod.Lex.toLex_lt_toLex]

omit [NeZero workers] in
/-- Another worker gets a task, starts one, or only moves on. -/
theorem WorkerStep.kept_queues
    {other : Fin workers}
    (attended : Attended before)
    (step : WorkerStep before other after events) :
    startedTasks events ≠ [] ∨ Holds after other ∨
      after.queues = before.queues := by
  cases step with
  | exit position stopped =>
      rw [attended.running] at stopped
      cases stopped
  | start task rest position queue =>
      apply Or.inl
      simp [startedTasks, Event.started?]
  | steal target targets batch rest position shape nonempty =>
      refine .inr (.inl ⟨by simp [WorkerPosition.isOut], .inr ?_⟩)
      simpa [WorkerPosition.batch] using nonempty
  | repush task batch position =>
      refine .inr (.inl ⟨by simp [WorkerPosition.isOut], .inl ?_⟩)
      simp [RunQueue.push]
  | _ => exact .inr (.inr rfl)

/-- A worker without a task: something is done, somebody gets a task, or it
comes closer to a look at the queue of the dead one. -/
theorem step_looks
    {thief victim : Fin workers}
    (attended : Attended before)
    (looks : Looks before thief victim)
    (step :
      (machine workers Task).step? before label = some (after, events))
    (undisturbed : label.disturbs = false) :
    (remaining after < remaining before ∨ ∃ id, Holds after id) ∨
      Looks after thief victim ∧
        (after.positions thief).untilLook victim ≤
          (before.positions thief).untilLook victim ∧
        (label.isOf thief = true →
          (after.positions thief).untilLook victim <
            (before.positions thief).untilLook victim) := by
  have balance := step_remaining attended step undisturbed
  have lost : after.positions victim = .unwound := by
    rw [← looks.lost]
    apply step_positions_of_not_isOf step
    have out : (before.positions victim).isOut = true := by
      rw [looks.lost]
      rfl
    by_contra own
    exact not_enabled_of_isOut out
      ⟨label, after, events, Bool.eq_true_of_not_eq_false own, step⟩
  have unmoved
      (queues : after.queues = before.queues)
      (other : label.isOf thief = false) :
      Looks after thief victim ∧
        (after.positions thief).untilLook victim ≤
          (before.positions thief).untilLook victim ∧
        (label.isOf thief = true →
          (after.positions thief).untilLook victim <
            (before.positions thief).untilLook victim) := by
    have position := step_positions_of_not_isOf step other
    obtain ⟨alive, queue, batch, -, long⟩ := looks
    rw [← position] at alive batch
    rw [← queues] at queue long
    rw [position, other]
    exact ⟨⟨alive, queue, batch, lost, long⟩, le_refl _, by simp⟩
  cases undisturbedStep_of_step step undisturbed with
  | claimed task after queues positions stop =>
      exact .inr (unmoved queues rfl)
  | worked other after events worked =>
      by_cases own : other = thief
      · subst own
        obtain holds | ⟨still, closer⟩ := worked.looks attended looks
        · exact .inl (.inr ⟨_, holds⟩)
        · exact .inr ⟨still, closer.le, fun _ => closer⟩
      · obtain started | holds | queues := worked.kept_queues attended
        · have some := List.length_pos_of_ne_nil started
          exact .inl (.inl (by omega))
        · exact .inl (.inr ⟨other, holds⟩)
        · exact .inr (unmoved queues (by simpa [Label.isOf] using own))
  | returned other task position =>
      by_cases own : other = thief
      · subst own
        obtain ⟨still, closer⟩ :
            Looks (before.setPosition other .checkingStop) other victim ∧
              _ := by
          apply looks.moved rfl rfl
          rw [position]
          simp [WorkerPosition.untilLook, Prod.Lex.toLex_lt_toLex]
        exact .inr ⟨still, closer.le, fun _ => closer⟩
      · exact .inr (unmoved rfl (by simpa [Label.isOf] using own))
  | panicked other task position =>
      simp only [Event.isPanicked, List.countP_cons, List.countP_nil,
        if_true] at balance
      exact .inl (.inl (by omega))

/-- What a thief leaves of the queue of a dead worker gets less. -/
theorem victim_robbed
    (execution : Machine.Execution (machine workers Task))
    (fair : ∀ id, execution.Fair (Label.isOf id))
    {time : Nat}
    (undisturbed :
      ∀ later, time ≤ later → (execution.labels later).disturbs = false)
    (attended : Attended (execution.states time))
    {thief victim : Fin workers}
    (looks : Looks (execution.states time) thief victim) :
    ∃ later, time ≤ later ∧
      Attended (execution.states later) ∧
      (remaining (execution.states later) <
          remaining (execution.states time) ∨
        remaining (execution.states later) =
            remaining (execution.states time) ∧
          ∃ id, Holds (execution.states later) id) := by
  apply (fair thief).reaches
    (fun scheduler =>
      Attended scheduler ∧
        remaining scheduler = remaining (execution.states time) ∧
        Looks scheduler thief victim)
    (fun scheduler =>
      Attended scheduler ∧
        (remaining scheduler < remaining (execution.states time) ∨
          remaining scheduler = remaining (execution.states time) ∧
            ∃ id, Holds scheduler id))
    (fun scheduler => (scheduler.positions thief).untilLook victim)
  · rintro moment notBefore ⟨stillAttended, alike, stillLooks⟩
    have quiet := undisturbed moment notBefore
    have step := execution.valid moment
    have balance := step_remaining stillAttended step quiet
    have attendedNow :=
      stillAttended.undisturbed (undisturbedStep_of_step step quiet)
    rw [← alike]
    obtain (less | holder) | moved :=
      step_looks stillAttended stillLooks step quiet
    · exact .inl ⟨attendedNow, .inl less⟩
    · have notMore :
          remaining (execution.states (moment + 1)) ≤
            remaining (execution.states moment) := by
        omega
      exact .inl ⟨attendedNow,
        notMore.lt_or_eq.imp_right fun same => ⟨same, holder⟩⟩
    · by_cases less :
          remaining (execution.states (moment + 1)) <
            remaining (execution.states moment)
      · exact .inl ⟨attendedNow, .inl less⟩
      · exact .inr ⟨⟨attendedNow, by omega, moved.1⟩, moved.2⟩
  · rintro scheduler ⟨-, -, stillLooks⟩
    exact enabled_of_not_isOut stillLooks.alive
  · exact ⟨attended, rfl, looks⟩

/-- The living have no task left, and the dead at most one each. -/
structure Drained (scheduler : Scheduler workers Task) : Prop where
  living :
    ∀ id, (scheduler.positions id).isOut = false → ¬ Holds scheduler id
  last : ∀ id, (scheduler.queues id).length ≤ 1

omit [NeZero workers] in
/-- Where there is more to do, somebody living has a task or can steal one. -/
theorem not_drained_cases
    {scheduler : Scheduler workers Task}
    (attended : Attended scheduler)
    (someone : ¬ AllOut scheduler)
    (undrained : ¬ Drained scheduler) :
    (∃ id, Holds scheduler id) ∨
      ∃ thief victim, Looks scheduler thief victim := by
  by_cases holder : ∃ id, Holds scheduler id
  · exact .inl holder
  · have none := not_exists.mp holder
    have victim : ∃ id, ¬ (scheduler.queues id).length ≤ 1 := by
      by_contra short
      exact undrained ⟨fun id _ => none id, not_exists_not.mp short⟩
    obtain ⟨victim, long⟩ := victim
    obtain ⟨thief, alive⟩ := not_forall.mp someone
    rw [Bool.not_eq_true] at alive
    have bare (id : Fin workers)
        (alive : (scheduler.positions id).isOut = false) :
        scheduler.queues id = [] ∧ (scheduler.positions id).batch = [] := by
      constructor
      · by_contra filled
        exact none id ⟨alive, .inl filled⟩
      · by_contra filled
        exact none id ⟨alive, .inr filled⟩
    refine .inr ⟨thief, victim, alive, (bare thief alive).1,
      (bare thief alive).2, ?_, by omega⟩
    cases position : scheduler.positions victim with
    | unwound => rfl
    | exited => exact (attended.inLoop victim position).elim
    | _ =>
        have empty := (bare victim (by rw [position]; rfl)).1
        rw [empty] at long
        exact (long (Nat.zero_le 1)).elim

omit [NeZero workers] in
/-- A worker that moves with nothing in its hands changes nothing. -/
theorem Drained.moved
    (drained : Drained before)
    {id : Fin workers}
    {position : WorkerPosition workers Task}
    (alive : (before.positions id).isOut = false)
    (batch : position.batch = []) :
    Drained (before.setPosition id position) where
  living := by
    rintro other - ⟨stillAlive, some⟩
    by_cases same : other = id
    · subst other
      rw [setPosition_positions_self, batch] at some
      refine drained.living id alive ⟨alive, .inl ?_⟩
      exact some.resolve_right fun filled => filled rfl
    · rw [setPosition_positions_of_ne _ same] at stillAlive some
      exact drained.living other stillAlive ⟨stillAlive, some⟩
  last := drained.last

omit [NeZero workers] in
/-- What has drained stays so. -/
theorem Drained.step
    (attended : Attended before)
    (drained : Drained before)
    (step : UndisturbedStep before label after events) :
    Drained after := by
  cases step with
  | claimed task after queues positions stop =>
      obtain ⟨living, last⟩ := drained
      refine ⟨fun id alive holds => living id ?_ ⟨?_, ?_⟩, ?_⟩
      · rwa [positions] at alive
      · exact positions ▸ holds.alive
      · exact queues ▸ positions ▸ holds.some
      · rwa [queues]
  | worked id after events step =>
      cases step with
      | exit position stopped =>
          rw [attended.running] at stopped
          cases stopped
      | start task rest position queue =>
          refine (drained.living id ?_ ⟨?_, .inl ?_⟩).elim
          · rw [position]
            rfl
          · rw [position]
            rfl
          · rw [queue]
            exact List.cons_ne_nil task rest
      | steal target targets batch rest position shape nonempty =>
          have nothing :=
            RunQueue.stealHalf_of_length_le_one (drained.last target)
          rw [shape] at nothing
          exact (nonempty (congrArg Prod.fst nothing)).elim
      | repush task batch position =>
          refine (drained.living id ?_ ⟨?_, .inr ?_⟩).elim
          · rw [position]
            rfl
          · rw [position]
            rfl
          · rw [position]
            exact List.cons_ne_nil task batch
      | goOn position | empty position | yield position
        | refused target targets position | pushed position =>
          exact drained.moved (by rw [position]; rfl) rfl
  | returned id task position | panicked id task position =>
      exact drained.moved (by rw [position]; rfl) rfl

omit [NeZero workers] in
/-- Where all workers live, nothing waits any more. -/
theorem Drained.waitingTasks
    {scheduler : Scheduler workers Task}
    (drained : Drained scheduler)
    (alive : ∀ id, (scheduler.positions id).isOut = false) :
    waitingTasks scheduler = 0 := by
  have bare (id : Fin workers) :
      scheduler.queues id = [] ∧ (scheduler.positions id).batch = [] := by
    have nothing := drained.living id (alive id)
    constructor
    · by_contra filled
      exact nothing ⟨alive id, .inl filled⟩
    · by_contra filled
      exact nothing ⟨alive id, .inr filled⟩
  simp [Scheduler.waitingTasks, queuedTasks, carriedTasks, bare]

/-- As long as nobody shuts it down, a scheduler runs before its shutdown. -/
theorem attended_of_run
    {scheduler : Scheduler workers Task}
    {log : List (Event workers Task)}
    (run :
      Machine.Run (machine workers Task) (new workers Task) log scheduler)
    (running : scheduler.stop = false) :
    Attended scheduler := by
  refine run.invariant
    (fun scheduler => scheduler.stop = false → Attended scheduler)
    ?_ (fun _ => ⟨rfl, by simp [new], by simp [new]⟩) running
  intro before label after events attended step runningAfter
  have runningBefore : before.stop = false := by
    by_contra stopped
    rw [step_stopping (Bool.eq_true_of_not_eq_false stopped) step]
      at runningAfter
    cases runningAfter
  cases label with
  | push call =>
      simp only [machine] at step
      split at step
      · cases step
      · cases step
        exact { attended runningBefore with }
  | setStop =>
      cases step
      cases runningAfter
  | claim | worker | finish | panic =>
      exact (attended runningBefore).undisturbed
        (undisturbedStep_of_step step rfl)

/--
Once nothing more is pushed and nobody shuts the scheduler down, its queues
drain, however the threads and the thieves are scheduled, as long as no thread
and no task is left alone for ever: the living workers have no task any more and
the dead ones at most one each, or there is no living worker.  If no task has
panicked, every task has been started.
-/
theorem queues_drain
    (execution : Machine.Execution (machine workers Task))
    (fair : ∀ id, execution.Fair (Label.isOf id))
    {time : Nat}
    {log : List (Event workers Task)}
    (run :
      Machine.Run (machine workers Task) (new workers Task) log
        (execution.states time))
    (running : (execution.states time).stop = false)
    (undisturbed :
      ∀ later, time ≤ later → (execution.labels later).disturbs = false) :
    ∃ settled, time ≤ settled ∧
      (AllOut (execution.states settled) ∨
        ∀ later, settled ≤ later →
          Drained (execution.states later) ∧
            ((∀ id,
                ((execution.states later).positions id).isOut = false) →
              waitingTasks (execution.states later) = 0)) := by
  have attended (later : Nat) (notBefore : time ≤ later) :
      Attended (execution.states later) := by
    induction later, notBefore using Nat.le_induction with
    | base => exact attended_of_run run running
    | succ later notBefore inductionHypothesis =>
        exact inductionHypothesis.undisturbed
          (undisturbedStep_of_step (execution.valid later)
            (undisturbed later notBefore))
  have settles :
      ∃ settled, time ≤ settled ∧
        (AllOut (execution.states settled) ∨
          Drained (execution.states settled)) := by
    apply execution.eventually_by_rank remaining
      (fun scheduler => AllOut scheduler ∨ Drained scheduler)
    intro moment notBefore
    by_cases reached :
        AllOut (execution.states moment) ∨ Drained (execution.states moment)
    · exact ⟨moment, le_refl moment, .inl reached⟩
    · rw [not_or] at reached
      have quiet (later : Nat) (since : moment ≤ later) :=
        undisturbed later (notBefore.trans since)
      obtain ⟨id, holds⟩ | ⟨thief, victim, looks⟩ :=
        not_drained_cases (attended moment notBefore) reached.1 reached.2
      · obtain ⟨later, since, less⟩ :=
          holder_starts execution (fair id) quiet
            (attended moment notBefore) holds
        exact ⟨later, since, .inr less⟩
      · obtain ⟨robbed, since, attendedThen, less | ⟨same, id, holds⟩⟩ :=
          victim_robbed execution fair quiet (attended moment notBefore) looks
        · exact ⟨robbed, since, .inr less⟩
        · obtain ⟨later, onward, less⟩ :=
            holder_starts execution (fair id)
              (fun later onward => quiet later (since.trans onward))
              attendedThen holds
          rw [same] at less
          exact ⟨later, since.trans onward, .inr less⟩
  obtain ⟨settled, notBefore, out | drained⟩ := settles
  · exact ⟨settled, notBefore, .inl out⟩
  · refine ⟨settled, notBefore, .inr fun later since => ?_⟩
    have stillDrained : Drained (execution.states later) := by
      induction later, since using Nat.le_induction with
      | base => exact drained
      | succ later since inductionHypothesis =>
          have still := notBefore.trans since
          exact inductionHypothesis.step (attended later still)
            (undisturbedStep_of_step (execution.valid later)
              (undisturbed later still))
    exact ⟨stillDrained, stillDrained.waitingTasks⟩

end Drained

/-- Two workers with two tasks each, and a fifth for the first. -/
def fiveTasks : List (Label 2 Nat) :=
  [.claim 0, .claim 1, .claim 2, .claim 3, .claim 4,
    .push 0, .push 0, .push 0, .push 0, .push 0]

/-- The first worker dies of its first task.  The other does its own two, steals
one of the two that are left, does it and finds nothing more to take. -/
def survivorWorks (first second : Fin 2) : List (Label 2 Nat) :=
  [.worker first, .worker first, .panic first,
    .worker second, .worker second, .finish second,
    .worker second, .worker second, .finish second,
    .worker second, .worker second, .worker second, .worker second,
    .worker second, .worker second, .worker second, .finish second]

/-- The survivor goes round and finds nothing to do. -/
def goesRound (survivor : Fin 2) : List (Label 2 Nat) :=
  [.worker survivor, .worker survivor, .worker survivor, .worker survivor]

theorem run?_goesRound
    {scheduler : Scheduler 2 Nat}
    (running : scheduler.stop = false)
    (position : scheduler.positions 1 = .checkingStop)
    (empty : scheduler.queues 1 = [])
    (short : (scheduler.queues 0).length ≤ 1) :
    (machine 2 Nat).run? scheduler (goesRound 1) = some (scheduler, []) := by
  have targets : stealTargets (1 : Fin 2) = [0] := by decide
  have nothing := RunQueue.stealHalf_of_length_le_one short
  have back : scheduler.setPosition 1 .checkingStop = scheduler := by
    rw [setPosition, ← position, Function.update_eq_self]
  have round :
      (((scheduler.setPosition 1 .popping).setPosition 1
          (.stealing [0])).setPosition 1 (.stealing [])).setPosition 1
          .checkingStop = scheduler := by
    simpa [setPosition] using back
  simp [goesRound, Machine.run?, machine, workerStep?, running, position,
    empty, targets, nothing, RunQueue.pop, round]

theorem queues_drain_survivor :
    ∃ (execution : Machine.Execution (machine 2 Nat)) (log : _),
      (machine 2 Nat).run? (new 2 Nat) fiveTasks =
          some (execution.states 0, log) ∧
        ∃ settled,
          AllOut (execution.states settled) ∨
            ∀ later, settled ≤ later → Drained (execution.states later) := by
  obtain ⟨full, log, final, later, pushed, running, worked, lost, round⟩ :
      ∃ full log final later,
        (machine 2 Nat).run? (new 2 Nat) fiveTasks = some (full, log) ∧
          full.stop = false ∧
          (machine 2 Nat).run? full (survivorWorks 0 1) = some (final, later) ∧
          (final.positions 0).isOut = true ∧
          (machine 2 Nat).run? final (goesRound 1) = some (final, []) := by
    refine ⟨_, _, _, _, rfl, rfl, rfl, rfl, ?_⟩
    apply run?_goesRound <;> decide
  obtain ⟨execution, rfl, -, among, fair⟩ :=
    Machine.Execution.exists_of_lasso (survivorWorks 0 1) worked (goesRound 1)
      (List.cons_ne_nil _ _) round
  have undisturbed (time : Nat) :
      (execution.labels time).disturbs = false := by
    have quiet :
        ∀ label ∈ survivorWorks 0 1 ++ goesRound 1, label.disturbs = false := by
      simp [survivorWorks, goesRound, Label.disturbs]
    apply quiet
    apply List.mem_append.mpr
    exact (List.mem_append.mp (among time)).imp
      Machine.Execution.label_of_taken Machine.Execution.label_of_taken
  have fairly (id : Fin 2) : execution.Fair (Label.isOf id) := by
    apply Machine.Execution.FairWhile.fair
    apply fair
    fin_cases id
    · exact .inr fun enabled => not_enabled_of_isOut lost enabled.2
    · exact .inl (by decide)
  obtain ⟨settled, -, reached⟩ :=
    queues_drain execution fairly (Machine.run?_sound fiveTasks pushed) running
      fun later _ => undisturbed later
  exact ⟨execution, log, pushed, settled,
    reached.imp_right fun drained later since => (drained later since).1⟩

end Scheduler

end Runact
