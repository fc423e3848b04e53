import Runact.Progress
import Runact.SchedulerConservation

namespace Runact

/-!
# Stopping the workers

`Scheduler::shutdown` stores the stop flag and joins the worker threads.  A
worker looks at the flag once in each iteration, before it pops: the one that is
past the check takes one more task, and everybody else takes none.  What is
queued by then, or spawned later, is never executed.
-/

universe u

variable {workers : Nat} {Task : Type u}

namespace WorkerPosition

/-- Past the check of the stop flag and before the pop: one, else zero. -/
def mayStart : WorkerPosition workers Task → Nat
  | .popping => 1
  | _ => 0

theorem mayStart_le_one (position : WorkerPosition workers Task) :
    position.mayStart ≤ 1 := by
  cases position <;> simp [mayStart]

/-- The worker thread has ended. -/
def isOut : WorkerPosition workers Task → Bool
  | .exited => true
  | .unwound => true
  | _ => false

/-- What is left to do before the stop flag is checked again: the stage of the
iteration, and how much of it remains. -/
def rank : WorkerPosition workers Task → ℕ ×ₗ ℕ
  | .popping => toLex (4, 0)
  | .stealing targets => toLex (3, targets.length)
  | .pushing batch => toLex (2, batch.length)
  | .running _ => toLex (2, 0)
  | .checkingStop => toLex (1, 0)
  | .exited => toLex (0, 0)
  | .unwound => toLex (0, 0)

end WorkerPosition

namespace Scheduler

/-- The worker started a task. -/
def Event.startedBy (id : Fin workers) : Event workers Task → Bool
  | .started queue _ => queue == id
  | _ => false

/-- The step is one of the worker's thread, inside a task or outside. -/
def Label.isOf (id : Fin workers) : Label workers Task → Bool
  | .worker own => own == id
  | .finish own => own == id
  | .panic own => own == id
  | _ => false

/-- Every worker thread has ended. -/
def AllOut (scheduler : Scheduler workers Task) : Prop :=
  ∀ id, (scheduler.positions id).isOut = true

/-- Once the stop flag is set, a worker pays for a task it starts by having been
past the check. -/
theorem WorkerStep.pays
    {scheduler after : Scheduler workers Task}
    {id : Fin workers}
    {events : List (Event workers Task)}
    (stopping : scheduler.stop = true)
    (step : WorkerStep scheduler id after events)
    (worker : Fin workers) :
    after.stop = true ∧
      events.countP (Event.startedBy worker) +
          (after.positions worker).mayStart ≤
        (scheduler.positions worker).mayStart := by
  by_cases own : worker = id
  · subst own
    cases step with
    | goOn position running =>
        rw [stopping] at running
        cases running
    | start task rest position queue =>
        refine ⟨stopping, ?_⟩
        rw [position]
        simp [Event.startedBy, WorkerPosition.mayStart]
    | _ =>
        refine ⟨stopping, ?_⟩
        simp [Event.startedBy, WorkerPosition.mayStart]
  · have other (position : WorkerPosition workers Task) :
        Function.update scheduler.positions id position worker =
          scheduler.positions worker :=
      Function.update_of_ne own position scheduler.positions
    cases step <;>
      refine ⟨stopping, ?_⟩ <;>
      simp [Event.startedBy, setPosition, setQueue, other, Ne.symm own]

section Stopped

variable [NeZero workers]

/-- Every step of a scheduler that is told to stop pays in the same way. -/
theorem step_pays
    {before after : Scheduler workers Task}
    {label : Label workers Task}
    {events : List (Event workers Task)}
    (stopping : before.stop = true)
    (step :
      (machine workers Task).step? before label = some (after, events))
    (worker : Fin workers) :
    after.stop = true ∧
      events.countP (Event.startedBy worker) +
          (after.positions worker).mayStart ≤
        (before.positions worker).mayStart := by
  cases label with
  | claim task =>
      cases step
      exact ⟨stopping, by simp⟩
  | push call =>
      simp only [machine] at step
      split at step
      · cases step
      · cases step
        exact ⟨stopping, by simp [Event.startedBy, dropClaim, setQueue]⟩
  | worker id =>
      exact (workerStep?_iff.mp step).pays stopping worker
  | finish id | panic id =>
      simp only [machine] at step
      split at step
      · rename_i task running
        cases step
        refine ⟨stopping, ?_⟩
        by_cases own : worker = id
        · subst own
          simp [Event.startedBy, WorkerPosition.mayStart]
        · simp [Event.startedBy, setPosition_positions_of_ne, own]
      · cases step
  | setStop =>
      cases step
      exact ⟨rfl, by simp⟩

/-- After the stop flag is set, a worker starts at most one more task. -/
theorem run_startedBy_le
    {stopped final : Scheduler workers Task}
    {log : List (Event workers Task)}
    (stopping : stopped.stop = true)
    (run : Machine.Run (machine workers Task) stopped log final)
    (worker : Fin workers) :
    final.stop = true ∧
      log.countP (Event.startedBy worker) +
          (final.positions worker).mayStart ≤
        (stopped.positions worker).mayStart :=
  run.budget (fun scheduler => scheduler.stop = true)
    (Event.startedBy worker)
    (fun scheduler => (scheduler.positions worker).mayStart)
    (fun stopping step => step_pays stopping step worker) stopping

/-- No step moves a thread it is not a step of. -/
theorem step_positions_of_not_isOf
    {before after : Scheduler workers Task}
    {label : Label workers Task}
    {events : List (Event workers Task)}
    (step :
      (machine workers Task).step? before label = some (after, events))
    {worker : Fin workers}
    (other : label.isOf worker = false) :
    after.positions worker = before.positions worker := by
  cases label with
  | claim task =>
      cases step
      rfl
  | push call =>
      simp only [machine] at step
      split at step
      · cases step
      · cases step
        rfl
  | worker id =>
      have different : worker ≠ id := by
        rintro rfl
        simp [Label.isOf] at other
      cases workerStep?_iff.mp step <;>
        simp [setPosition, setQueue, different]
  | finish id | panic id =>
      have different : worker ≠ id := by
        rintro rfl
        simp [Label.isOf] at other
      simp only [machine] at step
      split at step
      · cases step
        exact setPosition_positions_of_ne _ different _
      · cases step
  | setStop =>
      cases step
      rfl

/-- Once the stop flag is set, every step of a thread lowers its rank. -/
theorem step_rank_lt
    {before after : Scheduler workers Task}
    {label : Label workers Task}
    {events : List (Event workers Task)}
    (stopping : before.stop = true)
    (step :
      (machine workers Task).step? before label = some (after, events))
    {worker : Fin workers}
    (own : label.isOf worker = true) :
    (after.positions worker).rank < (before.positions worker).rank := by
  cases label with
  | claim task | push call | setStop => cases own
  | worker id =>
      obtain rfl : id = worker := by simpa [Label.isOf] using own
      cases workerStep?_iff.mp step with
      | goOn position running =>
          rw [stopping] at running
          cases running
      | exit position | start task rest position | empty position
        | yield position | refused target targets position
        | steal target targets batch rest position | pushed position
        | repush task batch position =>
          rw [setPosition_positions_self, position]
          simp [WorkerPosition.rank, Prod.Lex.toLex_lt_toLex]
  | finish id | panic id =>
      obtain rfl : id = worker := by simpa [Label.isOf] using own
      simp only [machine] at step
      split at step
      case h_1 task position =>
        cases step
        rw [setPosition_positions_self, position]
        simp [WorkerPosition.rank, Prod.Lex.toLex_lt_toLex]
      case h_2 => cases step

/-- Once the stop flag is set it stays set. -/
theorem step_stopping
    {before after : Scheduler workers Task}
    {label : Label workers Task}
    {events : List (Event workers Task)}
    (stopping : before.stop = true)
    (step :
      (machine workers Task).step? before label = some (after, events)) :
    after.stop = true := by
  have someWorker : Fin workers := 0
  exact (step_pays stopping step someWorker).1

/-- A worker thread that has ended makes no step. -/
theorem not_enabled_of_isOut
    {scheduler : Scheduler workers Task}
    {id : Fin workers}
    (out : (scheduler.positions id).isOut = true) :
    ¬ (machine workers Task).Enabled scheduler (Label.isOf id) := by
  rintro ⟨label, after, events, own, step⟩
  cases label with
  | claim task | push call | setStop => cases own
  | worker other =>
      obtain rfl : other = id := by simpa [Label.isOf] using own
      cases workerStep?_iff.mp step <;>
        simp_all [WorkerPosition.isOut]
  | finish other | panic other =>
      obtain rfl : other = id := by simpa [Label.isOf] using own
      simp only [machine] at step
      split at step
      · rename_i task running
        simp [running, WorkerPosition.isOut] at out
      · cases step

/-- When all worker threads have ended, they stay so and nothing starts. -/
theorem step_allOut
    {before after : Scheduler workers Task}
    {label : Label workers Task}
    {events : List (Event workers Task)}
    (out : AllOut before)
    (step :
      (machine workers Task).step? before label = some (after, events)) :
    AllOut after ∧ startedTasks events = [] := by
  cases label with
  | claim task =>
      cases step
      exact ⟨out, rfl⟩
  | push call =>
      simp only [machine] at step
      split at step
      · cases step
      · cases step
        exact ⟨out, rfl⟩
  | worker id | finish id | panic id =>
      exact (not_enabled_of_isOut (out id)
        ⟨_, after, events, by simp [Label.isOf], step⟩).elim
  | setStop =>
      cases step
      exact ⟨out, rfl⟩

/-- When all worker threads have ended, nothing starts any more. -/
theorem run_allOut
    {stopped final : Scheduler workers Task}
    {log : List (Event workers Task)}
    (out : AllOut stopped)
    (run : Machine.Run (machine workers Task) stopped log final) :
    AllOut final ∧ startedTasks log = [] := by
  induction run with
  | nil => exact ⟨out, rfl⟩
  | snoc label earlier last inductionHypothesis =>
      obtain ⟨outThen, none⟩ := inductionHypothesis
      obtain ⟨outNow, noneNow⟩ := step_allOut outThen last
      refine ⟨outNow, ?_⟩
      rw [startedTasks, List.filterMap_append]
      exact List.append_eq_nil_iff.mpr ⟨none, noneNow⟩

/-- A thread that has not ended can always take a step; what it runs can end. -/
theorem enabled_of_not_isOut
    {scheduler : Scheduler workers Task}
    {id : Fin workers}
    (running : (scheduler.positions id).isOut = false) :
    (machine workers Task).Enabled scheduler (Label.isOf id) := by
  have atWork
      (outside : ∀ task, scheduler.positions id ≠ .running task) :
      ∃ after events,
        (machine workers Task).step? scheduler (.worker id) =
          some (after, events) := by
    cases position : scheduler.positions id with
    | running task => exact absurd position (outside task)
    | exited | unwound => simp [position, WorkerPosition.isOut] at running
    | checkingStop =>
        cases stopping : scheduler.stop <;>
          simp [machine, workerStep?, position, stopping]
    | popping =>
        cases queue : scheduler.queues id <;>
          simp [machine, workerStep?, position, queue, RunQueue.pop]
    | stealing targets =>
        cases targets with
        | nil => simp [machine, workerStep?, position]
        | cons target targets =>
            rcases shape : (scheduler.queues target).stealHalf with
              ⟨batch, rest⟩
            cases batch <;> simp [machine, workerStep?, position, shape]
    | pushing batch =>
        cases batch <;> simp [machine, workerStep?, position]
  cases position : scheduler.positions id with
  | running task =>
      exact ⟨.finish id, scheduler.setPosition id .checkingStop,
        [.finished id task], beq_self_eq_true id, by simp [machine, position]⟩
  | _ =>
      obtain ⟨after, events, step⟩ := atWork (by simp [position])
      exact ⟨.worker id, after, events, beq_self_eq_true id, step⟩

/-- The worker threads of a scheduler that is told to stop. -/
def stoppingThreads (workers : Nat) [NeZero workers] (Task : Type u) :
    Machine.Threads (machine workers Task) (Fin workers)
      (WorkerPosition workers Task) (ℕ ×ₗ ℕ) where
  position := positions
  owns := Label.isOf
  rank := WorkerPosition.rank
  ended := WorkerPosition.isOut
  good scheduler := scheduler.stop = true
  preserved := step_stopping
  unmoved _ step other := step_positions_of_not_isOf step other
  lowered stopping step own := step_rank_lt stopping step own

/-- Once all threads have ended, what waits goes on waiting. -/
theorem run_waiting_of_allOut
    {stopped final : Scheduler workers Task}
    {log : List (Event workers Task)}
    (out : AllOut stopped)
    (run : Machine.Run (machine workers Task) stopped log final) :
    waitingTasks final = waitingTasks stopped + spawnedTasks log := by
  induction run with
  | nil => simp [spawnedTasks]
  | snoc label earlier last inductionHypothesis =>
      have moved := step_waiting_balance last
      rw [(step_allOut (run_allOut out earlier).1 last).2,
        inductionHypothesis] at moved
      simpa [spawnedTasks, add_assoc] using moved

/--
After the stop flag is set, each worker starts at most one more task, and where
no thread and no task is left alone for ever, all threads end: `shutdown`
returns.  From then on nothing is executed, whatever still waits and whatever is
spawned.
-/
theorem shutdown_ends
    (execution : Machine.Execution (machine workers Task))
    (fair : ∀ id, execution.Fair (Label.isOf id))
    (time : Nat)
    (stopping : (execution.states time).stop = true) :
    (∀ log final worker,
      Machine.Run (machine workers Task) (execution.states time) log final →
      log.countP (Event.startedBy worker) ≤ 1) ∧
      ∃ joined, time ≤ joined ∧
        AllOut (execution.states joined) ∧
        ∀ log final,
          Machine.Run (machine workers Task) (execution.states joined)
            log final →
          startedTasks log = [] ∧
            waitingTasks final =
              waitingTasks (execution.states joined) + spawnedTasks log := by
  constructor
  · intro log final worker run
    have paid := (run_startedBy_le stopping run worker).2
    have atMostOne :
        (((execution.states time).positions worker).mayStart) ≤ 1 :=
      WorkerPosition.mayStart_le_one _
    omega
  · obtain ⟨joined, notBefore, out⟩ :=
      (stoppingThreads workers Task).eventually_ended execution
        (fun thread _ stopping running =>
          (stoppingThreads workers Task).takes_step
            (fun _ running => enabled_of_not_isOut running) execution
            (fair thread) stopping running)
        time stopping
    refine ⟨joined, notBefore, out, fun log final run => ⟨?_, ?_⟩⟩
    · exact (run_allOut out run).2
    · exact run_waiting_of_allOut out run

end Stopped

/-- Two workers and two tasks; the flag is set when one worker is past the check
and the other runs the first task. -/
def stoppedBetween (first second : Fin 2) : List (Label 2 Nat) :=
  [.claim 3, .claim 4, .push 0, .push 0,
    .worker first, .worker first, .worker second, .setStop]

/-- The second worker starts its task, both tasks end, and so do the threads. -/
def bothEnd (first second : Fin 2) : List (Label 2 Nat) :=
  [.worker second, .finish first, .panic second, .worker first]

theorem shutdown_ends_stoppedBetween :
    ∃ (execution : Machine.Execution (machine 2 Nat)) (log : _) (joined : _),
      (machine 2 Nat).run? (new 2 Nat) (stoppedBetween 0 1) =
          some (execution.states 0, log) ∧
        (∀ later final worker,
          Machine.Run (machine 2 Nat) (execution.states 0) later final →
          later.countP (Event.startedBy worker) ≤ 1) ∧
        AllOut (execution.states joined) := by
  obtain ⟨stopped, log, final, later, executed, stopping, onward, idle, out⟩ :
      ∃ stopped log final later,
        (machine 2 Nat).run? (new 2 Nat) (stoppedBetween 0 1) =
            some (stopped, log) ∧
          stopped.stop = true ∧
          (machine 2 Nat).run? stopped (bothEnd 0 1) = some (final, later) ∧
          (machine 2 Nat).step? final .setStop = some (final, []) ∧
          ∀ id, (final.positions id).isOut = true :=
    ⟨_, _, _, _, rfl, rfl, rfl, rfl, by decide⟩
  obtain ⟨execution, rfl, fair⟩ :=
    Machine.Execution.exists_of_run? (bothEnd 0 1) onward .setStop idle
  obtain ⟨atMostOne, joined, -, ended, -⟩ :=
    shutdown_ends execution
      (fun id =>
        (fair _ _ fun enabled => not_enabled_of_isOut (out id) enabled.2).fair)
      0 stopping
  exact ⟨execution, log, joined, executed, atMostOne, ended⟩

end Scheduler

end Runact
