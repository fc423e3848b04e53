import Runact.Fifo

namespace Runact

/-!
# The work-stealing scheduler

`Scheduler::new` starts one thread per worker; each runs `worker_loop` over its
own `RunQueue` and the queues of all other workers.  A step of the machine is
one lock section or one atomic access: a worker's load of the stop flag, its
`pop`, one `steal_half`, one `push` of a stolen task, and for `Scheduler::spawn`
the `fetch_add` on `next_worker` and the `push`.  Between `pop` and the end of
`task()` the worker is inside the task; how long, and whether the task returns
or panics, is a scheduling choice.
-/

universe u

/-- `RunQueue`: the tasks behind the mutex, front first. -/
abbrev RunQueue (Task : Type u) := List Task

namespace RunQueue

variable {Task : Type u}

/-- `RunQueue::push`. -/
def push (queue : RunQueue Task) (task : Task) : RunQueue Task :=
  queue ++ [task]

/-- `RunQueue::pop`. -/
def pop : RunQueue Task → Option (Task × RunQueue Task)
  | [] => none
  | task :: rest => some (task, rest)

/-- `RunQueue::steal_half`: the stolen tasks and what the victim keeps. -/
def stealHalf (queue : RunQueue Task) : List Task × RunQueue Task :=
  let len := queue.length
  if len ≤ 1 then
    ([], queue)
  else
    let stealCount := len / 2
    (queue.take stealCount, queue.drop stealCount)

/-- Stealing cuts the queue in two and reorders nothing. -/
theorem stealHalf_append (queue : RunQueue Task) :
    (stealHalf queue).1 ++ (stealHalf queue).2 = queue := by
  by_cases short : queue.length ≤ 1 <;>
    simp [stealHalf, short]

/-- A queue with at most one task is never stolen from. -/
theorem stealHalf_of_length_le_one
    {queue : RunQueue Task}
    (short : queue.length ≤ 1) :
    stealHalf queue = ([], queue) := by
  simp [stealHalf, short]

end RunQueue

/-- Where a worker thread stands in `worker_loop`. -/
inductive WorkerPosition (workers : Nat) (Task : Type u) where
  /-- Top of the loop, about to load the stop flag. -/
  | checkingStop
  /-- About to pop the local queue. -/
  | popping
  /-- Inside `task()`. -/
  | running (task : Task)
  /-- In the scan over the steal targets still listed. -/
  | stealing (targets : List (Fin workers))
  /-- Pushing a stolen batch, one lock section per task. -/
  | pushing (batch : List Task)
  /-- Left the loop because the stop flag was set. -/
  | exited
  /-- The thread ended because the task it ran panicked. -/
  | unwound
  deriving DecidableEq

namespace WorkerPosition

variable {workers : Nat} {Task : Type u}

/-- The stolen tasks a worker still has to push. -/
def batch : WorkerPosition workers Task → List Task
  | .pushing batch => batch
  | _ => []

end WorkerPosition

/-- The scheduler: its queues, its counter and flag, and its worker threads. -/
structure Scheduler (workers : Nat) (Task : Type u) where
  queues : Fin workers → RunQueue Task
  nextWorker : Nat
  stop : Bool
  positions : Fin workers → WorkerPosition workers Task
  /-- `spawn` calls between their `fetch_add` and their `push`. -/
  claims : List (Fin workers × Task)

namespace Scheduler

variable {workers : Nat} {Task : Type u}

/-- `Scheduler::new`: empty queues, all worker threads at the top of the loop. -/
def new (workers : Nat) (Task : Type u) : Scheduler workers Task where
  queues := fun _ => []
  nextWorker := 0
  stop := false
  positions := fun _ => .checkingStop
  claims := []

/-- The queues a worker may steal from, in scan order: all but its own. -/
def stealTargets (id : Fin workers) : List (Fin workers) :=
  (List.finRange workers).filter (· ≠ id)

/-- Replace the content of one queue. -/
def setQueue
    (scheduler : Scheduler workers Task)
    (queue : Fin workers)
    (content : RunQueue Task) : Scheduler workers Task :=
  { scheduler with queues := Function.update scheduler.queues queue content }

/-- Move one worker thread to another position. -/
def setPosition
    (scheduler : Scheduler workers Task)
    (id : Fin workers)
    (position : WorkerPosition workers Task) : Scheduler workers Task :=
  { scheduler with
    positions := Function.update scheduler.positions id position }

@[simp] theorem setPosition_queues
    (scheduler : Scheduler workers Task)
    (id : Fin workers)
    (position : WorkerPosition workers Task) :
    (scheduler.setPosition id position).queues = scheduler.queues :=
  rfl

theorem setQueue_queues_of_ne
    (scheduler : Scheduler workers Task)
    {changed queue : Fin workers}
    (different : queue ≠ changed)
    (content : RunQueue Task) :
    (scheduler.setQueue changed content).queues queue =
      scheduler.queues queue :=
  Function.update_of_ne different _ _

@[simp] theorem setQueue_queues_self
    (scheduler : Scheduler workers Task)
    (queue : Fin workers)
    (content : RunQueue Task) :
    (scheduler.setQueue queue content).queues queue = content :=
  Function.update_self _ _ _

@[simp] theorem setPosition_positions_self
    (scheduler : Scheduler workers Task)
    (id : Fin workers)
    (position : WorkerPosition workers Task) :
    (scheduler.setPosition id position).positions id = position :=
  Function.update_self _ _ _

theorem setPosition_positions_of_ne
    (scheduler : Scheduler workers Task)
    {id other : Fin workers}
    (different : other ≠ id)
    (position : WorkerPosition workers Task) :
    (scheduler.setPosition id position).positions other =
      scheduler.positions other :=
  Function.update_of_ne different _ _

/-- Forget a `spawn` call that has done its `push`. -/
def dropClaim
    (scheduler : Scheduler workers Task)
    (call : Nat) : Scheduler workers Task :=
  { scheduler with claims := scheduler.claims.eraseIdx call }

/-- Scheduling choices: who takes the next atomic step. -/
inductive Label (workers : Nat) (Task : Type u) where
  /-- The `fetch_add` of a `spawn` call. -/
  | claim (task : Task)
  /-- The `push` of one of the `spawn` calls in flight. -/
  | push (call : Nat)
  /-- The next step of a worker that is not inside a task. -/
  | worker (id : Fin workers)
  /-- The task a worker runs returns. -/
  | finish (id : Fin workers)
  /-- The task a worker runs panics. -/
  | panic (id : Fin workers)
  /-- `shutdown` stores `true` into the stop flag. -/
  | setStop

/-- What a step makes visible. -/
inductive Event (workers : Nat) (Task : Type u) where
  /-- `spawn` pushed its task. -/
  | spawned (queue : Fin workers) (task : Task)
  /-- A worker popped a task from its own queue and started it. -/
  | started (queue : Fin workers) (task : Task)
  /-- A thief took a batch from the front of a victim's queue. -/
  | stolen (victim thief : Fin workers) (batch : List Task)
  /-- A thief pushed one stolen task onto its own queue. -/
  | repushed (queue : Fin workers) (task : Task)
  | finished (id : Fin workers) (task : Task)
  | panicked (id : Fin workers) (task : Task)
  deriving DecidableEq

/-- The body of `worker_loop`, one atomic step at a time. -/
def workerStep?
    (scheduler : Scheduler workers Task)
    (id : Fin workers) :
    Option (Scheduler workers Task × List (Event workers Task)) :=
  match scheduler.positions id with
  | .checkingStop =>
      if scheduler.stop then
        some (scheduler.setPosition id .exited, [])
      else
        some (scheduler.setPosition id .popping, [])
  | .popping =>
      match (scheduler.queues id).pop with
      | some (task, rest) =>
          some ((scheduler.setQueue id rest).setPosition id (.running task),
            [.started id task])
      | none =>
          some (scheduler.setPosition id (.stealing (stealTargets id)), [])
  | .stealing [] =>
      -- nothing was stolen: `thread::yield_now`, and around again
      some (scheduler.setPosition id .checkingStop, [])
  | .stealing (target :: targets) =>
      match (scheduler.queues target).stealHalf with
      | ([], _) =>
          some (scheduler.setPosition id (.stealing targets), [])
      | (task :: batch, rest) =>
          some ((scheduler.setQueue target rest).setPosition id
              (.pushing (task :: batch)),
            [.stolen target id (task :: batch)])
  | .pushing [] =>
      some (scheduler.setPosition id .checkingStop, [])
  | .pushing (task :: batch) =>
      some ((scheduler.setQueue id ((scheduler.queues id).push task)).setPosition
          id (.pushing batch),
        [.repushed id task])
  | .running _ => none
  | .exited => none
  | .unwound => none

/-- The steps of a worker outside its tasks, one rule per branch of the loop. -/
inductive WorkerStep
    (scheduler : Scheduler workers Task)
    (id : Fin workers) :
    Scheduler workers Task → List (Event workers Task) → Prop where
  | exit :
      scheduler.positions id = .checkingStop →
      scheduler.stop = true →
      WorkerStep scheduler id (scheduler.setPosition id .exited) []
  | goOn :
      scheduler.positions id = .checkingStop →
      scheduler.stop = false →
      WorkerStep scheduler id (scheduler.setPosition id .popping) []
  | start (task : Task) (rest : RunQueue Task) :
      scheduler.positions id = .popping →
      scheduler.queues id = task :: rest →
      WorkerStep scheduler id
        ((scheduler.setQueue id rest).setPosition id (.running task))
        [.started id task]
  | empty :
      scheduler.positions id = .popping →
      scheduler.queues id = [] →
      WorkerStep scheduler id
        (scheduler.setPosition id (.stealing (stealTargets id))) []
  | yield :
      scheduler.positions id = .stealing [] →
      WorkerStep scheduler id (scheduler.setPosition id .checkingStop) []
  | refused (target : Fin workers) (targets : List (Fin workers)) :
      scheduler.positions id = .stealing (target :: targets) →
      (scheduler.queues target).stealHalf.1 = [] →
      WorkerStep scheduler id
        (scheduler.setPosition id (.stealing targets)) []
  | steal
      (target : Fin workers) (targets : List (Fin workers))
      (batch : List Task) (rest : RunQueue Task) :
      scheduler.positions id = .stealing (target :: targets) →
      (scheduler.queues target).stealHalf = (batch, rest) →
      batch ≠ [] →
      WorkerStep scheduler id
        ((scheduler.setQueue target rest).setPosition id (.pushing batch))
        [.stolen target id batch]
  | pushed :
      scheduler.positions id = .pushing [] →
      WorkerStep scheduler id (scheduler.setPosition id .checkingStop) []
  | repush (task : Task) (batch : List Task) :
      scheduler.positions id = .pushing (task :: batch) →
      WorkerStep scheduler id
        ((scheduler.setQueue id ((scheduler.queues id).push task)).setPosition
          id (.pushing batch))
        [.repushed id task]

/-- The executable worker step takes exactly the steps of the rules. -/
theorem workerStep?_iff
    {scheduler after : Scheduler workers Task}
    {id : Fin workers}
    {events : List (Event workers Task)} :
    scheduler.workerStep? id = some (after, events) ↔
      WorkerStep scheduler id after events := by
  constructor
  · intro step
    unfold workerStep? at step
    split at step
    · rename_i position
      by_cases stopped : scheduler.stop = true
      · simp only [stopped, ↓reduceIte, Option.some.injEq,
          Prod.mk.injEq] at step
        obtain ⟨rfl, rfl⟩ := step
        exact .exit position stopped
      · simp only [stopped, Bool.false_eq_true, ↓reduceIte,
          Option.some.injEq, Prod.mk.injEq] at step
        obtain ⟨rfl, rfl⟩ := step
        exact .goOn position (by simpa using stopped)
    · rename_i position
      cases queue : scheduler.queues id with
      | nil =>
          simp only [queue, RunQueue.pop, Option.some.injEq,
            Prod.mk.injEq] at step
          obtain ⟨rfl, rfl⟩ := step
          exact .empty position queue
      | cons task rest =>
          simp only [queue, RunQueue.pop, Option.some.injEq,
            Prod.mk.injEq] at step
          obtain ⟨rfl, rfl⟩ := step
          exact .start task rest position queue
    · rename_i position
      simp only [Option.some.injEq, Prod.mk.injEq] at step
      obtain ⟨rfl, rfl⟩ := step
      exact .yield position
    · rename_i target targets position
      rcases shape : (scheduler.queues target).stealHalf with ⟨batch, rest⟩
      cases batch with
      | nil =>
          simp only [shape, Option.some.injEq, Prod.mk.injEq] at step
          obtain ⟨rfl, rfl⟩ := step
          exact .refused target targets position (by rw [shape])
      | cons task later =>
          simp only [shape, Option.some.injEq, Prod.mk.injEq] at step
          obtain ⟨rfl, rfl⟩ := step
          exact .steal target targets (task :: later) rest
            position shape (List.cons_ne_nil task later)
    · rename_i position
      simp only [Option.some.injEq, Prod.mk.injEq] at step
      obtain ⟨rfl, rfl⟩ := step
      exact .pushed position
    · rename_i task batch position
      simp only [Option.some.injEq, Prod.mk.injEq] at step
      obtain ⟨rfl, rfl⟩ := step
      exact .repush task batch position
    all_goals cases step
  · intro step
    cases step with
    | exit position stopped =>
        simp [workerStep?, position, stopped]
    | goOn position running =>
        simp [workerStep?, position, running]
    | start task rest position queue =>
        simp [workerStep?, position, queue, RunQueue.pop]
    | empty position queue =>
        simp [workerStep?, position, queue, RunQueue.pop]
    | yield position =>
        simp [workerStep?, position]
    | refused target targets position nothing =>
        rcases shape : (scheduler.queues target).stealHalf with ⟨batch, rest⟩
        rw [shape] at nothing
        obtain rfl : batch = [] := nothing
        simp [workerStep?, position, shape]
    | steal target targets batch rest position shape nonempty =>
        cases batch with
        | nil =>
            exact (nonempty rfl).elim
        | cons task later =>
            simp [workerStep?, position, shape]
    | pushed position =>
        simp [workerStep?, position]
    | repush task batch position =>
        simp [workerStep?, position]

/-- The scheduler machine, for a scheduler with at least one worker. -/
def machine (workers : Nat) [NeZero workers] (Task : Type u) :
    Machine (Scheduler workers Task) (Label workers Task)
      (Event workers Task) where
  step?
    | scheduler, .claim task =>
        let idx := Fin.ofNat workers scheduler.nextWorker
        some ({ scheduler with
            nextWorker := scheduler.nextWorker + 1
            claims := scheduler.claims ++ [(idx, task)] }, [])
    | scheduler, .push call =>
        match scheduler.claims[call]? with
        | none => none
        | some (idx, task) =>
            some ((scheduler.setQueue idx
                ((scheduler.queues idx).push task)).dropClaim call,
              [.spawned idx task])
    | scheduler, .worker id => scheduler.workerStep? id
    | scheduler, .finish id =>
        match scheduler.positions id with
        | .running task =>
            some (scheduler.setPosition id .checkingStop, [.finished id task])
        | _ => none
    | scheduler, .panic id =>
        match scheduler.positions id with
        | .running task =>
            some (scheduler.setPosition id .unwound, [.panicked id task])
        | _ => none
    | scheduler, .setStop => some ({ scheduler with stop := true }, [])

end Scheduler

end Runact
