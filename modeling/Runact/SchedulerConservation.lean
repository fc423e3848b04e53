import Runact.Scheduler

namespace Runact.Scheduler

/-!
# Work stealing conserves tasks

Two facts over every run.  No task is lost or doubled: what `spawn` pushed is
what is queued, what sits in a stolen batch and what has started.  No queue is
reordered: each run queue is a first-in first-out queue whose front is taken by
its owner one task at a time and by thieves in blocks.
-/

universe u

variable {workers : Nat} {Task : Type u}

/-- Changing one summand of a finite sum, without subtraction. -/
theorem sum_update_add
    {Index Item : Type*} {Total : Type*}
    [Fintype Index] [DecidableEq Index] [AddCommMonoid Total]
    (items : Index → Item)
    (weight : Item → Total)
    (index : Index)
    (item : Item) :
    (∑ other, weight (Function.update items index item other)) +
        weight (items index) =
      (∑ other, weight (items other)) + weight item := by
  rw [← Finset.add_sum_erase _ _ (Finset.mem_univ index),
    ← Finset.add_sum_erase _ (fun other => weight (items other))
      (Finset.mem_univ index)]
  have others :
      ∑ other ∈ Finset.univ.erase index,
          weight (Function.update items index item other) =
        ∑ other ∈ Finset.univ.erase index, weight (items other) := by
    apply Finset.sum_congr rfl
    intro other member
    rw [Function.update_of_ne (Finset.ne_of_mem_erase member)]
  rw [others, Function.update_self]
  exact add_right_comm _ _ _ |>.trans
    (by rw [add_comm (weight item), add_right_comm])

namespace Event

/-- The task a `spawn` call pushed. -/
def spawned? : Event workers Task → Option Task
  | .spawned _ task => some task
  | _ => none

/-- The task a worker started. -/
def started? : Event workers Task → Option Task
  | .started _ task => some task
  | _ => none

/-- The tasks an event puts at the back of one queue. -/
def enters (queue : Fin workers) : Event workers Task → List Task
  | .spawned at' task => if at' = queue then [task] else []
  | .repushed at' task => if at' = queue then [task] else []
  | _ => []

/-- The tasks an event takes from the front of one queue, in order. -/
def leaves (queue : Fin workers) : Event workers Task → List Task
  | .started at' task => if at' = queue then [task] else []
  | .stolen victim _ batch => if victim = queue then batch else []
  | _ => []

end Event

/-- Tasks pushed by `spawn`, in order. -/
def spawnedTasks (log : List (Event workers Task)) : List Task :=
  log.filterMap Event.spawned?

/-- Tasks started by any worker, in order. -/
def startedTasks (log : List (Event workers Task)) : List Task :=
  log.filterMap Event.started?

/-- Tasks that entered one queue, in order. -/
def enteredTasks
    (queue : Fin workers)
    (log : List (Event workers Task)) : List Task :=
  log.flatMap (Event.enters queue)

/-- Tasks that left one queue by a pop or a steal, in order. -/
def leftTasks
    (queue : Fin workers)
    (log : List (Event workers Task)) : List Task :=
  log.flatMap (Event.leaves queue)

/-- All tasks behind the queues' mutexes. -/
def queuedTasks (scheduler : Scheduler workers Task) : Multiset Task :=
  ∑ id, (scheduler.queues id : Multiset Task)

/-- All tasks in stolen batches that are not pushed yet. -/
def carriedTasks (scheduler : Scheduler workers Task) : Multiset Task :=
  ∑ id, ((scheduler.positions id).batch : Multiset Task)

theorem queuedTasks_setQueue
    (scheduler : Scheduler workers Task)
    (queue : Fin workers)
    (content : RunQueue Task) :
    queuedTasks (scheduler.setQueue queue content) +
        (scheduler.queues queue : Multiset Task) =
      queuedTasks scheduler + (content : Multiset Task) :=
  sum_update_add scheduler.queues
    (fun tasks : RunQueue Task => (tasks : Multiset Task)) queue content

theorem carriedTasks_setPosition
    (scheduler : Scheduler workers Task)
    (id : Fin workers)
    (position : WorkerPosition workers Task) :
    carriedTasks (scheduler.setPosition id position) +
        ((scheduler.positions id).batch : Multiset Task) =
      carriedTasks scheduler + (position.batch : Multiset Task) :=
  sum_update_add scheduler.positions
    (fun position => (position.batch : Multiset Task)) id position

@[simp] theorem queuedTasks_setPosition
    (scheduler : Scheduler workers Task)
    (id : Fin workers)
    (position : WorkerPosition workers Task) :
    queuedTasks (scheduler.setPosition id position) =
      queuedTasks scheduler :=
  rfl

@[simp] theorem carriedTasks_setQueue
    (scheduler : Scheduler workers Task)
    (queue : Fin workers)
    (content : RunQueue Task) :
    carriedTasks (scheduler.setQueue queue content) =
      carriedTasks scheduler :=
  rfl

/-- Every task that was spawned and has not started: queued or carried. -/
def waitingTasks (scheduler : Scheduler workers Task) : Multiset Task :=
  queuedTasks scheduler + carriedTasks scheduler

theorem waitingTasks_setPosition
    (scheduler : Scheduler workers Task)
    (id : Fin workers)
    (position : WorkerPosition workers Task) :
    waitingTasks (scheduler.setPosition id position) +
        ((scheduler.positions id).batch : Multiset Task) =
      waitingTasks scheduler + (position.batch : Multiset Task) := by
  simp only [waitingTasks, queuedTasks_setPosition, add_assoc,
    carriedTasks_setPosition]

theorem waitingTasks_setQueue
    (scheduler : Scheduler workers Task)
    (queue : Fin workers)
    (content : RunQueue Task) :
    waitingTasks (scheduler.setQueue queue content) +
        (scheduler.queues queue : Multiset Task) =
      waitingTasks scheduler + (content : Multiset Task) := by
  simp only [waitingTasks, carriedTasks_setQueue]
  rw [add_right_comm, queuedTasks_setQueue, add_right_comm]

/-- A worker's step moves tasks, and starts exactly the one it pops. -/
theorem WorkerStep.waiting_balance
    {scheduler after : Scheduler workers Task}
    {id : Fin workers}
    {events : List (Event workers Task)}
    (step : WorkerStep scheduler id after events) :
    waitingTasks after + (startedTasks events : Multiset Task) =
      waitingTasks scheduler + (spawnedTasks events : Multiset Task) := by
  -- a change of position between two positions that carry no batch is silent
  have silent
      (position : WorkerPosition workers Task)
      (batchBefore : (scheduler.positions id).batch = [])
      (batchAfter : position.batch = []) :
      waitingTasks (scheduler.setPosition id position) +
          (startedTasks ([] : List (Event workers Task)) : Multiset Task) =
        waitingTasks scheduler +
          (spawnedTasks ([] : List (Event workers Task)) :
            Multiset Task) := by
    have moved := waitingTasks_setPosition scheduler id position
    rw [batchBefore, batchAfter] at moved
    exact moved
  classical
  cases step with
  | exit position =>
      exact silent _ (by rw [position]; rfl) rfl
  | goOn position =>
      exact silent _ (by rw [position]; rfl) rfl
  | empty position =>
      exact silent _ (by rw [position]; rfl) rfl
  | yield position =>
      exact silent _ (by rw [position]; rfl) rfl
  | refused target targets position =>
      exact silent _ (by rw [position]; rfl) rfl
  | pushed position =>
      exact silent _ (by rw [position]; rfl) rfl
  | start task rest position queue =>
      have popped := waitingTasks_setQueue scheduler id rest
      have moved :=
        waitingTasks_setPosition (scheduler.setQueue id rest) id
          (.running task)
      rw [queue] at popped
      rw [show ((scheduler.setQueue id rest).positions id) = .popping
        from position] at moved
      refine Multiset.ext.mpr fun item => ?_
      have poppedItem := congrArg (Multiset.count item) popped
      have movedItem := congrArg (Multiset.count item) moved
      simp [startedTasks, spawnedTasks, Event.started?, Event.spawned?,
        WorkerPosition.batch, List.count_cons, -Multiset.coe_singleton]
        at poppedItem movedItem ⊢
      omega
  | steal target targets batch rest position shape nonempty =>
      have cut := waitingTasks_setQueue scheduler target rest
      have moved :=
        waitingTasks_setPosition (scheduler.setQueue target rest) id
          (.pushing batch)
      have whole := RunQueue.stealHalf_append (scheduler.queues target)
      rw [shape] at whole
      rw [← whole] at cut
      rw [show ((scheduler.setQueue target rest).positions id) =
        .stealing (target :: targets) from position] at moved
      refine Multiset.ext.mpr fun item => ?_
      have cutItem := congrArg (Multiset.count item) cut
      have movedItem := congrArg (Multiset.count item) moved
      simp [startedTasks, spawnedTasks, Event.started?, Event.spawned?,
        WorkerPosition.batch]
        at cutItem movedItem ⊢
      omega
  | repush task batch position =>
      have pushed :=
        waitingTasks_setQueue scheduler id
          ((scheduler.queues id).push task)
      have moved :=
        waitingTasks_setPosition
          (scheduler.setQueue id ((scheduler.queues id).push task)) id
          (.pushing batch)
      rw [show ((scheduler.setQueue id
          ((scheduler.queues id).push task)).positions id) =
        .pushing (task :: batch) from position] at moved
      refine Multiset.ext.mpr fun item => ?_
      have pushedItem := congrArg (Multiset.count item) pushed
      have movedItem := congrArg (Multiset.count item) moved
      simp [startedTasks, spawnedTasks, Event.started?, Event.spawned?,
        WorkerPosition.batch, RunQueue.push, List.count_cons]
        at pushedItem movedItem ⊢
      omega

/-- A step of any thread moves tasks, spawns them or starts them. -/
theorem step_waiting_balance
    [NeZero workers]
    {scheduler after : Scheduler workers Task}
    {label : Label workers Task}
    {events : List (Event workers Task)}
    (step :
      (machine workers Task).step? scheduler label = some (after, events)) :
    waitingTasks after + (startedTasks events : Multiset Task) =
      waitingTasks scheduler + (spawnedTasks events : Multiset Task) := by
  cases label with
  | claim task =>
      simp only [machine, Option.some.injEq, Prod.mk.injEq] at step
      obtain ⟨rfl, rfl⟩ := step
      rfl
  | push call =>
      simp only [machine] at step
      cases claimed : scheduler.claims[call]? with
      | none =>
          simp [claimed] at step
      | some claim =>
          obtain ⟨idx, task⟩ := claim
          simp only [claimed, Option.some.injEq, Prod.mk.injEq] at step
          obtain ⟨rfl, rfl⟩ := step
          have pushed :=
            waitingTasks_setQueue scheduler idx
              ((scheduler.queues idx).push task)
          rw [RunQueue.push, ← Multiset.coe_add, add_comm
            (scheduler.queues idx : Multiset Task), ← add_assoc] at pushed
          change
            waitingTasks (scheduler.setQueue idx
              (scheduler.queues idx ++ [task])) + 0 =
              waitingTasks scheduler + ([task] : Multiset Task)
          rw [add_zero]
          exact add_right_cancel pushed
  | worker id =>
      exact (workerStep?_iff.mp step).waiting_balance
  | finish id =>
      simp only [machine] at step
      cases position : scheduler.positions id with
      | running task =>
          simp only [position, Option.some.injEq, Prod.mk.injEq] at step
          obtain ⟨rfl, rfl⟩ := step
          have moved :=
            waitingTasks_setPosition scheduler id .checkingStop
          rw [position] at moved
          exact moved
      | _ =>
          simp [position] at step
  | panic id =>
      simp only [machine] at step
      cases position : scheduler.positions id with
      | running task =>
          simp only [position, Option.some.injEq, Prod.mk.injEq] at step
          obtain ⟨rfl, rfl⟩ := step
          have moved := waitingTasks_setPosition scheduler id .unwound
          rw [position] at moved
          exact moved
      | _ =>
          simp [position] at step
  | setStop =>
      simp only [machine, Option.some.injEq, Prod.mk.injEq] at step
      obtain ⟨rfl, rfl⟩ := step
      rfl

/-- Over any run, what was spawned is what waits and what has started. -/
theorem run_waiting_balance
    [NeZero workers]
    {scheduler : Scheduler workers Task}
    {log : List (Event workers Task)}
    (run :
      Machine.Run (machine workers Task) (new workers Task) log scheduler) :
    waitingTasks scheduler + (startedTasks log : Multiset Task) =
      (spawnedTasks log : Multiset Task) := by
  refine run.history
    (fun log scheduler =>
      waitingTasks scheduler + (startedTasks log : Multiset Task) =
        (spawnedTasks log : Multiset Task)) ?_ ?_
  · intro log before label after events balanced step
    have stepBalance := step_waiting_balance step
    simp only [startedTasks, spawnedTasks, List.filterMap_append,
      ← Multiset.coe_add] at balanced stepBalance ⊢
    rw [add_left_comm, stepBalance, ← balanced, ← add_assoc,
      add_comm _ (waitingTasks before)]
  · simp [waitingTasks, queuedTasks, carriedTasks, new,
      WorkerPosition.batch, startedTasks, spawnedTasks]

/-- Each run queue, seen as a first-in first-out queue of its own. -/
def queueView
    (queue : Fin workers)
    (scheduler : Scheduler workers Task) : Fifo Task where
  items := scheduler.queues queue

@[simp] theorem queueView_setPosition
    (queue : Fin workers)
    (scheduler : Scheduler workers Task)
    (id : Fin workers)
    (position : WorkerPosition workers Task) :
    queueView queue (scheduler.setPosition id position) =
      queueView queue scheduler :=
  rfl

@[simp] theorem queueView_dropClaim
    (queue : Fin workers)
    (scheduler : Scheduler workers Task)
    (call : Nat) :
    queueView queue (scheduler.dropClaim call) =
      queueView queue scheduler :=
  rfl

/-- What a scheduler event does to one run queue. -/
def queueEvents
    (queue : Fin workers)
    (event : Event workers Task) : List (Fifo.Event Task) :=
  (event.leaves queue).map .left ++ (event.enters queue).map .entered

/-- Pushing one task runs the abstract queue by one entry, or not at all. -/
theorem queueView_push
    (scheduler : Scheduler workers Task)
    (queue changed : Fin workers)
    (task : Task) :
    Machine.Run (Fifo.machine Task) (queueView queue scheduler)
      ((if changed = queue then [task] else []).map Fifo.Event.entered)
      (queueView queue
        (scheduler.setQueue changed
          ((scheduler.queues changed).push task))) := by
  by_cases same : changed = queue
  · subst changed
    simpa [queueView, RunQueue.push] using
      Fifo.run_put (scheduler.queues queue) task
  · simp only [queueView, same, ↓reduceIte, List.map_nil,
      setQueue_queues_of_ne scheduler (Ne.symm same)]
    exact .nil

/-- Cutting a leading block runs the abstract queue by that block, or not. -/
theorem queueView_takeBlock
    (scheduler : Scheduler workers Task)
    (queue changed : Fin workers)
    (block : List Task)
    {rest : RunQueue Task}
    (whole : scheduler.queues changed = block ++ rest) :
    Machine.Run (Fifo.machine Task) (queueView queue scheduler)
      ((if changed = queue then block else []).map Fifo.Event.left)
      (queueView queue (scheduler.setQueue changed rest)) := by
  by_cases same : changed = queue
  · subst changed
    simpa [queueView, whole] using Fifo.run_takeBlock block rest true
  · simp only [queueView, same, ↓reduceIte, List.map_nil,
      setQueue_queues_of_ne scheduler (Ne.symm same)]
    exact .nil

/-- A worker's step runs each abstract queue by the events it shows. -/
theorem WorkerStep.queue_run
    {scheduler after : Scheduler workers Task}
    {id : Fin workers}
    {events : List (Event workers Task)}
    (step : WorkerStep scheduler id after events)
    (queue : Fin workers) :
    Machine.Run (Fifo.machine Task) (queueView queue scheduler)
      (events.flatMap (queueEvents queue)) (queueView queue after) := by
  cases step with
  | start task rest position shape =>
      simpa [queueEvents, Event.leaves, Event.enters] using
        queueView_takeBlock scheduler queue id [task] shape
  | steal target targets batch rest position shape nonempty =>
      have whole : scheduler.queues target = batch ++ rest := by
        have cut := RunQueue.stealHalf_append (scheduler.queues target)
        rw [shape] at cut
        exact cut.symm
      simpa [queueEvents, Event.leaves, Event.enters] using
        queueView_takeBlock scheduler queue target batch whole
  | repush task batch position =>
      simpa [queueEvents, Event.leaves, Event.enters] using
        queueView_push scheduler queue id task
  | _ =>
      exact .nil

/-- The scheduler simulates one first-in first-out queue per worker. -/
def queueSimulation
    [NeZero workers]
    (queue : Fin workers) :
    Machine.Simulation (machine workers Task) (Fifo.machine Task) where
  view := queueView queue
  observe := queueEvents queue
  good := fun _ => True
  preserved := fun _ _ => trivial
  matched := by
    intro scheduler label after events _ step
    cases label with
    | claim task =>
        simp only [machine, Option.some.injEq, Prod.mk.injEq] at step
        obtain ⟨rfl, rfl⟩ := step
        exact .nil
    | push call =>
        simp only [machine] at step
        cases claimed : scheduler.claims[call]? with
        | none =>
            simp [claimed] at step
        | some claim =>
            obtain ⟨idx, task⟩ := claim
            simp only [claimed, Option.some.injEq, Prod.mk.injEq] at step
            obtain ⟨rfl, rfl⟩ := step
            simpa [queueEvents, Event.leaves, Event.enters] using
              queueView_push scheduler queue idx task
    | worker id =>
        exact (workerStep?_iff.mp step).queue_run queue
    | finish id =>
        simp only [machine] at step
        cases position : scheduler.positions id with
        | running task =>
            simp only [position, Option.some.injEq, Prod.mk.injEq] at step
            obtain ⟨rfl, rfl⟩ := step
            exact .nil
        | _ =>
            simp [position] at step
    | panic id =>
        simp only [machine] at step
        cases position : scheduler.positions id with
        | running task =>
            simp only [position, Option.some.injEq, Prod.mk.injEq] at step
            obtain ⟨rfl, rfl⟩ := step
            exact .nil
        | _ =>
            simp [position] at step
    | setStop =>
        simp only [machine, Option.some.injEq, Prod.mk.injEq] at step
        obtain ⟨rfl, rfl⟩ := step
        exact .nil

theorem enteredItems_queueEvents
    (queue : Fin workers)
    (log : List (Event workers Task)) :
    Fifo.enteredItems (log.flatMap (queueEvents queue)) =
      enteredTasks queue log := by
  induction log with
  | nil =>
      rfl
  | cons event rest inductionHypothesis =>
      simp [queueEvents, enteredTasks, inductionHypothesis]

theorem leftItems_queueEvents
    (queue : Fin workers)
    (log : List (Event workers Task)) :
    Fifo.leftItems (log.flatMap (queueEvents queue)) =
      leftTasks queue log := by
  induction log with
  | nil =>
      rfl
  | cons event rest inductionHypothesis =>
      simp [queueEvents, leftTasks, inductionHypothesis]

/-- Over any run, a queue gives its tasks in the order in which it got them. -/
theorem run_queue_order
    [NeZero workers]
    {scheduler : Scheduler workers Task}
    {log : List (Event workers Task)}
    (run :
      Machine.Run (machine workers Task) (new workers Task) log scheduler)
    (queue : Fin workers) :
    enteredTasks queue log =
      leftTasks queue log ++ scheduler.queues queue := by
  have observed :=
    Fifo.run_accounts ((queueSimulation queue).run run trivial)
  have law := observed.1 rfl
  simpa [queueSimulation, enteredItems_queueEvents,
    leftItems_queueEvents, queueView, new] using law

/-- What a state of the scheduler owes to the log that led to it. -/
structure Conserved
    (scheduler : Scheduler workers Task)
    (log : List (Event workers Task)) : Prop where
  /-- Spawned tasks are queued, in a stolen batch, or have started. -/
  accounted :
    (spawnedTasks log : Multiset Task) =
      queuedTasks scheduler + carriedTasks scheduler +
        (startedTasks log : Multiset Task)
  /-- No task starts more often than it was spawned. -/
  startsSpawned :
    (startedTasks log : Multiset Task) ≤ (spawnedTasks log : Multiset Task)
  startsOnce :
    (spawnedTasks log).Nodup → (startedTasks log).Nodup
  /-- Pops and steals take the tasks of a queue in their order of entry. -/
  inOrder :
    ∀ queue,
      enteredTasks queue log = leftTasks queue log ++ scheduler.queues queue

/-- Work stealing conserves tasks in every reachable state. -/
theorem tasks_conserved
    [NeZero workers]
    {scheduler : Scheduler workers Task}
    {log : List (Event workers Task)}
    (run :
      Machine.Run (machine workers Task) (new workers Task) log scheduler) :
    Conserved scheduler log := by
  have balance := run_waiting_balance run
  have startsSpawned :
      (startedTasks log : Multiset Task) ≤
        (spawnedTasks log : Multiset Task) := by
    rw [← balance]
    exact Multiset.le_add_left _ _
  refine {
    accounted := balance.symm
    startsSpawned := startsSpawned
    startsOnce := ?_
    inOrder := run_queue_order run
  }
  intro distinct
  exact Multiset.coe_nodup.mp
    (Multiset.nodup_of_le startsSpawned (Multiset.coe_nodup.mpr distinct))

/--
Three tasks on two workers: worker 1 has run its own task and then stolen the
front task of worker 0, which it has not pushed yet, when the flag is set.
-/
def stealInProgress : List (Label 2 Nat) :=
  [.claim 10, .push 0, .claim 11, .push 0, .claim 12, .push 0,
    .worker 1, .worker 1, .finish 1,
    .worker 1, .worker 1, .worker 1, .setStop]

theorem tasks_conserved_stealInProgress :
    ∃ scheduler log,
      (machine 2 Nat).run? (new 2 Nat) stealInProgress =
          some (scheduler, log) ∧
        scheduler.positions 1 = .pushing [10] ∧
        Conserved scheduler log := by
  obtain ⟨scheduler, log, executed, position⟩ :
      ∃ scheduler log,
        (machine 2 Nat).run? (new 2 Nat) stealInProgress =
            some (scheduler, log) ∧
          scheduler.positions 1 = .pushing [10] :=
    ⟨_, _, rfl, rfl⟩
  exact ⟨scheduler, log, executed, position,
    tasks_conserved (Machine.run?_sound _ executed)⟩

end Runact.Scheduler
