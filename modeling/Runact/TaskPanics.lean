import Runact.SchedulerConservation

namespace Runact.Scheduler

/-!
# Tasks that panic

A panic is not caught in `worker_loop`: it ends the worker thread, and the queue
of that worker stays behind.  The others take from it while it holds two tasks
or more, so its last task stays there for good.

The tasks of a scheduler are closures, no two of them the same; each one either
returns or panics when it is run.
-/

universe u

variable {workers : Nat} {Task : Type u}

/-- The steps of the worker threads, with every task ending as it does. -/
def workerMoves
    (panics : Task → Bool)
    (scheduler : Scheduler workers Task) : Label workers Task → Bool
  | .worker _ => true
  | .finish id =>
      match scheduler.positions id with
      | .running task => !panics task
      | _ => false
  | .panic id =>
      match scheduler.positions id with
      | .running task => panics task
      | _ => false
  | _ => false

/-- The same, and the listed tasks being spawned in order; no shutdown. -/
def movesBeforeShutdown
    [DecidableEq Task]
    (panics : Task → Bool)
    (tasks : List Task)
    (scheduler : Scheduler workers Task) : Label workers Task → Bool
  | .claim task => decide (tasks[scheduler.nextWorker]? = some task)
  | .push _ => true
  | label => workerMoves panics scheduler label

/-- The worker threads on their own. -/
def workerMachine
    (workers : Nat) [NeZero workers]
    (panics : Task → Bool) :
    Machine (Scheduler workers Task) (Label workers Task)
      (Event workers Task) :=
  (machine workers Task).restrict (workerMoves panics)

/-- A scheduler on which the listed tasks are spawned. -/
def spawningMachine
    (workers : Nat) [NeZero workers]
    [DecidableEq Task]
    (panics : Task → Bool)
    (tasks : List Task) :
    Machine (Scheduler workers Task) (Label workers Task)
      (Event workers Task) :=
  (machine workers Task).restrict (movesBeforeShutdown panics tasks)

/-- The workers can still execute the task. -/
def Executable
    [NeZero workers]
    (panics : Task → Bool)
    (scheduler : Scheduler workers Task)
    (task : Task) : Prop :=
  ∃ later final queue,
    Machine.Run (workerMachine workers panics) scheduler later final ∧
      .started queue task ∈ later

/-- Whatever has happened so far, every queued task can be executed. -/
def NoneStranded
    (workers : Nat) [NeZero workers]
    [DecidableEq Task]
    (panics : Task → Bool)
    (tasks : List Task) : Prop :=
  ∀ log scheduler,
    Machine.Run (spawningMachine workers panics tasks) (new workers Task)
      log scheduler →
    ∀ queue, ∀ task ∈ scheduler.queues queue,
      Executable panics scheduler task

/-- What a step of the worker threads does. -/
inductive WorkerEffect
    (panics : Task → Bool)
    (before : Scheduler workers Task) :
    Scheduler workers Task → List (Event workers Task) → Prop where
  | worked
      (id : Fin workers) (after : Scheduler workers Task)
      (events : List (Event workers Task)) :
      WorkerStep before id after events →
      WorkerEffect panics before after events
  | returned (id : Fin workers) (task : Task) :
      before.positions id = .running task →
      panics task = false →
      WorkerEffect panics before (before.setPosition id .checkingStop)
        [.finished id task]
  | panicked (id : Fin workers) (task : Task) :
      before.positions id = .running task →
      panics task = true →
      WorkerEffect panics before (before.setPosition id .unwound)
        [.panicked id task]

/-- What a step does while the tasks are spawned. -/
inductive SpawningEffect
    [NeZero workers]
    (panics : Task → Bool)
    (tasks : List Task)
    (before : Scheduler workers Task) :
    Scheduler workers Task → List (Event workers Task) → Prop where
  | claimed (task : Task) :
      tasks[before.nextWorker]? = some task →
      SpawningEffect panics tasks before
        { before with
          nextWorker := before.nextWorker + 1
          claims :=
            before.claims ++ [(Fin.ofNat workers before.nextWorker, task)] }
        []
  | pushed (call : Nat) (queue : Fin workers) (task : Task) :
      before.claims[call]? = some (queue, task) →
      SpawningEffect panics tasks before
        ((before.setQueue queue
          ((before.queues queue).push task)).dropClaim call)
        [.spawned queue task]
  | moved
      (after : Scheduler workers Task)
      (events : List (Event workers Task)) :
      WorkerEffect panics before after events →
      SpawningEffect panics tasks before after events

section

variable [NeZero workers] {panics : Task → Bool} {tasks : List Task}
  {before after : Scheduler workers Task}
  {label : Label workers Task} {events : List (Event workers Task)}

theorem workerEffect_of_step
    (step :
      (workerMachine workers panics).step? before label =
        some (after, events)) :
    WorkerEffect panics before after events := by
  obtain ⟨allowed, step⟩ := Machine.restrict_step_iff.mp step
  cases label with
  | worker id => exact .worked id after events (workerStep?_iff.mp step)
  | finish id =>
      simp only [machine, workerMoves] at step allowed
      split at step
      case h_1 task position =>
        simp only [position, Bool.not_eq_true'] at allowed
        simp only [Option.some.injEq, Prod.mk.injEq] at step
        obtain ⟨rfl, rfl⟩ := step
        exact .returned id task position allowed
      case h_2 => cases step
  | panic id =>
      simp only [machine, workerMoves] at step allowed
      split at step
      case h_1 task position =>
        simp only [position] at allowed
        simp only [Option.some.injEq, Prod.mk.injEq] at step
        obtain ⟨rfl, rfl⟩ := step
        exact .panicked id task position allowed
      case h_2 => cases step
  | _ => cases allowed

theorem spawningEffect_of_step
    [DecidableEq Task]
    (step :
      (spawningMachine workers panics tasks).step? before label =
        some (after, events)) :
    SpawningEffect panics tasks before after events := by
  obtain ⟨allowed, step⟩ := Machine.restrict_step_iff.mp step
  have moved
      (own : workerMoves panics before label = true) :
      SpawningEffect panics tasks before after events :=
    .moved after events
      (workerEffect_of_step (Machine.restrict_step_iff.mpr ⟨own, step⟩))
  cases label with
  | claim task =>
      simp only [movesBeforeShutdown, decide_eq_true_eq] at allowed
      simp only [machine, Option.some.injEq, Prod.mk.injEq] at step
      obtain ⟨rfl, rfl⟩ := step
      exact .claimed task allowed
  | push call =>
      simp only [machine] at step
      split at step
      case h_1 => cases step
      case h_2 queue task found =>
        simp only [Option.some.injEq, Prod.mk.injEq] at step
        obtain ⟨rfl, rfl⟩ := step
        exact .pushed call queue task found
  | worker id => exact moved allowed
  | finish id => exact moved allowed
  | panic id => exact moved allowed
  | setStop => exact moved allowed

/-- A step of a worker outside its tasks is one of the worker threads. -/
theorem run_worked
    {id : Fin workers}
    (step : WorkerStep before id after events) :
    Machine.Run (workerMachine workers panics) before events after :=
  .single (.worker id)
    (Machine.restrict_step_iff.mpr ⟨rfl, workerStep?_iff.mpr step⟩)

theorem run_returned
    {id : Fin workers}
    {task : Task}
    (position : before.positions id = .running task)
    (returns : panics task = false) :
    Machine.Run (workerMachine workers panics) before
      [.finished id task] (before.setPosition id .checkingStop) :=
  .single (.finish id) (Machine.restrict_step_iff.mpr
    ⟨by simp [workerMoves, position, returns],
      by simp [machine, position]⟩)

theorem run_panicked
    {id : Fin workers}
    {task : Task}
    (position : before.positions id = .running task)
    (panicking : panics task = true) :
    Machine.Run (workerMachine workers panics) before
      [.panicked id task] (before.setPosition id .unwound) :=
  .single (.panic id) (Machine.restrict_step_iff.mpr
    ⟨by simp [workerMoves, position, panicking],
      by simp [machine, position]⟩)

theorem Executable.of_run
    {task : Task}
    (run : Machine.Run (workerMachine workers panics) before events after)
    (executable : Executable panics after task) :
    Executable panics before task := by
  obtain ⟨later, final, queue, further, started⟩ := executable
  exact ⟨events ++ later, final, queue, run.append further,
    List.mem_append_right events started⟩

end

/-- The worker gets to the task once it has run what is ahead of it. -/
structure Headed
    (panics : Task → Bool)
    (scheduler : Scheduler workers Task)
    (id : Fin workers)
    (ahead : List Task)
    (task : Task) : Prop where
  queue : ∃ behind, scheduler.queues id = ahead ++ task :: behind
  returning : ∀ other ∈ ahead, panics other = false
  running : scheduler.stop = false

namespace Headed

variable {panics : Task → Bool} {scheduler : Scheduler workers Task}
  {id : Fin workers} {ahead : List Task} {task : Task}

theorem setPosition
    (headed : Headed panics scheduler id ahead task)
    (position : WorkerPosition workers Task) :
    Headed panics (scheduler.setPosition id position) id ahead task :=
  { headed with }

/-- Taking tasks out of another queue changes nothing for the worker. -/
theorem setQueue
    (headed : Headed panics scheduler id ahead task)
    {target : Fin workers}
    (other : target ≠ id)
    (content : RunQueue Task) :
    Headed panics (scheduler.setQueue target content) id ahead task where
  queue := by
    rw [setQueue_queues_of_ne scheduler other.symm]
    exact headed.queue
  returning := headed.returning
  running := headed.running

/-- A task pushed onto the queue of the worker goes behind. -/
theorem push
    (headed : Headed panics scheduler id ahead task)
    (pushed : Task) :
    Headed panics
      (scheduler.setQueue id ((scheduler.queues id).push pushed))
      id ahead task where
  queue := by
    obtain ⟨behind, shape⟩ := headed.queue
    exact ⟨behind ++ [pushed], by simp [shape, RunQueue.push]⟩
  returning := headed.returning
  running := headed.running

variable [NeZero workers]

/-- A worker about to pop runs the tasks ahead one by one. -/
theorem popping
    (headed : Headed panics scheduler id ahead task)
    (position : scheduler.positions id = .popping) :
    Executable panics scheduler task := by
  obtain ⟨behind, shape⟩ := headed.queue
  induction ahead generalizing scheduler with
  | nil =>
      exact ⟨_, _, id, run_worked (.start task behind position shape),
        List.mem_singleton_self _⟩
  | cons first rest inductionHypothesis =>
      have start :=
        WorkerStep.start first (rest ++ task :: behind) position shape
      have returned :
          Machine.Run (workerMachine workers panics)
            ((scheduler.setQueue id (rest ++ task :: behind)).setPosition id
              (.running first))
            [.finished id first]
            (((scheduler.setQueue id (rest ++ task :: behind)).setPosition id
              (.running first)).setPosition id .checkingStop) :=
        run_returned (setPosition_positions_self _ _ _)
          (headed.returning first List.mem_cons_self)
      have goOn :
          WorkerStep
            (((scheduler.setQueue id (rest ++ task :: behind)).setPosition id
              (.running first)).setPosition id .checkingStop) id
            ((((scheduler.setQueue id (rest ++ task :: behind)).setPosition id
              (.running first)).setPosition id .checkingStop).setPosition id
                .popping) [] :=
        .goOn (setPosition_positions_self _ _ _) headed.running
      refine .of_run (((run_worked start).append returned).append
        (run_worked goOn)) (inductionHypothesis ?_
          (setPosition_positions_self _ _ _) (setQueue_queues_self _ _ _))
      exact
        { queue := ⟨behind, setQueue_queues_self _ _ _⟩
          returning := fun other member =>
            headed.returning other (List.mem_cons_of_mem first member)
          running := headed.running }

/-- A worker at the top of its loop goes on to pop. -/
theorem checkingStop
    (headed : Headed panics scheduler id ahead task)
    (position : scheduler.positions id = .checkingStop) :
    Executable panics scheduler task :=
  .of_run (run_worked (.goOn position headed.running))
    ((headed.setPosition .popping).popping (setPosition_positions_self _ _ _))

/-- A worker with a stolen batch pushes it behind the task. -/
theorem pushing
    (batch : List Task)
    (headed : Headed panics scheduler id ahead task)
    (position : scheduler.positions id = .pushing batch) :
    Executable panics scheduler task := by
  induction batch generalizing scheduler with
  | nil =>
      exact .of_run (run_worked (.pushed position))
        ((headed.setPosition .checkingStop).checkingStop
          (setPosition_positions_self _ _ _))
  | cons first rest inductionHypothesis =>
      exact .of_run (run_worked (.repush first rest position))
        (inductionHypothesis ((headed.push first).setPosition (.pushing rest))
          (setPosition_positions_self _ _ _))

/-- A worker that looks for something to steal comes back, with or without. -/
theorem stealing
    (targets : List (Fin workers))
    (headed : Headed panics scheduler id ahead task)
    (position : scheduler.positions id = .stealing targets)
    (foreign : id ∉ targets) :
    Executable panics scheduler task := by
  induction targets generalizing scheduler with
  | nil =>
      exact .of_run (run_worked (.yield position))
        ((headed.setPosition .checkingStop).checkingStop
          (setPosition_positions_self _ _ _))
  | cons target rest inductionHypothesis =>
      rw [List.mem_cons, not_or] at foreign
      rcases shape : (scheduler.queues target).stealHalf with ⟨batch, left⟩
      cases batch with
      | nil =>
          exact .of_run (run_worked
              (.refused target rest position (by rw [shape])))
            (inductionHypothesis (headed.setPosition (.stealing rest))
              (setPosition_positions_self _ _ _) foreign.2)
      | cons first others =>
          exact .of_run (run_worked
              (.steal target rest (first :: others) left position shape
                (List.cons_ne_nil first others)))
            (((headed.setQueue (Ne.symm foreign.1) left).setPosition
              (.pushing (first :: others))).pushing (first :: others)
                (setPosition_positions_self _ _ _))

/-- A worker whose task returns gets to what is in its queue. -/
theorem executable
    (headed : Headed panics scheduler id ahead task)
    (foreign :
      ∀ targets, scheduler.positions id = .stealing targets → id ∉ targets)
    (inside :
      ∀ current, scheduler.positions id = .running current →
        panics current = false)
    (alive :
      scheduler.positions id ≠ .exited ∧ scheduler.positions id ≠ .unwound) :
    Executable panics scheduler task := by
  cases position : scheduler.positions id with
  | checkingStop => exact headed.checkingStop position
  | popping => exact headed.popping position
  | running current =>
      exact .of_run (run_returned position (inside current position))
        ((headed.setPosition .checkingStop).checkingStop
          (setPosition_positions_self _ _ _))
  | stealing targets =>
      exact headed.stealing targets position (foreign targets position)
  | pushing batch => exact headed.pushing batch position
  | exited => exact absurd position alive.1
  | unwound => exact absurd position alive.2

end Headed

/-- Before a shutdown no worker leaves its loop or steals from itself. -/
structure Attended (scheduler : Scheduler workers Task) : Prop where
  running : scheduler.stop = false
  inLoop : ∀ id, scheduler.positions id ≠ .exited
  foreign :
    ∀ id targets, scheduler.positions id = .stealing targets → id ∉ targets

namespace Attended

variable {scheduler after : Scheduler workers Task} {id : Fin workers}
  {events : List (Event workers Task)}

theorem setPosition
    (attended : Attended scheduler)
    (position : WorkerPosition workers Task)
    (inLoop : position ≠ .exited)
    (foreign : ∀ targets, position = .stealing targets → id ∉ targets) :
    Attended (scheduler.setPosition id position) where
  running := attended.running
  inLoop := by
    intro other
    by_cases same : other = id
    · subst other
      rw [setPosition_positions_self]
      exact inLoop
    · rw [setPosition_positions_of_ne scheduler same]
      exact attended.inLoop other
  foreign := by
    intro other targets
    by_cases same : other = id
    · subst other
      rw [setPosition_positions_self]
      exact foreign targets
    · rw [setPosition_positions_of_ne scheduler same]
      exact attended.foreign other targets

theorem setQueue
    (attended : Attended scheduler)
    (queue : Fin workers)
    (content : RunQueue Task) :
    Attended (scheduler.setQueue queue content) :=
  { attended with }

theorem workerStep
    (attended : Attended scheduler)
    (step : WorkerStep scheduler id after events) :
    Attended after := by
  cases step with
  | exit position stopped =>
      rw [attended.running] at stopped
      cases stopped
  | goOn position running =>
      exact attended.setPosition .popping (by simp) (by simp)
  | start task rest position queue =>
      exact (attended.setQueue id rest).setPosition (.running task)
        (by simp) (by simp)
  | empty position queue =>
      exact attended.setPosition (.stealing (stealTargets id)) (by simp)
        (by simp [stealTargets])
  | yield position =>
      exact attended.setPosition .checkingStop (by simp) (by simp)
  | refused target targets position nothing =>
      refine attended.setPosition (.stealing targets) (by simp) ?_
      rintro _ ⟨⟩ member
      exact attended.foreign id _ position (List.mem_cons_of_mem target member)
  | steal target targets batch rest position shape nonempty =>
      exact (attended.setQueue target rest).setPosition (.pushing batch)
        (by simp) (by simp)
  | pushed position =>
      exact attended.setPosition .checkingStop (by simp) (by simp)
  | repush task batch position =>
      exact (attended.setQueue id _).setPosition (.pushing batch)
        (by simp) (by simp)

theorem step
    [NeZero workers]
    {panics : Task → Bool}
    {tasks : List Task}
    (attended : Attended scheduler)
    (effect : SpawningEffect panics tasks scheduler after events) :
    Attended after := by
  cases effect with
  | claimed task next => exact { attended with }
  | pushed call queue task found => exact { attended with }
  | moved after events effect =>
      cases effect with
      | worked id after events step => exact attended.workerStep step
      | returned id task position returns =>
          exact attended.setPosition .checkingStop (by simp) (by simp)
      | panicked id task position panicking =>
          exact attended.setPosition .unwound (by simp) (by simp)

end Attended

/-- Where a worker stands when no task panics. -/
def Returns
    (panics : Task → Bool) : WorkerPosition workers Task → Prop
  | .running task => panics task = false
  | .pushing batch => ∀ task ∈ batch, panics task = false
  | .unwound => False
  | _ => True

/-- No task that was spawned panics. -/
structure Harmless
    (panics : Task → Bool)
    (scheduler : Scheduler workers Task) : Prop where
  queued :
    ∀ queue, ∀ task ∈ scheduler.queues queue, panics task = false
  claimed : ∀ claim ∈ scheduler.claims, panics claim.2 = false
  positions : ∀ id, Returns panics (scheduler.positions id)

namespace Harmless

variable {panics : Task → Bool} {scheduler after : Scheduler workers Task}
  {id : Fin workers} {events : List (Event workers Task)}

theorem setPosition
    (harmless : Harmless panics scheduler)
    {position : WorkerPosition workers Task}
    (returns : Returns panics position) :
    Harmless panics (scheduler.setPosition id position) where
  queued := harmless.queued
  claimed := harmless.claimed
  positions := by
    intro other
    by_cases same : other = id
    · subst other
      rw [setPosition_positions_self]
      exact returns
    · rw [setPosition_positions_of_ne scheduler same]
      exact harmless.positions other

theorem setQueue
    (harmless : Harmless panics scheduler)
    {queue : Fin workers}
    {content : RunQueue Task}
    (returning : ∀ task ∈ content, panics task = false) :
    Harmless panics (scheduler.setQueue queue content) where
  queued := by
    intro other
    by_cases same : other = queue
    · subst other
      rw [setQueue_queues_self]
      exact returning
    · rw [setQueue_queues_of_ne scheduler same]
      exact harmless.queued other
  claimed := harmless.claimed
  positions := harmless.positions

theorem push
    (harmless : Harmless panics scheduler)
    (queue : Fin workers)
    {task : Task}
    (returns : panics task = false) :
    Harmless panics
      (scheduler.setQueue queue ((scheduler.queues queue).push task)) := by
  refine harmless.setQueue fun other member => ?_
  rcases List.mem_append.mp member with older | newest
  · exact harmless.queued queue other older
  · rw [List.mem_singleton.mp newest]
    exact returns

theorem workerStep
    (harmless : Harmless panics scheduler)
    (step : WorkerStep scheduler id after events) :
    Harmless panics after := by
  have standing := harmless.positions id
  cases step with
  | start task rest position queue =>
      have returning := harmless.queued id
      rw [queue] at returning
      exact (harmless.setQueue fun other member =>
        returning other (List.mem_cons_of_mem task member)).setPosition
          (returning task List.mem_cons_self)
  | steal target targets batch rest position shape nonempty =>
      have whole : batch ++ rest = scheduler.queues target := by
        rw [← RunQueue.stealHalf_append (scheduler.queues target), shape]
      have returning := harmless.queued target
      rw [← whole] at returning
      exact (harmless.setQueue fun other member =>
        returning other (List.mem_append_right batch member)).setPosition
          fun other member =>
            returning other (List.mem_append_left rest member)
  | repush task batch position =>
      rw [position] at standing
      exact (harmless.push id (standing task List.mem_cons_self)).setPosition
        fun other member => standing other (List.mem_cons_of_mem task member)
  | _ => exact harmless.setPosition trivial

theorem step
    [NeZero workers]
    {tasks : List Task}
    (returning : ∀ task ∈ tasks, panics task = false)
    (harmless : Harmless panics scheduler)
    (effect : SpawningEffect panics tasks scheduler after events) :
    Harmless panics after := by
  cases effect with
  | claimed task next =>
      refine { harmless with claimed := fun claim member => ?_ }
      rcases List.mem_append.mp member with older | newest
      · exact harmless.claimed claim older
      · rw [List.mem_singleton.mp newest]
        exact returning task (List.mem_of_getElem? next)
  | pushed call queue task found =>
      have pushed :=
        harmless.push queue
          (harmless.claimed (queue, task) (List.mem_of_getElem? found))
      exact { pushed with
        claimed := fun claim member =>
          harmless.claimed claim (List.mem_of_mem_eraseIdx member) }
  | moved after events effect =>
      cases effect with
      | worked id after events step => exact harmless.workerStep step
      | returned id task position returns =>
          exact harmless.setPosition trivial
      | panicked id task position panicking =>
          have standing := harmless.positions id
          rw [position, Returns, panicking] at standing
          cases standing

end Harmless

/-- How much a worker has besides its queue. -/
def engagement : WorkerPosition workers Task → Nat
  | .running _ => 1
  | .unwound => 1
  | .pushing _ => 2
  | _ => 0

/-- The tasks that a worker has or is going to get, a dead worker's one too. -/
def load
    (scheduler : Scheduler workers Task)
    (id : Fin workers) : Nat :=
  (scheduler.queues id).length +
    scheduler.claims.countP (fun claim => claim.1 = id) +
      engagement (scheduler.positions id)

/-- There is no worker with two tasks. -/
structure Sparse
    (bound : Nat)
    (scheduler : Scheduler workers Task) : Prop where
  light : ∀ id, load scheduler id ≤ 1
  unassigned : ∀ id : Fin workers, scheduler.nextWorker ≤ id.val →
    load scheduler id = 0
  spawned : scheduler.nextWorker ≤ bound

namespace Sparse

variable {bound : Nat} {scheduler after : Scheduler workers Task}
  {id : Fin workers} {events : List (Event workers Task)}

theorem short
    (sparse : Sparse bound scheduler)
    (id : Fin workers) :
    (scheduler.queues id).length ≤ 1 := by
  have light := sparse.light id
  unfold load at light
  omega

/-- Steps after which no worker has more than before. -/
theorem lighter
    (sparse : Sparse bound scheduler)
    (loads : ∀ other, load after other ≤ load scheduler other)
    (sameCounter : after.nextWorker = scheduler.nextWorker) :
    Sparse bound after where
  light other := (loads other).trans (sparse.light other)
  unassigned := by
    intro other above
    rw [sameCounter] at above
    have none := sparse.unassigned other above
    have fewer := loads other
    omega
  spawned := sameCounter ▸ sparse.spawned

theorem load_setPosition
    (other : Fin workers)
    {position : WorkerPosition workers Task}
    (engaged :
      engagement position ≤ engagement (scheduler.positions id)) :
    load (scheduler.setPosition id position) other ≤ load scheduler other := by
  unfold load
  refine Nat.add_le_add_left ?_ _
  by_cases same : other = id
  · subst other
    rw [setPosition_positions_self]
    exact engaged
  · rw [setPosition_positions_of_ne scheduler same]

theorem workerStep
    (sparse : Sparse bound scheduler)
    (step : WorkerStep scheduler id after events) :
    Sparse bound after := by
  cases step with
  | start task rest position queue =>
      refine sparse.lighter (fun other => ?_) rfl
      by_cases same : other = id
      · subst other
        have once :
            load
                ((scheduler.setQueue id rest).setPosition id (.running task))
                id =
              rest.length +
                scheduler.claims.countP (fun claim => claim.1 = id) + 1 := by
          simp only [load, setPosition_positions_self, engagement,
            setPosition_queues, setQueue_queues_self]
          rfl
        rw [once, load, queue, List.length_cons]
        omega
      · have unchanged :
            load
                ((scheduler.setQueue id rest).setPosition id (.running task))
                other =
              load scheduler other := by
          simp only [load, setPosition_queues,
            setQueue_queues_of_ne scheduler same,
            setPosition_positions_of_ne _ same]
          rfl
        exact unchanged.le
  | steal target targets batch rest position shape nonempty =>
      rw [RunQueue.stealHalf_of_length_le_one (sparse.short target)] at shape
      exact absurd (Prod.mk.inj shape).1.symm nonempty
  | pushed position =>
      exact sparse.lighter
        (fun other => load_setPosition other (Nat.zero_le _)) rfl
  | repush task batch position =>
      have light := sparse.light id
      rw [load, position, engagement] at light
      omega
  | _ =>
      exact sparse.lighter
        (fun other => load_setPosition other (Nat.zero_le _)) rfl

/-- A claim is for the next worker, who has nothing yet. -/
theorem claim
    [NeZero workers]
    (sparse : Sparse bound scheduler)
    (task : Task)
    (more : scheduler.nextWorker < bound)
    (few : bound ≤ workers) :
    Sparse bound
      { scheduler with
        nextWorker := scheduler.nextWorker + 1
        claims :=
          scheduler.claims ++
            [(Fin.ofNat workers scheduler.nextWorker, task)] } := by
  have next :
      (Fin.ofNat workers scheduler.nextWorker).val = scheduler.nextWorker :=
    Nat.mod_eq_of_lt (more.trans_le few)
  have loads (other : Fin workers) :
      load
          { scheduler with
            nextWorker := scheduler.nextWorker + 1
            claims :=
              scheduler.claims ++
                [(Fin.ofNat workers scheduler.nextWorker, task)] }
          other =
        load scheduler other +
          if other.val = scheduler.nextWorker then 1 else 0 := by
    have same :
        Fin.ofNat workers scheduler.nextWorker = other ↔
          other.val = scheduler.nextWorker :=
      ⟨fun chosen => chosen ▸ next, fun value =>
        Fin.ext (next.trans value.symm)⟩
    simp only [load, List.countP_append, List.countP_singleton, same,
      decide_eq_true_eq]
    omega
  constructor
  · intro other
    rw [loads]
    split
    · rename_i same
      rw [sparse.unassigned other same.ge]
    · exact sparse.light other
  · intro other above
    have higher : scheduler.nextWorker < other.val := above
    rw [loads, sparse.unassigned other higher.le, if_neg higher.ne']
  · exact more

/-- A push moves the claimed task into the queue of its worker. -/
theorem push
    {call : Nat} {queue : Fin workers} {task : Task}
    (sparse : Sparse bound scheduler)
    (found : scheduler.claims[call]? = some (queue, task)) :
    Sparse bound
      ((scheduler.setQueue queue
        ((scheduler.queues queue).push task)).dropClaim call) := by
  refine sparse.lighter (fun other => ?_) rfl
  obtain ⟨inside, here⟩ := List.getElem?_eq_some_iff.mp found
  have claims :
      scheduler.claims.countP (fun claim => claim.1 = other) =
        (scheduler.claims.eraseIdx call).countP
            (fun claim => claim.1 = other) +
          if queue = other then 1 else 0 := by
    have whole :=
      (List.getElem_cons_eraseIdx_perm inside).countP_eq
        (fun claim => decide (claim.1 = other))
    rw [here, List.countP_cons] at whole
    simpa using whole.symm
  have after :
      load
          ((scheduler.setQueue queue
            ((scheduler.queues queue).push task)).dropClaim call) other =
        ((scheduler.setQueue queue
            ((scheduler.queues queue).push task)).queues other).length +
          (scheduler.claims.eraseIdx call).countP
              (fun claim => claim.1 = other) +
            engagement (scheduler.positions other) := rfl
  rw [after, load, claims]
  by_cases same : queue = other
  · subst queue
    rw [setQueue_queues_self, RunQueue.push, List.length_append, if_pos rfl,
      List.length_singleton]
    omega
  · rw [setQueue_queues_of_ne scheduler (Ne.symm same)]
    omega

theorem step
    [NeZero workers]
    {panics : Task → Bool}
    {tasks : List Task}
    (few : tasks.length ≤ workers)
    (sparse : Sparse tasks.length scheduler)
    (effect : SpawningEffect panics tasks scheduler after events) :
    Sparse tasks.length after := by
  cases effect with
  | claimed task next =>
      exact sparse.claim task (List.getElem?_eq_some_iff.mp next).1 few
  | pushed call queue task found => exact sparse.push found
  | moved after events effect =>
      cases effect with
      | worked id after events step => exact sparse.workerStep step
      | returned id task position returns =>
          exact sparse.lighter
            (fun other => load_setPosition other (Nat.zero_le _)) rfl
      | panicked id task position panicking =>
          refine sparse.lighter (fun other => load_setPosition other ?_) rfl
          rw [position]
          exact le_rfl

end Sparse

/-- With returning tasks, or few of them, every queued one is executable. -/
theorem noneStranded
    [NeZero workers]
    [DecidableEq Task]
    {panics : Task → Bool}
    {tasks : List Task}
    (condition :
      (∀ task ∈ tasks, panics task = false) ∨ tasks.length ≤ workers) :
    NoneStranded workers panics tasks := by
  intro log scheduler run queue task member
  have attended : Attended scheduler :=
    run.invariant Attended
      (fun before step => before.step (spawningEffect_of_step step))
      { running := rfl, inLoop := by simp [new], foreign := by simp [new] }
  rcases condition with returning | few
  · have harmless : Harmless panics scheduler :=
      run.invariant (Harmless panics)
        (fun before step =>
          before.step returning (spawningEffect_of_step step))
        { queued := by simp [new]
          claimed := by simp [new]
          positions := fun _ => trivial }
    obtain ⟨ahead, behind, shape⟩ := List.append_of_mem member
    have headed : Headed panics scheduler queue ahead task :=
      { queue := ⟨behind, shape⟩
        returning := fun other earlier =>
          harmless.queued queue other (by
            rw [shape]
            exact List.mem_append_left _ earlier)
        running := attended.running }
    have standing := harmless.positions queue
    refine headed.executable (attended.foreign queue) ?_
      ⟨attended.inLoop queue, fun dead => ?_⟩
    · intro current position
      rw [position] at standing
      exact standing
    · rw [dead] at standing
      exact standing
  · have sparse : Sparse tasks.length scheduler :=
      run.invariant (Sparse tasks.length)
        (fun before step => before.step few (spawningEffect_of_step step))
        { light := by simp [load, new, engagement]
          unassigned := by simp [load, new, engagement]
          spawned := Nat.zero_le _ }
    have light := sparse.light queue
    have occupied := List.length_pos_of_mem member
    have free : engagement (scheduler.positions queue) = 0 := by
      unfold load at light
      omega
    obtain ⟨only, shape⟩ :=
      List.length_eq_one_iff.mp (Nat.le_antisymm (sparse.short queue) occupied)
    have headed : Headed panics scheduler queue [] task :=
      { queue := ⟨[], by simpa [shape, eq_comm] using member⟩
        returning := by simp
        running := attended.running }
    refine headed.executable (attended.foreign queue) ?_
      ⟨attended.inLoop queue, fun dead => ?_⟩
    · intro current position
      rw [position] at free
      cases free
    · rw [dead] at free
      cases free

/-- The last task in the queue of a dead worker, and nothing to steal. -/
structure Stranded
    (scheduler : Scheduler workers Task)
    (dead : Fin workers)
    (task : Task) : Prop where
  unwound : scheduler.positions dead = .unwound
  last : scheduler.queues dead = [task]
  short : ∀ id, (scheduler.queues id).length ≤ 1
  elsewhere : ∀ id, id ≠ dead → task ∉ scheduler.queues id
  unburdened : ∀ id, (scheduler.positions id).batch = []

namespace Stranded

variable {scheduler after : Scheduler workers Task} {dead id : Fin workers}
  {task : Task} {events : List (Event workers Task)}

theorem setPosition
    (stranded : Stranded scheduler dead task)
    (living : id ≠ dead)
    {position : WorkerPosition workers Task}
    (unburdened : position.batch = []) :
    Stranded (scheduler.setPosition id position) dead task :=
  { stranded with
    unwound := by
      rw [setPosition_positions_of_ne scheduler living.symm]
      exact stranded.unwound
    unburdened := by
      intro other
      by_cases same : other = id
      · subst other
        rw [setPosition_positions_self]
        exact unburdened
      · rw [setPosition_positions_of_ne scheduler same]
        exact stranded.unburdened other }

/-- A living worker has taken the only task in its own queue. -/
theorem emptied
    (stranded : Stranded scheduler dead task)
    (living : id ≠ dead) :
    Stranded (scheduler.setQueue id []) dead task where
  unwound := stranded.unwound
  last := by
    rw [setQueue_queues_of_ne scheduler living.symm]
    exact stranded.last
  short := by
    intro other
    by_cases same : other = id
    · subst other
      simp
    · rw [setQueue_queues_of_ne scheduler same]
      exact stranded.short other
  elsewhere := by
    intro other different
    by_cases same : other = id
    · subst other
      simp
    · rw [setQueue_queues_of_ne scheduler same]
      exact stranded.elsewhere other different
  unburdened := stranded.unburdened

theorem workerStep
    (stranded : Stranded scheduler dead task)
    (step : WorkerStep scheduler id after events) :
    Stranded after dead task ∧ ∀ queue, .started queue task ∉ events := by
  have living
      {position : WorkerPosition workers Task}
      (here : scheduler.positions id = position)
      (alive : position ≠ .unwound) :
      id ≠ dead := by
    rintro rfl
    exact alive (here.symm.trans stranded.unwound)
  cases step with
  | start first rest position queue =>
      have other := living position (by simp)
      have short := stranded.short id
      have absent := stranded.elsewhere id other
      rw [queue] at short absent
      obtain rfl : rest = [] := by simpa using short
      refine ⟨(stranded.emptied other).setPosition other rfl,
        fun queue member => ?_⟩
      simp only [List.mem_singleton, Event.started.injEq] at member
      exact absent (by simp [member.2])
  | steal target targets batch rest position shape nonempty =>
      rw [RunQueue.stealHalf_of_length_le_one (stranded.short target)] at shape
      exact absurd (Prod.mk.inj shape).1.symm nonempty
  | repush first batch position =>
      have burdened := stranded.unburdened id
      rw [position] at burdened
      cases burdened
  | exit position stopped =>
      exact ⟨stranded.setPosition (living position (by simp)) rfl, by simp⟩
  | goOn position running =>
      exact ⟨stranded.setPosition (living position (by simp)) rfl, by simp⟩
  | empty position queue =>
      exact ⟨stranded.setPosition (living position (by simp)) rfl, by simp⟩
  | yield position =>
      exact ⟨stranded.setPosition (living position (by simp)) rfl, by simp⟩
  | refused target targets position nothing =>
      exact ⟨stranded.setPosition (living position (by simp)) rfl, by simp⟩
  | pushed position =>
      exact ⟨stranded.setPosition (living position (by simp)) rfl, by simp⟩

theorem step
    {panics : Task → Bool}
    (stranded : Stranded scheduler dead task)
    (effect : WorkerEffect panics scheduler after events) :
    Stranded after dead task ∧ ∀ queue, .started queue task ∉ events := by
  have living
      {id : Fin workers}
      {current : Task}
      (position : scheduler.positions id = .running current) :
      id ≠ dead := by
    rintro rfl
    rw [stranded.unwound] at position
    cases position
  cases effect with
  | worked id after events step => exact stranded.workerStep step
  | returned id current position returns =>
      exact ⟨stranded.setPosition (living position) rfl, by simp⟩
  | panicked id current position panicking =>
      exact ⟨stranded.setPosition (living position) rfl, by simp⟩

/-- The workers never execute a stranded task. -/
theorem not_executable
    [NeZero workers]
    {panics : Task → Bool}
    (stranded : Stranded scheduler dead task) :
    ¬ Executable panics scheduler task := by
  rintro ⟨later, final, queue, run, started⟩
  suffices kept :
      Stranded final dead task ∧ ∀ queue, .started queue task ∉ later from
    kept.2 queue started
  clear started
  induction run with
  | nil => exact ⟨stranded, by simp⟩
  | snoc label earlier last inductionHypothesis =>
      obtain ⟨still, unstarted⟩ := inductionHypothesis
      obtain ⟨now, none⟩ := still.step (workerEffect_of_step last)
      refine ⟨now, fun queue member => ?_⟩
      rcases List.mem_append.mp member with older | newest
      · exact unstarted queue older
      · exact none queue newest

end Stranded

section

variable [NeZero workers] {panics : Task → Bool} {tasks : List Task}
  {scheduler : Scheduler workers Task}

/-- A worker runs into a panic with one task behind it. -/
theorem strand
    {id : Fin workers}
    {bad task : Task}
    (position : scheduler.positions id = .checkingStop)
    (running : scheduler.stop = false)
    (queue : scheduler.queues id = [bad, task])
    (panicking : panics bad = true)
    (short : ∀ other, other ≠ id → (scheduler.queues other).length ≤ 1)
    (elsewhere : ∀ other, other ≠ id → task ∉ scheduler.queues other)
    (unburdened : ∀ other, (scheduler.positions other).batch = []) :
    ∃ log after,
      Machine.Run (workerMachine workers panics) scheduler log after ∧
        Stranded after id task := by
  have pop :
      Machine.Run (workerMachine workers panics) scheduler []
        (scheduler.setPosition id .popping) :=
    run_worked (.goOn position running)
  have start :
      Machine.Run (workerMachine workers panics)
        (scheduler.setPosition id .popping) [.started id bad]
        (((scheduler.setPosition id .popping).setQueue id [task]).setPosition
          id (.running bad)) :=
    run_worked
      (.start bad [task] (setPosition_positions_self _ _ _) queue)
  have panic :
      Machine.Run (workerMachine workers panics)
        (((scheduler.setPosition id .popping).setQueue id [task]).setPosition
          id (.running bad))
        [.panicked id bad]
        ((((scheduler.setPosition id .popping).setQueue id
          [task]).setPosition id (.running bad)).setPosition id .unwound) :=
    run_panicked (setPosition_positions_self _ _ _) panicking
  refine ⟨_, _, (pop.append start).append panic, ?_⟩
  have others
      {other : Fin workers}
      (different : other ≠ id) :
      ((scheduler.setPosition id .popping).setQueue id [task]).queues other =
        scheduler.queues other :=
    setQueue_queues_of_ne _ different _
  constructor
  · exact setPosition_positions_self _ _ _
  · exact setQueue_queues_self _ _ _
  · intro other
    by_cases same : other = id
    · subst other
      exact (congrArg List.length (setQueue_queues_self _ id [task])).le
    · exact (congrArg List.length (others same)).trans_le (short other same)
  · intro other different member
    rw [setPosition_queues, setPosition_queues, others different] at member
    exact elsewhere other different member
  · intro other
    by_cases same : other = id
    · subst other
      rw [setPosition_positions_self]
      rfl
    · rw [setPosition_positions_of_ne _ same, setPosition_positions_of_ne _ same]
      exact (congrArg WorkerPosition.batch
        (setPosition_positions_of_ne scheduler same .popping)).trans
          (unburdened other)

variable [DecidableEq Task]

/-- What the workers do, they also do while tasks are spawned. -/
theorem spawning_of_workers
    {log : List (Event workers Task)}
    {after : Scheduler workers Task}
    (run : Machine.Run (workerMachine workers panics) scheduler log after) :
    Machine.Run (spawningMachine workers panics tasks) scheduler log after :=
  run.restrict_mono fun state label permitted => by
    cases label with
    | claim task => cases permitted
    | push call => rfl
    | _ => exact permitted

/-- All `fetch_add`s take place before the first push. -/
theorem run_claims
    (tasks : List Task)
    {count : Nat}
    (inside : count ≤ tasks.length) :
    Machine.Run (spawningMachine workers panics tasks) (new workers Task) []
      { new workers Task with
        nextWorker := count
        claims :=
          (tasks.take count).mapIdx fun k task =>
            (Fin.ofNat workers k, task) } := by
  induction count with
  | zero => exact .nil
  | succ count inductionHypothesis =>
      have earlier := inductionHypothesis (Nat.le_of_succ_le inside)
      have here : tasks[count]? = some tasks[count] :=
        List.getElem?_eq_getElem inside
      have more :
          (tasks.take (count + 1)).mapIdx
              (fun k task => (Fin.ofNat workers k, task)) =
            (tasks.take count).mapIdx
                (fun k task => (Fin.ofNat workers k, task)) ++
              [(Fin.ofNat workers count, tasks[count])] := by
        rw [List.take_succ_eq_append_getElem inside, List.mapIdx_concat,
          List.length_take, Nat.min_eq_left (Nat.le_of_succ_le inside)]
      rw [more]
      exact earlier.snoc (.claim tasks[count])
        (Machine.restrict_step_iff.mpr
          ⟨by simp [movesBeforeShutdown, here], rfl⟩)

/-- One of the claimed tasks has been pushed. -/
structure Pushed
    (before after : Scheduler workers Task)
    (queue : Fin workers)
    (task : Task)
    (others : Multiset (Fin workers × Task)) : Prop where
  here : after.queues queue = before.queues queue ++ [task]
  elsewhere : ∀ other, other ≠ queue → after.queues other = before.queues other
  positions : after.positions = before.positions
  stop : after.stop = before.stop
  claimed : others ≤ (after.claims : Multiset (Fin workers × Task))

theorem run_push
    (panics : Task → Bool)
    (tasks : List Task)
    {queue : Fin workers}
    {task : Task}
    {others : Multiset (Fin workers × Task)}
    (claimed : (queue, task) ::ₘ others ≤ scheduler.claims) :
    ∃ log after,
      Machine.Run (spawningMachine workers panics tasks) scheduler log after ∧
        Pushed scheduler after queue task others := by
  have member : (queue, task) ∈ scheduler.claims :=
    Multiset.mem_of_le claimed (Multiset.mem_cons_self _ _)
  obtain ⟨call, inside, here⟩ := List.mem_iff_getElem.mp member
  have step :
      (spawningMachine workers panics tasks).step? scheduler (.push call) =
        some ((scheduler.setQueue queue
            ((scheduler.queues queue).push task)).dropClaim call,
          [.spawned queue task]) :=
    Machine.restrict_step_iff.mpr
      ⟨rfl, by simp [machine, List.getElem?_eq_getElem inside, here]⟩
  refine ⟨_, _, .single _ step, ?_⟩
  constructor
  · exact setQueue_queues_self _ _ _
  · exact fun other different => setQueue_queues_of_ne scheduler different _
  · rfl
  · rfl
  · have whole := List.getElem_cons_eraseIdx_perm inside
    rw [here] at whole
    rw [← Multiset.coe_eq_coe.mpr whole, ← Multiset.cons_coe] at claimed
    exact (Multiset.cons_le_cons_iff _).mp claimed

/-- All tasks claimed, and nothing else done. -/
def claimedTasks
    (workers : Nat) [NeZero workers]
    (tasks : List Task) : Scheduler workers Task :=
  { new workers Task with
    nextWorker := tasks.length
    claims :=
      tasks.mapIdx fun k task => (Fin.ofNat workers k, task) }

theorem run_claimedTasks
    (tasks : List Task) :
    Machine.Run (spawningMachine workers panics tasks) (new workers Task) []
      (claimedTasks workers tasks) := by
  have claimed :
      Machine.Run (spawningMachine workers panics tasks) (new workers Task) []
        { new workers Task with
          nextWorker := tasks.length
          claims :=
            (tasks.take tasks.length).mapIdx fun k task =>
              (Fin.ofNat workers k, task) } :=
    run_claims tasks le_rfl
  rwa [List.take_length] at claimed

omit [NeZero workers] [DecidableEq Task] in
/-- Different tasks are claimed for the queues their numbers give. -/
theorem claimed_le
    (workers : Nat) [NeZero workers]
    (tasks : List Task)
    (chosen : List (Nat × Task))
    (different : (chosen.map Prod.snd).Nodup)
    (listed : ∀ pair ∈ chosen, tasks[pair.1]? = some pair.2) :
    ((chosen.map fun pair => (Fin.ofNat workers pair.1, pair.2) :
        List (Fin workers × Task)) : Multiset (Fin workers × Task)) ≤
      (claimedTasks workers tasks).claims := by
  refine (Multiset.le_iff_subset ?_).mpr ?_
  · refine Multiset.coe_nodup.mpr (List.Nodup.of_map Prod.snd ?_)
    rw [List.map_map]
    exact different
  · intro claim member
    obtain ⟨pair, chosenMember, rfl⟩ := List.mem_map.mp member
    obtain ⟨inside, here⟩ :=
      List.getElem?_eq_some_iff.mp (listed pair chosenMember)
    exact List.mem_mapIdx.mpr ⟨pair.1, inside, by rw [here]⟩

/-- Two tasks wait in one queue, and the workers have not done anything. -/
structure TwoQueued
    (scheduler : Scheduler workers Task)
    (queue : Fin workers)
    (first second : Task)
    (others : Multiset (Fin workers × Task)) : Prop where
  here : scheduler.queues queue = [first, second]
  elsewhere : ∀ other, other ≠ queue → scheduler.queues other = []
  standing : ∀ id, scheduler.positions id = .checkingStop
  running : scheduler.stop = false
  claimed : others ≤ (scheduler.claims : Multiset (Fin workers × Task))

theorem run_twoPushes
    (panics : Task → Bool)
    {queue : Fin workers}
    {first second : Task}
    {others : Multiset (Fin workers × Task)}
    (claimed :
      (queue, first) ::ₘ (queue, second) ::ₘ others ≤
        (claimedTasks workers tasks).claims) :
    ∃ log after,
      Machine.Run (spawningMachine workers panics tasks) (new workers Task)
          log after ∧
        TwoQueued after queue first second others := by
  obtain ⟨log, one, pushOne, pushed⟩ := run_push panics tasks claimed
  obtain ⟨later, both, pushBoth, pushedBoth⟩ :=
    run_push panics tasks pushed.claimed
  have empty (id : Fin workers) :
      (claimedTasks workers tasks).queues id = [] := rfl
  refine ⟨_, both, ((run_claimedTasks tasks).append pushOne).append pushBoth,
    ?_⟩
  constructor
  · rw [pushedBoth.here, pushed.here, empty]
    rfl
  · intro other different
    rw [pushedBoth.elsewhere other different, pushed.elsewhere other different,
      empty]
  · intro id
    rw [pushedBoth.positions, pushed.positions]
    rfl
  · exact pushedBoth.stop.trans pushed.stop
  · exact pushedBoth.claimed

/-- A panicking task with another one of the same queue behind it. -/
theorem stranded_sameQueue
    {queue : Fin workers}
    {first second : Nat}
    {bad task : Task}
    (badListed : tasks[first]? = some bad)
    (listed : tasks[second]? = some task)
    (apart : bad ≠ task)
    (firstQueue : Fin.ofNat workers first = queue)
    (secondQueue : Fin.ofNat workers second = queue)
    (panicking : panics bad = true) :
    ∃ log after,
      Machine.Run (spawningMachine workers panics tasks) (new workers Task)
          log after ∧
        Stranded after queue task := by
  have claimed :=
    claimed_le workers tasks [(first, bad), (second, task)]
      (by simpa using apart) (by simp [badListed, listed])
  simp only [List.map_cons, List.map_nil, ← Multiset.cons_coe, firstQueue,
    secondQueue] at claimed
  obtain ⟨log, both, pushes, queued⟩ := run_twoPushes panics claimed
  obtain ⟨later, after, strands, stranded⟩ :=
    strand (queued.standing queue) queued.running queued.here panicking
      (fun other different => by simp [queued.elsewhere other different])
      (fun other different => by simp [queued.elsewhere other different])
      (fun other => by rw [queued.standing other]; rfl)
  exact ⟨_, after, pushes.append (spawning_of_workers strands), stranded⟩

omit [DecidableEq Task] in
/-- A thief comes to a victim when there is nothing to steal before it. -/
theorem run_steal
    {thief victim : Fin workers}
    {targets : List (Fin workers)}
    {batch : List Task}
    {rest : RunQueue Task}
    (position : scheduler.positions thief = .stealing targets)
    (listed : victim ∈ targets)
    (shape : (scheduler.queues victim).stealHalf = (batch, rest))
    (nonempty : batch ≠ [])
    (short :
      ∀ other, other ≠ victim → (scheduler.queues other).length ≤ 1) :
    Machine.Run (workerMachine workers panics) scheduler
      [.stolen victim thief batch]
      ((scheduler.setQueue victim rest).setPosition thief
        (.pushing batch)) := by
  induction targets generalizing scheduler with
  | nil => simp at listed
  | cons target targets inductionHypothesis =>
      by_cases same : target = victim
      · subst target
        exact run_worked
          (.steal victim targets batch rest position shape nonempty)
      · have nothing : (scheduler.queues target).stealHalf.1 = [] := by
          rw [RunQueue.stealHalf_of_length_le_one (short target same)]
        have refuse :
            Machine.Run (workerMachine workers panics) scheduler []
              (scheduler.setPosition thief (.stealing targets)) :=
          run_worked (.refused target targets position nothing)
        have further :
            Machine.Run (workerMachine workers panics)
              (scheduler.setPosition thief (.stealing targets))
              [.stolen victim thief batch]
              (((scheduler.setPosition thief (.stealing targets)).setQueue
                victim rest).setPosition thief (.pushing batch)) :=
          inductionHypothesis (setPosition_positions_self _ _ _)
            ((List.mem_cons.mp listed).resolve_left (Ne.symm same)) shape short
        have whole := refuse.append further
        simpa [Scheduler.setPosition, Scheduler.setQueue] using whole

omit [DecidableEq Task] in
/-- An idle worker steals the first of two tasks. -/
theorem run_thief
    (panics : Task → Bool)
    {victim thief : Fin workers}
    {first second : Task}
    {others : Multiset (Fin workers × Task)}
    (queued : TwoQueued scheduler victim first second others)
    (apart : thief ≠ victim) :
    ∃ log,
      Machine.Run (workerMachine workers panics) scheduler log
        ((scheduler.setQueue victim [second]).setPosition thief
          (.pushing [first])) := by
  have pop :
      Machine.Run (workerMachine workers panics) scheduler []
        (scheduler.setPosition thief .popping) :=
    run_worked (.goOn (queued.standing thief) queued.running)
  have look :
      Machine.Run (workerMachine workers panics)
        (scheduler.setPosition thief .popping) []
        ((scheduler.setPosition thief .popping).setPosition thief
          (.stealing (stealTargets thief))) :=
    run_worked (.empty (setPosition_positions_self _ _ _)
      (queued.elsewhere thief apart))
  have steal :
      Machine.Run (workerMachine workers panics)
        ((scheduler.setPosition thief .popping).setPosition thief
          (.stealing (stealTargets thief)))
        [.stolen victim thief [first]]
        ((((scheduler.setPosition thief .popping).setPosition thief
          (.stealing (stealTargets thief))).setQueue victim
            [second]).setPosition thief (.pushing [first])) := by
    refine run_steal (setPosition_positions_self _ _ _) ?_ ?_ (by simp) ?_
    · simp [stealTargets, apart.symm]
    · rw [setPosition_queues, setPosition_queues, queued.here]
      simp [RunQueue.stealHalf]
    · intro other different
      rw [setPosition_queues, setPosition_queues,
        queued.elsewhere other different]
      exact Nat.zero_le 1
  have whole := (pop.append look).append steal
  exact ⟨_, by simpa [Scheduler.setPosition, Scheduler.setQueue] using whole⟩

omit [DecidableEq Task] in
/-- A thief pushes its only stolen task and is back at the top of its loop. -/
theorem run_repush
    (panics : Task → Bool)
    {thief : Fin workers}
    {task : Task}
    (position : scheduler.positions thief = .pushing [task]) :
    ∃ log after,
      Machine.Run (workerMachine workers panics) scheduler log after ∧
        after.queues thief = scheduler.queues thief ++ [task] ∧
        (∀ other, other ≠ thief →
          after.queues other = scheduler.queues other) ∧
        after.positions thief = .checkingStop ∧
        (∀ other, other ≠ thief →
          after.positions other = scheduler.positions other) ∧
        after.stop = scheduler.stop := by
  have repush :
      Machine.Run (workerMachine workers panics) scheduler
        [.repushed thief task]
        ((scheduler.setQueue thief
          ((scheduler.queues thief).push task)).setPosition thief
            (.pushing [])) :=
    run_worked (.repush task [] position)
  refine ⟨_, _, repush.append
    (run_worked (.pushed (setPosition_positions_self _ _ _))), ?_, ?_, ?_, ?_,
    rfl⟩
  · exact setQueue_queues_self _ _ _
  · exact fun other different => setQueue_queues_of_ne scheduler different _
  · exact setPosition_positions_self _ _ _
  · intro other different
    rw [setPosition_positions_of_ne _ different,
      setPosition_positions_of_ne _ different]
    rfl

/-- A panicking task reaches a thief before the task it is about to push. -/
theorem stranded_stolen
    {victim thief : Fin workers}
    {first second third : Nat}
    {task other bad : Task}
    (listed : tasks[first]? = some task)
    (otherListed : tasks[second]? = some other)
    (badListed : tasks[third]? = some bad)
    (distinct : [task, other, bad].Nodup)
    (firstQueue : Fin.ofNat workers first = victim)
    (secondQueue : Fin.ofNat workers second = victim)
    (thirdQueue : Fin.ofNat workers third = thief)
    (apart : thief ≠ victim)
    (panicking : panics bad = true) :
    ∃ log after,
      Machine.Run (spawningMachine workers panics tasks) (new workers Task)
          log after ∧
        Stranded after thief task := by
  have claimed :=
    claimed_le workers tasks [(first, task), (second, other), (third, bad)]
      (by simpa using distinct) (by simp [listed, otherListed, badListed])
  simp only [List.map_cons, List.map_nil, ← Multiset.cons_coe, firstQueue,
    secondQueue, thirdQueue] at claimed
  obtain ⟨log, both, pushes, queued⟩ := run_twoPushes panics claimed
  obtain ⟨stealing, thieves⟩ := run_thief panics queued apart
  have stillClaimed :
      (thief, bad) ::ₘ (0 : Multiset (Fin workers × Task)) ≤
        ((both.setQueue victim [other]).setPosition thief
          (.pushing [task])).claims :=
    queued.claimed
  obtain ⟨later, three, pushThird, pushed⟩ :=
    run_push panics tasks stillClaimed
  have elsewhere
      (id : Fin workers)
      (different : id ≠ thief) :
      three.queues id = if id = victim then [other] else [] := by
    rw [pushed.elsewhere id different, setPosition_queues]
    split
    · subst id
      exact setQueue_queues_self _ _ _
    · rename_i notVictim
      rw [setQueue_queues_of_ne both notVictim]
      exact queued.elsewhere id notVictim
  have queue : three.queues thief = [bad] := by
    rw [pushed.here, setPosition_queues, setQueue_queues_of_ne both apart,
      queued.elsewhere thief apart]
    rfl
  have position : three.positions thief = .pushing [task] := by
    rw [pushed.positions]
    exact setPosition_positions_self _ _ _
  obtain ⟨pushing, four, repush, behind, sameQueues, idle, samePositions,
      sameStop⟩ :=
    run_repush panics position
  have unlike : task ≠ other := by
    simp only [List.nodup_cons, List.mem_cons, not_or] at distinct
    exact distinct.1.1
  have left
      (id : Fin workers)
      (different : id ≠ thief) :
      four.queues id = if id = victim then [other] else [] := by
    rw [sameQueues id different, elsewhere id different]
  have running : four.stop = false :=
    (sameStop.trans pushed.stop).trans queued.running
  have unburdened (id : Fin workers) : (four.positions id).batch = [] := by
    by_cases same : id = thief
    · subst id
      rw [idle]
      rfl
    · rw [samePositions id same, pushed.positions,
        setPosition_positions_of_ne _ same]
      exact congrArg WorkerPosition.batch (queued.standing id)
  obtain ⟨final, after, strands, stranded⟩ :=
    strand idle running (by rw [behind, queue]; rfl) panicking
      (fun id different => by rw [left id different]; split <;> simp)
      (fun id different => by rw [left id different]; split <;> simp [unlike])
      unburdened
  exact ⟨_, after,
    (((pushes.append (spawning_of_workers thieves)).append pushThird).append
      (spawning_of_workers repush)).append (spawning_of_workers strands),
    stranded⟩

/-- With a panicking task, and more tasks than workers, one may be stranded. -/
theorem not_noneStranded
    (distinct : tasks.Nodup)
    {bad : Task}
    (member : bad ∈ tasks)
    (panicking : panics bad = true)
    (many : workers < tasks.length) :
    ¬ NoneStranded workers panics tasks := by
  intro none
  suffices reached :
      ∃ log after dead task,
        Machine.Run (spawningMachine workers panics tasks) (new workers Task)
            log after ∧
          Stranded after dead task by
    obtain ⟨log, after, dead, task, run, stranded⟩ := reached
    refine stranded.not_executable (none log after run dead task ?_)
    rw [stranded.last]
    exact List.mem_singleton_self task
  obtain ⟨third, inside, rfl⟩ := List.mem_iff_getElem.mp member
  have positive : 0 < workers := Nat.pos_of_ne_zero (NeZero.ne workers)
  have wraps : Fin.ofNat workers workers = Fin.ofNat workers 0 :=
    Fin.ext (by simp [Fin.ofNat])
  have listed (k : Nat) (within : k < tasks.length) :
      tasks[k]? = some tasks[k] :=
    List.getElem?_eq_getElem within
  have unlike
      {i j : Nat}
      (first : i < tasks.length)
      (second : j < tasks.length)
      (different : i ≠ j) :
      tasks[i] ≠ tasks[j] := fun same =>
    different ((distinct.getElem_inj_iff).mp same)
  by_cases sameQueue : Fin.ofNat workers third = Fin.ofNat workers 0
  · -- the first task, or the one a round later, shares its queue
    obtain ⟨other, within, different, otherQueue⟩ :
        ∃ other, other < tasks.length ∧ third ≠ other ∧
          Fin.ofNat workers other = Fin.ofNat workers 0 := by
      by_cases zero : third = 0
      · exact ⟨workers, many, by omega, wraps⟩
      · exact ⟨0, by omega, zero, rfl⟩
    obtain ⟨log, after, run, stranded⟩ :=
      stranded_sameQueue (listed third inside) (listed other within)
        (unlike inside within different) sameQueue otherQueue panicking
    exact ⟨log, after, _, _, run, stranded⟩
  · have notFirst : third ≠ 0 := fun zero => sameQueue (zero ▸ rfl)
    have notRound : third ≠ workers := fun round =>
      sameQueue (round ▸ wraps)
    have zeroWithin : 0 < tasks.length := positive.trans many
    obtain ⟨log, after, run, stranded⟩ :=
      stranded_stolen (listed 0 zeroWithin) (listed workers many)
        (listed third inside)
        (by
          simp only [List.nodup_cons, List.mem_cons, List.not_mem_nil,
            or_false, not_or, not_false_iff, List.nodup_nil, and_true]
          exact ⟨⟨unlike zeroWithin many (by omega),
            unlike zeroWithin inside (Ne.symm notFirst)⟩,
            unlike many inside (Ne.symm notRound)⟩)
        rfl wraps rfl sameQueue panicking
    exact ⟨log, after, _, _, run, stranded⟩

/--
No task is ever stranded, exactly when none of the tasks spawned panics or no
more tasks are spawned than there are workers.
-/
theorem none_stranded_iff
    (distinct : tasks.Nodup) :
    NoneStranded workers panics tasks ↔
      (∀ task ∈ tasks, panics task = false) ∨ tasks.length ≤ workers := by
  refine ⟨fun none => ?_, noneStranded⟩
  by_contra neither
  rw [not_or, not_le] at neither
  obtain ⟨returning, many⟩ := neither
  simp only [not_forall] at returning
  obtain ⟨bad, member, panicking⟩ := returning
  exact not_noneStranded distinct member (by simpa using panicking) many none

end

/-- One worker for each task; the first task panics. -/
theorem none_stranded_iff_roomy :
    NoneStranded 2 (fun task => task == 0) [0, 1] :=
  (none_stranded_iff (by decide)).mpr (.inr (by decide))

/-- The first task panics with the third one behind it in the same queue. -/
def panicAhead
    {workers : Nat}
    (first second : Fin workers) : List (Label workers Nat) :=
  [.claim 0, .claim 1, .claim 2, .push 0, .push 1, .push 0,
    .worker first, .worker first, .panic first,
    .worker second, .worker second, .finish second]

/-- The other worker is idle, and the third task stays where it is. -/
theorem task_stranded :
    ∃ scheduler log,
      (spawningMachine 2 (fun task => task == 0) [0, 1, 2]).run? (new 2 Nat)
          (panicAhead 0 1) = some (scheduler, log) ∧
        scheduler.queues 0 = [2] ∧
        scheduler.positions 1 = .checkingStop ∧
        ¬ Executable (fun task => task == 0) scheduler 2 ∧
        ¬ NoneStranded 2 (fun task => task == 0) [0, 1, 2] := by
  obtain ⟨scheduler, log, executed, unwound, queue, other, idle⟩ :
      ∃ scheduler log,
        (spawningMachine 2 (fun task => task == 0) [0, 1, 2]).run? (new 2 Nat)
            (panicAhead 0 1) = some (scheduler, log) ∧
          scheduler.positions 0 = .unwound ∧
          scheduler.queues 0 = [2] ∧
          scheduler.queues 1 = [] ∧
          scheduler.positions 1 = .checkingStop :=
    ⟨_, _, rfl, rfl, rfl, rfl, rfl⟩
  have stranded : Stranded scheduler 0 2 :=
    { unwound := unwound
      last := queue
      short := by
        rw [Fin.forall_fin_two, queue, other]
        simp
      elsewhere := by
        rw [Fin.forall_fin_two, other]
        simp
      unburdened := by
        rw [Fin.forall_fin_two, unwound, idle]
        exact ⟨rfl, rfl⟩ }
  have never : ¬ Executable (fun task => task == 0) scheduler 2 :=
    stranded.not_executable
  refine ⟨scheduler, log, executed, queue, idle, never, fun none => ?_⟩
  refine never (none log scheduler (Machine.run?_sound _ executed) 0 2 ?_)
  rw [queue]
  exact List.mem_singleton_self 2

end Runact.Scheduler
