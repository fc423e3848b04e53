import Runact.Scheduler
import Runact.LoopStages

namespace Runact

/-!
# Actor loops on the scheduler's workers

`Runtime::spawn` hands every actor loop to the scheduler as one task, and a loop
takes its steps only while a worker is inside that task.  The pool joins the two
machines: loops step under a worker, a worker's task ends when the loop it runs
is dropped, and `shutdown` stops and joins the workers.
-/

universe u

/-- The runtime with the scheduler it owns; a task is the number of a cell. -/
structure ActorPool (workers : Nat) (Value State Frame : Type u) where
  scheduler : Scheduler workers Nat
  runtime : Runtime Value State Frame

namespace ActorPool

variable {workers : Nat} [NeZero workers] {Value State Frame : Type u}

/-- `Runtime::with_config`, on a machine with that many workers. -/
def withConfig
    (workers : Nat)
    (Value State Frame : Type u)
    (mailboxCapacity : Nat) : ActorPool workers Value State Frame where
  scheduler := Scheduler.new workers Nat
  runtime := Runtime.withConfig Value State Frame mailboxCapacity

/-- Scheduling choices. -/
inductive Label (workers : Nat) (Value State Frame : Type u) where
  /-- `Runtime::spawn`, up to the `fetch_add` of `Scheduler::spawn`. -/
  | spawn (actor : Actor Value State Frame) (state : State)
  /-- The `push` that ends a `Runtime::spawn` call. -/
  | push (call : Nat)
  /-- A step of somebody who calls the runtime, or of the timer service. -/
  | client (label : Runtime.Label Value State Frame)
  /-- The next step of a worker that is not inside a task. -/
  | worker (id : Fin workers)
  /-- The next step of the actor loop a worker runs. -/
  | loop (id : Fin workers) (answer : Nat)
  /-- The next step of `Runtime::shutdown`. -/
  | shutdown
  /-- `Scheduler::shutdown` stores `true` into the workers' stop flag. -/
  | stopWorkers

/-- What neither spawns, nor shuts down, nor runs on a worker. -/
def isClient : Runtime.Label Value State Frame → Bool
  | .spawn .. => false
  | .loop .. => false
  | .shutdown => false
  | _ => true

/-- A step of the runtime. -/
def inRuntime
    (pool : ActorPool workers Value State Frame)
    (label : Runtime.Label Value State Frame) :
    Option (ActorPool workers Value State Frame × List (RuntimeEvent Value)) :=
  ((Runtime.machine Value State Frame).step? pool.runtime label).map
    fun outcome => ({ pool with runtime := outcome.1 }, outcome.2)

/-- A step of the scheduler, which shows nothing of the actors. -/
def inScheduler
    (pool : ActorPool workers Value State Frame)
    (label : Scheduler.Label workers Nat) :
    Option (ActorPool workers Value State Frame) :=
  ((Scheduler.machine workers Nat).step? pool.scheduler label).map
    fun outcome => { pool with scheduler := outcome.1 }

/-- Dropping the loop ends the task: it returns, or unwinds its worker. -/
def endTask
    (pool : ActorPool workers Value State Frame)
    (id : Fin workers) :
    LoopPosition Value Frame → Option (ActorPool workers Value State Frame)
  | .leaving => pool.inScheduler (.finish id)
  | .unwinding => pool.inScheduler (.panic id)
  | _ => some pool

/-- Every worker thread has ended. -/
def workersJoined (pool : ActorPool workers Value State Frame) : Bool :=
  pool.scheduler.stop &&
    (List.finRange workers).all fun id =>
      match pool.scheduler.positions id with
      | .exited => true
      | .unwound => true
      | _ => false

/-- The machine of the runtime on its workers. -/
def machine (workers : Nat) [NeZero workers] (Value State Frame : Type u) :
    Machine (ActorPool workers Value State Frame)
      (Label workers Value State Frame) (RuntimeEvent Value) where
  step?
    | pool, .spawn actor state =>
        -- `spawn` takes `&mut self`, so no other one is in flight
        if pool.scheduler.claims.isEmpty then
          (pool.inScheduler (.claim pool.runtime.cells.length)).bind
            fun claimed => claimed.inRuntime (.spawn actor state)
        else
          none
    | pool, .push call =>
        (pool.inScheduler (.push call)).map fun pushed => (pushed, [])
    | pool, .client label =>
        if isClient label then pool.inRuntime label else none
    | pool, .worker id =>
        (pool.inScheduler (.worker id)).map fun moved => (moved, [])
    | pool, .loop id answer =>
        match pool.scheduler.positions id with
        | .running index =>
            match pool.runtime.cells[index]? with
            | none => none
            | some cell =>
                (pool.endTask id cell.position).bind fun ended =>
                  ended.inRuntime (.loop index answer)
        | _ => none
    | pool, .shutdown =>
        if pool.runtime.shutdownPhase = .actorsCleared ∧
            pool.workersJoined = false then
          none
        else
          pool.inRuntime .shutdown
    | pool, .stopWorkers =>
        if pool.runtime.shutdownPhase = .actorsCleared then
          (pool.inScheduler .setStop).map fun stopped => (stopped, [])
        else
          none

/-- What a step does to the two machines, one rule for each kind of step. -/
inductive Effect
    (before : ActorPool workers Value State Frame) :
    ActorPool workers Value State Frame → List (RuntimeEvent Value) →
      Prop where
  | spawned
      (actor : Actor Value State Frame) (state : State)
      (runtime : Runtime Value State Frame)
      (events : List (RuntimeEvent Value)) :
      before.scheduler.claims = [] →
      (Runtime.machine Value State Frame).step? before.runtime
        (.spawn actor state) = some (runtime, events) →
      Effect before
        { scheduler :=
            { before.scheduler with
              nextWorker := before.scheduler.nextWorker + 1
              claims :=
                [(Fin.ofNat workers before.scheduler.nextWorker,
                  before.runtime.cells.length)] }
          runtime := runtime }
        events
  | pushed (call : Nat) (queue : Fin workers) (task : Nat) :
      before.scheduler.claims[call]? = some (queue, task) →
      Effect before
        { before with
          scheduler :=
            (before.scheduler.setQueue queue
              ((before.scheduler.queues queue).push task)).dropClaim call }
        []
  | client
      (label : Runtime.Label Value State Frame)
      (runtime : Runtime Value State Frame)
      (events : List (RuntimeEvent Value)) :
      isClient label = true →
      (Runtime.machine Value State Frame).step? before.runtime label =
        some (runtime, events) →
      Effect before { before with runtime := runtime } events
  | worker
      (id : Fin workers) (scheduler : Scheduler workers Nat)
      (shown : List (Scheduler.Event workers Nat)) :
      Scheduler.WorkerStep before.scheduler id scheduler shown →
      Effect before { before with scheduler := scheduler } []
  /-- A loop goes on, and its worker stays inside the task. -/
  | looped
      (id : Fin workers) (index answer : Nat)
      (cell : ActorCell Value State Frame)
      (runtime : Runtime Value State Frame)
      (events : List (RuntimeEvent Value)) :
      before.scheduler.positions id = .running index →
      before.runtime.cells[index]? = some cell →
      cell.position ≠ .leaving →
      cell.position ≠ .unwinding →
      before.runtime.loopStep? index answer = some (runtime, events) →
      Effect before { before with runtime := runtime } events
  /-- A loop is dropped, and its worker leaves the task. -/
  | left
      (id : Fin workers) (index answer : Nat)
      (cell : ActorCell Value State Frame)
      (position : WorkerPosition workers Nat)
      (runtime : Runtime Value State Frame)
      (events : List (RuntimeEvent Value)) :
      before.scheduler.positions id = .running index →
      before.runtime.cells[index]? = some cell →
      (cell.position = .leaving ∧ position = .checkingStop ∨
        cell.position = .unwinding ∧ position = .unwound) →
      before.runtime.loopStep? index answer = some (runtime, events) →
      Effect before
        { scheduler := before.scheduler.setPosition id position
          runtime := runtime }
        events
  | shutdown
      (runtime : Runtime Value State Frame)
      (events : List (RuntimeEvent Value)) :
      before.runtime.shutdownStep? = some (runtime, events) →
      Effect before { before with runtime := runtime } events
  | stopWorkers :
      before.runtime.shutdownPhase = .actorsCleared →
      Effect before
        { before with scheduler := { before.scheduler with stop := true } }
        []

omit [NeZero workers] in
theorem inRuntime_eq_some
    {pool after : ActorPool workers Value State Frame}
    {label : Runtime.Label Value State Frame}
    {events : List (RuntimeEvent Value)}
    (step : pool.inRuntime label = some (after, events)) :
    ∃ runtime,
      (Runtime.machine Value State Frame).step? pool.runtime label =
          some (runtime, events) ∧
        after = { pool with runtime := runtime } := by
  simp only [inRuntime, Option.map_eq_some_iff, Prod.mk.injEq] at step
  obtain ⟨⟨runtime, shown⟩, step, rfl, rfl⟩ := step
  exact ⟨runtime, step, rfl⟩

/-- The step of a loop, seen with what becomes of its worker. -/
theorem loop_effect
    {before after : ActorPool workers Value State Frame}
    {id : Fin workers}
    {answer : Nat}
    {events : List (RuntimeEvent Value)}
    (step :
      (machine workers Value State Frame).step? before (.loop id answer) =
        some (after, events)) :
    Effect before after events := by
  simp only [machine] at step
  split at step
  · rename_i index running
    split at step
    · cases step
    · rename_i cell here
      obtain ⟨ended, ending, step⟩ := Option.bind_eq_some_iff.mp step
      obtain ⟨runtime, moved, rfl⟩ := inRuntime_eq_some step
      unfold endTask at ending
      split at ending
      · rename_i leaving
        simp only [inScheduler, Scheduler.machine, running,
          Option.map_some, Option.some.injEq] at ending
        subst ending
        exact .left id index answer cell .checkingStop runtime events
          running here (.inl ⟨leaving, rfl⟩) moved
      · rename_i unwinding
        simp only [inScheduler, Scheduler.machine, running,
          Option.map_some, Option.some.injEq] at ending
        subst ending
        exact .left id index answer cell .unwound runtime events
          running here (.inr ⟨unwinding, rfl⟩) moved
      · rename_i notLeaving notUnwinding
        obtain rfl : before = ended := Option.some.inj ending
        exact .looped id index answer cell runtime events
          running here notLeaving notUnwinding moved
  · cases step

/-- Every enabled step has one of the effects. -/
theorem effect_of_step
    {before after : ActorPool workers Value State Frame}
    {label : Label workers Value State Frame}
    {events : List (RuntimeEvent Value)}
    (step :
      (machine workers Value State Frame).step? before label =
        some (after, events)) :
    Effect before after events := by
  cases label with
  | spawn actor state =>
      simp only [machine] at step
      split at step
      · rename_i free
        have noClaims : before.scheduler.claims = [] := by simpa using free
        obtain ⟨claimed, claiming, step⟩ := Option.bind_eq_some_iff.mp step
        obtain ⟨runtime, moved, rfl⟩ := inRuntime_eq_some step
        simp only [inScheduler, Scheduler.machine, noClaims,
          List.nil_append, Option.map_some, Option.some.injEq] at claiming
        subst claiming
        exact .spawned actor state runtime events noClaims moved
      · cases step
  | push call =>
      simp only [machine, inScheduler, Scheduler.machine] at step
      split at step
      · cases step
      · rename_i queue task claimed
        cases step
        exact .pushed call queue task claimed
  | client label =>
      simp only [machine] at step
      split at step
      · rename_i client
        obtain ⟨runtime, moved, rfl⟩ := inRuntime_eq_some step
        exact .client label runtime events client moved
      · cases step
  | worker id =>
      simp only [machine, inScheduler, Scheduler.machine, Option.map_map,
        Option.map_eq_some_iff, Function.comp_apply, Prod.mk.injEq] at step
      obtain ⟨⟨scheduler, shown⟩, step, rfl, rfl⟩ := step
      exact .worker id scheduler shown (Scheduler.workerStep?_iff.mp step)
  | loop id answer => exact loop_effect step
  | shutdown =>
      simp only [machine] at step
      split at step
      · cases step
      · obtain ⟨runtime, moved, rfl⟩ := inRuntime_eq_some step
        exact .shutdown runtime events moved
  | stopWorkers =>
      simp only [machine] at step
      split at step
      · rename_i cleared
        cases step
        exact .stopWorkers cleared
      · cases step

/-- Every step of the pool is a step of the runtime, or leaves it alone. -/
theorem Effect.inRuntime
    {before after : ActorPool workers Value State Frame}
    {events : List (RuntimeEvent Value)}
    (effect : Effect before after events) :
    (after.runtime = before.runtime ∧ events = []) ∨
      ∃ label,
        (Runtime.machine Value State Frame).step? before.runtime label =
          some (after.runtime, events) := by
  cases effect with
  | spawned actor state runtime events free step => exact .inr ⟨_, step⟩
  | pushed call queue task claimed => exact .inl ⟨rfl, rfl⟩
  | client label runtime events client step => exact .inr ⟨_, step⟩
  | worker id scheduler shown step => exact .inl ⟨rfl, rfl⟩
  | looped id index answer cell runtime events running here _ _ step =>
      exact .inr ⟨.loop index answer, step⟩
  | left id index answer cell position runtime events running here _ step =>
      exact .inr ⟨.loop index answer, step⟩
  | shutdown runtime events step => exact .inr ⟨.shutdown, step⟩
  | stopWorkers cleared => exact .inl ⟨rfl, rfl⟩

/-- The pool refines the runtime: its workers only choose the order. -/
def runtimeSimulation
    (workers : Nat) [NeZero workers] (Value State Frame : Type u) :
    Machine.Simulation (machine workers Value State Frame)
      (Runtime.machine Value State Frame) where
  view := ActorPool.runtime
  observe event := [event]
  good _ := True
  preserved _ _ := trivial
  matched := by
    intro before label after events _ step
    rw [List.flatMap_singleton']
    rcases (effect_of_step step).inRuntime with ⟨same, rfl⟩ | ⟨label, step⟩
    · rw [same]
      exact .nil
    · exact .single label step

end ActorPool

end Runact
