import Runact.BlockedShutdown
import Runact.StopFlag

namespace Runact

/-!
# The threads of the pool

Who takes which step of the pool, and what it is to the runtime: the workers
inside and outside of their loops, the thread that shuts down, and the
requesters.
-/

universe u

variable {Value State Frame : Type u}

namespace ActorPool

variable {workers : Nat} [NeZero workers]

/-- The step is one of the worker's thread, inside a loop or outside. -/
def Label.isOf (id : Fin workers) : Label workers Value State Frame → Bool
  | .worker own => own == id
  | .loop own _ => own == id
  | _ => false

/-- The step is one of the thread that has called `shutdown`. -/
def Label.isShutdown : Label workers Value State Frame → Bool
  | .shutdown => true
  | _ => false

/-- The step is that of `Scheduler::shutdown` on the workers' stop flag. -/
def Label.isStopWorkers : Label workers Value State Frame → Bool
  | .stopWorkers => true
  | _ => false

/-- The step is one of the requester who holds the handle of the channel. -/
def Label.isRequester
    (channel : Nat) : Label workers Value State Frame → Bool
  | .client (.receiveReply own) => own == channel
  | .client (.dropHandle own) => own == channel
  | _ => false

variable {before after : ActorPool workers Value State Frame}
  {label : Label workers Value State Frame}
  {events : List (RuntimeEvent Value)}

/-! ## What the threads of the workers do -/

/-- A worker outside of its loops. -/
theorem step_worker
    {id : Fin workers}
    (step :
      (machine workers Value State Frame).step? before (.worker id) =
        some (after, events)) :
    ∃ scheduler shown,
      Scheduler.WorkerStep before.scheduler id scheduler shown ∧
        after = { before with scheduler := scheduler } ∧
        events = [] := by
  simp only [machine, inScheduler, Scheduler.machine, Option.map_map,
    Option.map_eq_some_iff, Function.comp_apply, Prod.mk.injEq] at step
  obtain ⟨⟨scheduler, shown⟩, step, rfl, rfl⟩ := step
  exact ⟨scheduler, shown, Scheduler.workerStep?_iff.mp step, rfl, rfl⟩

/-- What becomes of a worker by a step of the loop it is inside of. -/
inductive AfterLoop
    (before : Scheduler workers Nat)
    (id : Fin workers) :
    LoopPosition Value Frame → Scheduler workers Nat → Prop where
  | stays {position : LoopPosition Value Frame} :
      position ≠ .leaving →
      position ≠ .unwinding →
      AfterLoop before id position before
  | returns :
      AfterLoop before id .leaving (before.setPosition id .checkingStop)
  | unwinds :
      AfterLoop before id .unwinding (before.setPosition id .unwound)

/-- A worker inside of a loop stays there, or leaves it with its last step. -/
theorem step_loop
    {id : Fin workers}
    {answer : Nat}
    (step :
      (machine workers Value State Frame).step? before (.loop id answer) =
        some (after, events)) :
    ∃ index cell,
      before.scheduler.positions id = .running index ∧
        before.runtime.cells[index]? = some cell ∧
        before.runtime.loopStep? index answer =
          some (after.runtime, events) ∧
        AfterLoop before.scheduler id cell.position after.scheduler := by
  simp only [machine] at step
  split at step
  · rename_i index running
    split at step
    · cases step
    · rename_i cell here
      refine ⟨index, cell, running, here, ?_⟩
      obtain ⟨ended, ending, step⟩ := Option.bind_eq_some_iff.mp step
      obtain ⟨runtime, moved, rfl⟩ := inRuntime_eq_some step
      unfold endTask at ending
      split at ending
      · rename_i leaving
        simp only [inScheduler, Scheduler.machine, running,
          Option.map_some, Option.some.injEq] at ending
        subst ending
        exact ⟨moved, leaving ▸ .returns⟩
      · rename_i unwinding
        simp only [inScheduler, Scheduler.machine, running,
          Option.map_some, Option.some.injEq] at ending
        subst ending
        exact ⟨moved, unwinding ▸ .unwinds⟩
      · rename_i notLeaving notUnwinding
        obtain rfl : before = ended := Option.some.inj ending
        exact ⟨moved, .stays notLeaving notUnwinding⟩
  · cases step

/-- What a step of the pool is to the runtime, if it is anything. -/
def Label.inRuntime?
    (pool : ActorPool workers Value State Frame) :
    Label workers Value State Frame →
      Option (Runtime.Label Value State Frame)
  | .spawn actor state => some (.spawn actor state)
  | .client label => if isClient label then some label else none
  | .loop id answer =>
      match pool.scheduler.positions id with
      | .running index => some (.loop index answer)
      | _ => none
  | .shutdown => some .shutdown
  | _ => none

/-- The runtime takes the step its label says, or stays as it is and shows
nothing. -/
theorem step_inRuntime
    (step :
      (machine workers Value State Frame).step? before label =
        some (after, events)) :
    match label.inRuntime? before with
    | some own =>
        (Runtime.machine Value State Frame).step? before.runtime own =
          some (after.runtime, events)
    | none => after.runtime = before.runtime ∧ events = [] := by
  cases label with
  | spawn actor state =>
      simp only [machine] at step
      split at step
      · obtain ⟨claimed, claiming, step⟩ := Option.bind_eq_some_iff.mp step
        obtain ⟨runtime, moved, rfl⟩ := inRuntime_eq_some step
        obtain ⟨outcome, -, rfl⟩ := Option.map_eq_some_iff.mp claiming
        exact moved
      · cases step
  | push call =>
      obtain ⟨pushed, pushing, same⟩ := Option.map_eq_some_iff.mp step
      obtain ⟨outcome, -, rfl⟩ := Option.map_eq_some_iff.mp pushing
      cases same
      exact ⟨rfl, rfl⟩
  | client own =>
      simp only [machine] at step
      split at step
      · rename_i client
        obtain ⟨runtime, moved, rfl⟩ := inRuntime_eq_some step
        simpa [Label.inRuntime?, client] using moved
      · cases step
  | worker id =>
      obtain ⟨scheduler, shown, -, rfl, rfl⟩ := step_worker step
      exact ⟨rfl, rfl⟩
  | loop id answer =>
      obtain ⟨index, cell, running, -, moved, -⟩ := step_loop step
      simp only [Label.inRuntime?, running]
      exact moved
  | shutdown =>
      simp only [machine] at step
      split at step
      · cases step
      · obtain ⟨runtime, moved, rfl⟩ := inRuntime_eq_some step
        exact moved
  | stopWorkers =>
      simp only [machine] at step
      split at step
      · cases step
        exact ⟨rfl, rfl⟩
      · cases step

omit [NeZero workers] in
theorem inRuntime?_eq_loop
    {index answer : Nat}
    (own : label.inRuntime? before = some (.loop index answer)) :
    ∃ id, label.isOf id = true ∧
      before.scheduler.positions id = .running index := by
  cases label with
  | client other =>
      simp only [Label.inRuntime?, Option.ite_none_right_eq_some,
        Option.some.injEq] at own
      obtain ⟨client, rfl⟩ := own
      cases client
  | loop id other =>
      simp only [Label.inRuntime?] at own
      split at own
      · rename_i running
        simp only [Option.some.injEq, Runtime.Label.loop.injEq] at own
        obtain ⟨rfl, -⟩ := own
        exact ⟨id, beq_self_eq_true id, running⟩
      · cases own
  | _ => cases own

omit [NeZero workers] in
theorem inRuntime?_eq_shutdown
    (own : label.inRuntime? before = some .shutdown) :
    label.isShutdown = true := by
  cases label with
  | client other =>
      simp only [Label.inRuntime?, Option.ite_none_right_eq_some,
        Option.some.injEq] at own
      obtain ⟨client, rfl⟩ := own
      cases client
  | loop id other =>
      simp only [Label.inRuntime?] at own
      split at own <;> cases own
  | shutdown => rfl
  | _ => cases own

omit [NeZero workers] in
/-- A step is that of one worker at most. -/
theorem Label.isOf_unique
    {first second : Fin workers}
    (label : Label workers Value State Frame)
    (one : label.isOf first = true)
    (other : label.isOf second = true) :
    first = second := by
  cases label with
  | worker id | loop id answer =>
      exact (eq_of_beq one).symm.trans (eq_of_beq other)
  | _ => cases one

/-- What a loop shows, it shows by a step of the worker inside of it. -/
theorem shown_by_worker
    (step :
      (machine workers Value State Frame).step? before label =
        some (after, events))
    {event : RuntimeEvent Value}
    {index : Nat}
    (shown : event ∈ events)
    (byLoop : Runtime.shownBy event = some index) :
    ∃ id, label.isOf id = true ∧
      before.scheduler.positions id = .running index := by
  have taken := step_inRuntime step
  cases seen : label.inRuntime? before with
  | none =>
      rw [seen] at taken
      simp [taken.2] at shown
  | some own =>
      rw [seen] at taken
      by_cases mine : ∃ answer, own = .loop index answer
      · obtain ⟨answer, rfl⟩ := mine
        exact inRuntime?_eq_loop seen
      · refine absurd byLoop (Runtime.notShown_of_notOwn taken ?_ event shown)
        exact fun answer same => mine ⟨answer, same⟩

/-- Nobody but the worker itself moves a worker. -/
theorem step_positions_other
    {id : Fin workers}
    (step :
      (machine workers Value State Frame).step? before label =
        some (after, events))
    (other : label.isOf id = false) :
    after.scheduler.positions id = before.scheduler.positions id := by
  cases label with
  | spawn actor state =>
      simp only [machine] at step
      split at step
      · obtain ⟨claimed, claiming, step⟩ := Option.bind_eq_some_iff.mp step
        obtain ⟨runtime, moved, rfl⟩ := inRuntime_eq_some step
        cases claiming
        rfl
      · cases step
  | push call =>
      simp only [machine, inScheduler, Scheduler.machine] at step
      split at step
      · cases step
      · cases step
        rfl
  | client own =>
      simp only [machine] at step
      split at step
      · obtain ⟨runtime, moved, rfl⟩ := inRuntime_eq_some step
        rfl
      · cases step
  | worker own =>
      have different : id ≠ own := by
        rintro rfl
        simp [Label.isOf] at other
      obtain ⟨scheduler, shown, moved, rfl, -⟩ := step_worker step
      cases moved <;>
        simp [Scheduler.setPosition, Scheduler.setQueue, different]
  | loop own answer =>
      have different : id ≠ own := by
        rintro rfl
        simp [Label.isOf] at other
      obtain ⟨index, cell, -, -, -, ending⟩ := step_loop step
      generalize cell.position = place at ending
      generalize after.scheduler = scheduler at ending ⊢
      cases ending with
      | stays notLeaving notUnwinding => rfl
      | returns | unwinds =>
          exact Scheduler.setPosition_positions_of_ne _ different _
  | shutdown =>
      simp only [machine] at step
      split at step
      · cases step
      · obtain ⟨runtime, moved, rfl⟩ := inRuntime_eq_some step
        rfl
  | stopWorkers =>
      simp only [machine] at step
      split at step
      · cases step
        rfl
      · cases step

/-- The thread of a worker that has ended takes no step. -/
theorem not_own_of_isOut
    {id : Fin workers}
    (out : (before.scheduler.positions id).isOut = true)
    (step :
      (machine workers Value State Frame).step? before label =
        some (after, events)) :
    label.isOf id = false := by
  by_contra own
  rw [Bool.not_eq_false] at own
  cases label with
  | worker other =>
      obtain rfl : other = id := eq_of_beq own
      obtain ⟨scheduler, shown, moved, -⟩ := step_worker step
      cases moved <;> simp_all [WorkerPosition.isOut]
  | loop other answer =>
      obtain rfl : other = id := eq_of_beq own
      obtain ⟨index, cell, running, -⟩ := step_loop step
      simp [running, WorkerPosition.isOut] at out
  | _ => cases own

/-- A worker inside of a loop takes the step of the loop. -/
theorem enabled_of_loopStep
    {pool : ActorPool workers Value State Frame}
    {id : Fin workers}
    {index : Nat}
    (running : pool.scheduler.positions id = .running index)
    (enabled :
      ∃ runtime shown,
        pool.runtime.loopStep? index 0 = some (runtime, shown)) :
    (machine workers Value State Frame).Enabled pool (Label.isOf id) := by
  obtain ⟨runtime, shown, step⟩ := enabled
  obtain ⟨cell, here, -⟩ := Runtime.loopStep_cases step
  have ends :
      ∃ ended, pool.endTask id cell.position = some ended ∧
        ended.runtime = pool.runtime := by
    cases position : cell.position <;>
      simp [endTask, inScheduler, Scheduler.machine, running]
  obtain ⟨ended, ending, same⟩ := ends
  refine ⟨.loop id 0, { ended with runtime := runtime }, shown,
    beq_self_eq_true id, ?_⟩
  simp [machine, running, here, ending, inRuntime, same, Runtime.machine,
    step]

/-- A worker outside of its loops that has not ended takes a step. -/
theorem enabled_of_outside
    {pool : ActorPool workers Value State Frame}
    {id : Fin workers}
    (notOut : (pool.scheduler.positions id).isOut = false)
    (outside : ∀ index, pool.scheduler.positions id ≠ .running index) :
    (machine workers Value State Frame).Enabled pool (Label.isOf id) := by
  obtain ⟨label, scheduler, shown, own, step⟩ :=
    Scheduler.enabled_of_not_isOut notOut
  cases label with
  | worker other =>
      obtain rfl : other = id := eq_of_beq own
      refine ⟨.worker other, { pool with scheduler := scheduler }, [], own, ?_⟩
      simp [machine, inScheduler, step]
  | finish other | panic other =>
      obtain rfl : other = id := eq_of_beq own
      simp [Scheduler.machine] at step
  | _ => cases own

/-- Every worker thread has ended. -/
def AllOut (pool : ActorPool workers Value State Frame) : Prop :=
  ∀ id, (pool.scheduler.positions id).isOut = true

theorem AllOut.step
    (out : AllOut before)
    (step :
      (machine workers Value State Frame).step? before label =
        some (after, events)) :
    AllOut after := by
  intro id
  rw [step_positions_other step (not_own_of_isOut (out id) step)]
  exact out id

omit [NeZero workers] in
/-- The workers are joined when the flag is set and all their threads have
ended. -/
theorem workersJoined_iff
    {pool : ActorPool workers Value State Frame} :
    pool.workersJoined = true ↔ pool.scheduler.stop = true ∧ AllOut pool := by
  simp only [workersJoined, Bool.and_eq_true, List.all_eq_true,
    List.mem_finRange, true_implies, AllOut]
  refine and_congr_right fun _ => forall_congr' fun id => ?_
  cases pool.scheduler.positions id <;> simp [WorkerPosition.isOut]

/-! ## What holds of every reachable pool -/

section Reachable

variable {capacity : Nat} {log : List (RuntimeEvent Value)}
  {pool : ActorPool workers Value State Frame}

/-- A run of the pool, seen from the runtime. -/
theorem run_inRuntime
    (run :
      Machine.Run (machine workers Value State Frame)
        (withConfig workers Value State Frame capacity) log pool) :
    Machine.Run (Runtime.machine Value State Frame)
      (Runtime.withConfig Value State Frame capacity) log pool.runtime := by
  have seen := (runtimeSimulation workers Value State Frame).run run trivial
  rwa [show log.flatMap (runtimeSimulation workers Value State Frame).observe =
    log from List.flatMap_singleton' log] at seen

/-- A `shutdown` under way has set the stop flag, and one that has returned has
seen all worker threads end. -/
theorem run_joined
    (run :
      Machine.Run (machine workers Value State Frame)
        (withConfig workers Value State Frame capacity) log pool) :
    (pool.runtime.stop = false →
      pool.runtime.shutdownPhase = .idle ∧ pool.runtime.joined = false) ∧
      (pool.runtime.joined = true → AllOut pool) := by
  refine run.invariant
    (fun pool =>
      (pool.runtime.stop = false →
        pool.runtime.shutdownPhase = .idle ∧ pool.runtime.joined = false) ∧
        (pool.runtime.joined = true → AllOut pool))
    (fun {before label after events} known step => ?_) ?_
  · obtain ⟨flagged, out⟩ := known
    have moved := step_inRuntime step
    cases seen : label.inRuntime? before with
    | none =>
        rw [seen] at moved
        rw [moved.1]
        exact ⟨flagged, fun joined => (out joined).step step⟩
    | some own =>
        rw [seen] at moved
        refine ⟨fun running => Runtime.step_phase moved flagged running,
          fun joined => ?_⟩
        by_cases shutdown : own = .shutdown
        · subst shutdown
          cases label with
          | shutdown =>
              simp only [machine] at step
              split at step
              · cases step
              · rename_i guard
                obtain ⟨runtime, taken, rfl⟩ := inRuntime_eq_some step
                cases phase : before.runtime.shutdownPhase with
                | actorsCleared =>
                    have workersJoined : before.workersJoined = true := by
                      simpa [phase] using guard
                    exact (workersJoined_iff.mp workersJoined).2
                | stopping =>
                    simp only [Runtime.machine, Runtime.shutdownStep?, phase,
                      Option.ite_none_right_eq_some, Option.some.injEq,
                      Prod.mk.injEq] at taken
                    obtain ⟨-, rfl, -⟩ := taken
                    exact out joined
                | _ =>
                    simp only [Runtime.machine, Runtime.shutdownStep?, phase,
                      Option.some.injEq, Prod.mk.injEq] at taken
                    obtain ⟨rfl, -⟩ := taken
                    exact out joined
          | _ => cases inRuntime?_eq_shutdown seen
        · rw [(Runtime.step_shutdownPhase moved shutdown).2.1] at joined
          exact (out joined).step step
  · exact ⟨fun _ => ⟨rfl, rfl⟩, fun joined => by cases joined⟩

end Reachable

/-- Once the workers' stop flag is set it stays set. -/
theorem Effect.workersStop
    (effect : Effect before after events)
    (stopping : before.scheduler.stop = true) :
    after.scheduler.stop = true := by
  cases effect with
  | worker id scheduler shown step => cases step <;> exact stopping
  | stopWorkers cleared => rfl
  | _ => exact stopping

/-! ## The last steps of `shutdown` -/

/-- Other steps leave a `shutdown` call where it is. -/
theorem step_shutdownPhase
    (step :
      (machine workers Value State Frame).step? before label =
        some (after, events))
    (notShutdown : label.isShutdown = false) :
    after.runtime.shutdownPhase = before.runtime.shutdownPhase := by
  have taken := step_inRuntime step
  cases seen : label.inRuntime? before with
  | none =>
      rw [seen] at taken
      exact congrArg Runtime.shutdownPhase taken.1
  | some own =>
      rw [seen] at taken
      refine (Runtime.step_shutdownPhase taken ?_).1
      rintro rfl
      rw [inRuntime?_eq_shutdown seen] at notShutdown
      cases notShutdown

/-- The last steps of a `shutdown` call. -/
theorem step_shutdown_cases
    (step :
      (machine workers Value State Frame).step? before label =
        some (after, events))
    (shutdown : label.isShutdown = true)
    (past : before.runtime.PastSenders) :
    (before.runtime.shutdownPhase = .sendersCleared ∧
        after.runtime.shutdownPhase = .actorsCleared) ∨
      (before.runtime.shutdownPhase = .actorsCleared ∧
        events = [.shutDown] ∧
        AllOut before) := by
  cases label with
  | shutdown =>
      simp only [machine] at step
      split at step
      · cases step
      · rename_i guard
        obtain ⟨runtime, taken, rfl⟩ := inRuntime_eq_some step
        rcases past with phase | phase
        · simp only [Runtime.machine, Runtime.shutdownStep?, phase,
            Option.some.injEq, Prod.mk.injEq] at taken
          obtain ⟨rfl, -⟩ := taken
          exact .inl ⟨phase, rfl⟩
        · simp only [Runtime.machine, Runtime.shutdownStep?, phase,
            Option.ite_none_right_eq_some, Option.some.injEq,
            Prod.mk.injEq] at taken
          have workersJoined : before.workersJoined = true := by
            simpa [phase] using guard
          exact .inr
            ⟨phase, taken.2.2.symm, (workersJoined_iff.mp workersJoined).2⟩
  | _ => cases shutdown

end ActorPool

end Runact
