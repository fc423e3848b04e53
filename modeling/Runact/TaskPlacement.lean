import Runact.ActorIds
import Runact.ActorPool
import Runact.RuntimeEffect
import Runact.SchedulerConservation

namespace Runact

/-!
# Where the actor loops are

The scheduler knows the actor loops as tasks, the runtime as cells.  A loop that
has not ended is in exactly one place: in the hands of a `spawn` call, in a run
queue, in a stolen batch or on one worker; and the loops which have started are
those on a worker.
-/

universe u

namespace WorkerPosition

variable {workers : Nat} {Task : Type u}

/-- The task a worker is inside of, if it is. -/
def inside : WorkerPosition workers Task → List Task
  | .running task => [task]
  | _ => []

end WorkerPosition

namespace Scheduler

variable {workers : Nat} {Task : Type u}

/-- The tasks the workers are inside of. -/
def runningTasks (scheduler : Scheduler workers Task) : Multiset Task :=
  ∑ id, ((scheduler.positions id).inside : Multiset Task)

/-- The tasks of `spawn` calls that have not been started. -/
def unstartedTasks (scheduler : Scheduler workers Task) : Multiset Task :=
  (scheduler.claims.map Prod.snd : Multiset Task) + waitingTasks scheduler

/-- The tasks of `spawn` calls that have not come to an end. -/
def openTasks (scheduler : Scheduler workers Task) : Multiset Task :=
  unstartedTasks scheduler + runningTasks scheduler

theorem runningTasks_setPosition
    (scheduler : Scheduler workers Task)
    (id : Fin workers)
    (position : WorkerPosition workers Task) :
    runningTasks (scheduler.setPosition id position) +
        ((scheduler.positions id).inside : Multiset Task) =
      runningTasks scheduler + (position.inside : Multiset Task) :=
  sum_update_add scheduler.positions
    (fun position => (position.inside : Multiset Task)) id position

/-- Who is inside of a task. -/
theorem mem_runningTasks
    {scheduler : Scheduler workers Task}
    {task : Task} :
    task ∈ runningTasks scheduler ↔
      ∃ id, scheduler.positions id = .running task := by
  simp only [runningTasks, Multiset.mem_sum, Finset.mem_univ, true_and]
  constructor
  · rintro ⟨id, member⟩
    cases position : scheduler.positions id with
    | running other =>
        rw [position] at member
        obtain rfl : task = other := by
          simpa [WorkerPosition.inside] using member
        exact ⟨id, position⟩
    | _ => simp [position, WorkerPosition.inside] at member
  · rintro ⟨id, running⟩
    exact ⟨id, by simp [running, WorkerPosition.inside]⟩

/-- Where no task is open twice, no two workers are inside of one task. -/
theorem running_unique
    {scheduler : Scheduler workers Task}
    (once : (openTasks scheduler).Nodup)
    {first second : Fin workers}
    {task : Task}
    (here : scheduler.positions first = .running task)
    (there : scheduler.positions second = .running task) :
    first = second := by
  classical
  by_contra different
  have count :
      ∑ id ∈ {first, second},
          ((scheduler.positions id).inside : Multiset Task).count task ≤
        (runningTasks scheduler).count task := by
    rw [runningTasks, Multiset.count_sum']
    exact Finset.sum_le_sum_of_subset (Finset.subset_univ _)
  rw [Finset.sum_pair different, here, there] at count
  have atMostOnce : (runningTasks scheduler).count task ≤ 1 :=
    Multiset.nodup_iff_count_le_one.mp
      (Multiset.nodup_of_le (Multiset.le_add_left _ _) once) task
  simp [WorkerPosition.inside] at count
  omega

/-- A task that some worker is inside of does not wait for a worker. -/
theorem not_unstarted_of_running
    {scheduler : Scheduler workers Task}
    (once : (openTasks scheduler).Nodup)
    {id : Fin workers}
    {task : Task}
    (running : scheduler.positions id = .running task) :
    task ∉ unstartedTasks scheduler := by
  intro member
  exact Multiset.disjoint_left.mp (Multiset.nodup_add.mp once).2.2 member
    (mem_runningTasks.mpr ⟨id, running⟩)

/-- A worker outside of its tasks is inside of the one it starts next. -/
theorem WorkerStep.runningTasks
    {scheduler after : Scheduler workers Task}
    {id : Fin workers}
    {events : List (Event workers Task)}
    (step : WorkerStep scheduler id after events) :
    Scheduler.runningTasks after =
      Scheduler.runningTasks scheduler +
        (startedTasks events : Multiset Task) := by
  have outside
      {other : Scheduler workers Task}
      (position : WorkerPosition workers Task)
      (samePositions : other.positions = scheduler.positions)
      (notBefore : (scheduler.positions id).inside = []) :
      Scheduler.runningTasks (other.setPosition id position) =
        Scheduler.runningTasks scheduler +
          (position.inside : Multiset Task) := by
    have moved := runningTasks_setPosition other id position
    rw [samePositions, notBefore] at moved
    simpa [Scheduler.runningTasks, samePositions] using moved
  cases step with
  | exit position | goOn position | empty position | yield position
  | refused target targets position | pushed position =>
      exact outside _ rfl (by rw [position]; rfl)
  | start task rest position queue =>
      exact outside (.running task) rfl (by rw [position]; rfl)
  | steal target targets batch rest position shape nonempty =>
      exact outside _ rfl (by rw [position]; rfl)
  | repush task batch position =>
      exact outside _ rfl (by rw [position]; rfl)

theorem WorkerStep.spawnedTasks
    {scheduler after : Scheduler workers Task}
    {id : Fin workers}
    {events : List (Event workers Task)}
    (step : WorkerStep scheduler id after events) :
    Scheduler.spawnedTasks events = [] := by
  cases step <;> rfl

theorem WorkerStep.claims
    {scheduler after : Scheduler workers Task}
    {id : Fin workers}
    {events : List (Event workers Task)}
    (step : WorkerStep scheduler id after events) :
    after.claims = scheduler.claims := by
  cases step <;> rfl

/-- A worker outside of its tasks starts some, and ends none. -/
theorem WorkerStep.unstartedTasks
    {scheduler after : Scheduler workers Task}
    {id : Fin workers}
    {events : List (Event workers Task)}
    (step : WorkerStep scheduler id after events) :
    Scheduler.unstartedTasks after + (startedTasks events : Multiset Task) =
      Scheduler.unstartedTasks scheduler := by
  have moved := step.waiting_balance
  rw [step.spawnedTasks, Multiset.coe_nil, add_zero] at moved
  rw [Scheduler.unstartedTasks, add_assoc, moved, step.claims]
  rfl

theorem WorkerStep.openTasks
    {scheduler after : Scheduler workers Task}
    {id : Fin workers}
    {events : List (Event workers Task)}
    (step : WorkerStep scheduler id after events) :
    Scheduler.openTasks after = Scheduler.openTasks scheduler := by
  rw [Scheduler.openTasks, step.runningTasks, Scheduler.openTasks,
    ← step.unstartedTasks, add_assoc,
    add_comm (startedTasks events : Multiset Task)]

/-- A push takes its task from the call to the queue. -/
theorem unstartedTasks_push
    {scheduler : Scheduler workers Task}
    {call : Nat}
    {queue : Fin workers}
    {task : Task}
    (claimed : scheduler.claims[call]? = some (queue, task)) :
    unstartedTasks
        ((scheduler.setQueue queue
          ((scheduler.queues queue).push task)).dropClaim call) =
      unstartedTasks scheduler := by
  obtain ⟨inside, claim⟩ := List.getElem?_eq_some_iff.mp claimed
  have perm := (List.getElem_cons_eraseIdx_perm inside).map Prod.snd
  rw [claim, List.map_cons] at perm
  have calls := Multiset.coe_eq_coe.mpr perm
  have pushed :=
    waitingTasks_setQueue scheduler queue ((scheduler.queues queue).push task)
  rw [RunQueue.push, ← Multiset.coe_add,
    add_comm (scheduler.queues queue : Multiset Task), ← add_assoc,
    add_left_inj] at pushed
  change
    ((scheduler.claims.eraseIdx call).map Prod.snd : Multiset Task) +
        waitingTasks (scheduler.setQueue queue
          (scheduler.queues queue ++ [task])) =
      (scheduler.claims.map Prod.snd : Multiset Task) + waitingTasks scheduler
  rw [pushed, ← calls, Multiset.coe_singleton, ← Multiset.cons_coe,
    ← Multiset.singleton_add]
  abel

end Scheduler

namespace Runtime

variable {Value State Frame : Type u}

/-- Where the loop of a cell stands, if there is one. -/
def loopAt
    (runtime : Runtime Value State Frame)
    (index : Nat) : Option (LoopPosition Value Frame) :=
  (runtime.cells[index]?).map ActorCell.position

/-- Only its own steps and its spawn move a loop. -/
theorem step_loopAt
    {before after : Runtime Value State Frame}
    {label : Label Value State Frame}
    {events : List (RuntimeEvent Value)}
    {index : Nat}
    (step :
      (machine Value State Frame).step? before label = some (after, events))
    (notSpawn : ∀ actor state, label ≠ .spawn actor state)
    (notOwn : ∀ answer, label ≠ .loop index answer) :
    after.loopAt index = before.loopAt index := by
  unfold loopAt
  cases here : before.cells[index]? with
  | some cell =>
      obtain ⟨extra, there, -⟩ := step_others step here notOwn
      rw [there]
      rfl
  | none =>
      have length := step_length step
      have outside := List.getElem?_eq_none_iff.mp here
      have still : after.cells.length = before.cells.length := by
        cases label with
        | spawn actor state => exact absurd rfl (notSpawn actor state)
        | _ => exact length
      rw [List.getElem?_eq_none_iff.mpr (still ▸ outside)]

/-- A loop leaves the others where they are. -/
theorem loopStep_loopAt_of_ne
    {before after : Runtime Value State Frame}
    {index other answer : Nat}
    {events : List (RuntimeEvent Value)}
    (step : before.loopStep? index answer = some (after, events))
    (different : other ≠ index) :
    after.loopAt other = before.loopAt other := by
  have moved :
      (machine Value State Frame).step? before (.loop index answer) =
        some (after, events) := step
  exact step_loopAt moved (by simp)
    (by simpa using fun same => absurd same.symm different)

/-- A spawn adds one loop, which is to be started. -/
theorem spawn_loopAt
    {before after : Runtime Value State Frame}
    {actor : Actor Value State Frame}
    {state : State}
    {events : List (RuntimeEvent Value)}
    (step :
      (machine Value State Frame).step? before (.spawn actor state) =
        some (after, events))
    (index : Nat) :
    after.loopAt index =
      if index = before.cells.length then some .queued
      else before.loopAt index := by
  simp only [machine, spawn, Option.ite_none_right_eq_some,
    Option.some.injEq, Prod.mk.injEq] at step
  obtain ⟨-, rfl, -⟩ := step
  unfold loopAt
  by_cases new : index = before.cells.length
  · subst new
    simp [ActorCell.new]
  · rw [if_neg new]
    rcases Nat.lt_or_gt_of_ne new with inside | beyond
    · rw [List.getElem?_append_left inside]
    · rw [List.getElem?_eq_none_iff.mpr (Nat.le_of_lt beyond),
        List.getElem?_eq_none_iff.mpr (by simpa using beyond)]

/-- A loop that takes a step other than its last one goes on. -/
theorem LoopEffect.goesOn
    {before after : Runtime Value State Frame}
    {index : Nat}
    {cell : ActorCell Value State Frame}
    {events : List (RuntimeEvent Value)}
    (effect : LoopEffect before index cell after events)
    (here : before.cells[index]? = some cell)
    (notLeaving : cell.position ≠ .leaving)
    (notUnwinding : cell.position ≠ .unwinding) :
    ∃ position,
      after.loopAt index = some position ∧ position.isEnded = false := by
  have moved
      {next : LoopPosition Value Frame}
      {runtime : Runtime Value State Frame}
      {there : ActorCell Value State Frame}
      (found : runtime.cells[index]? = some there)
      (opened : next.isEnded = false) :
      ∃ position,
        (runtime.moveTo index next).loopAt index = some position ∧
          position.isEnded = false :=
    ⟨next, by rw [loopAt, moveTo, modifyCell_here _ found]; rfl, opened⟩
  have replaced
      {change : ActorCell Value State Frame → ActorCell Value State Frame}
      (opened : (change cell).position.isEnded = false) :
      ∃ position,
        (before.modifyCell index change).loopAt index = some position ∧
          position.isEnded = false :=
    ⟨(change cell).position, by rw [loopAt, modifyCell_here _ here]; rfl,
      opened⟩
  cases effect with
  | checked shape =>
      refine moved here ?_
      cases before.stop <;> rfl
  | sent draining channel envelope resume sent shape accepted =>
      obtain ⟨extra, there, -⟩ := OnlyExtended.offered accepted here
      refine moved there ?_
      rfl
  | replied draining channel message resume shape empty =>
      have there :
          (before.setReply channel
            { buffer := some message, handleAlive := true }).cells[index]? =
            some cell := here
      refine moved there ?_
      rfl
  | dropped shape => exact (shape.elim notLeaving notUnwinding).elim
  | timedOut | called | skipped | returned =>
      refine replaced ?_
      rfl
  | _ =>
      refine moved here ?_
      rfl

end Runtime

namespace ActorPool

variable {workers : Nat} [NeZero workers] {Value State Frame : Type u}

/-- The scheduler has exactly the loops that have not ended, each once, and none
of those it has not started has taken a step. -/
structure Placed (pool : ActorPool workers Value State Frame) : Prop where
  once : pool.scheduler.openTasks.Nodup
  opened :
    ∀ index,
      index ∈ pool.scheduler.openTasks ↔
        ∃ position,
          pool.runtime.loopAt index = some position ∧
            position.isEnded = false
  unstarted :
    ∀ index ∈ pool.scheduler.unstartedTasks,
      pool.runtime.loopAt index = some .queued

omit [NeZero workers] in
theorem placed_withConfig (capacity : Nat) :
    Placed (withConfig workers Value State Frame capacity) := by
  have none :
      (withConfig workers Value State Frame capacity).scheduler.openTasks =
        0 := by
    simp [withConfig, Scheduler.new, Scheduler.openTasks,
      Scheduler.unstartedTasks, Scheduler.waitingTasks, Scheduler.queuedTasks,
      Scheduler.carriedTasks, Scheduler.runningTasks, WorkerPosition.inside,
      WorkerPosition.batch]
  refine ⟨by simp [none], fun index => ?_, fun index member => ?_⟩
  · rw [none]
    simp [Runtime.loopAt, withConfig, Runtime.withConfig]
  · have isOpen :
        index ∈
          (withConfig workers Value State Frame
            capacity).scheduler.openTasks :=
      Multiset.mem_add.mpr (.inl member)
    rw [none] at isOpen
    cases isOpen

namespace Placed

variable {before after : ActorPool workers Value State Frame}

omit [NeZero workers] in
/-- A worker is inside of a loop that has not ended. -/
theorem running
    (placed : Placed before)
    {id : Fin workers}
    {index : Nat}
    (inside : before.scheduler.positions id = .running index) :
    ∃ cell,
      before.runtime.cells[index]? = some cell ∧
        cell.position.isEnded = false := by
  have member : index ∈ before.scheduler.openTasks :=
    Multiset.mem_add.mpr
      (.inr (Scheduler.mem_runningTasks.mpr ⟨id, inside⟩))
  obtain ⟨position, here, opened⟩ := (placed.opened index).mp member
  obtain ⟨cell, found, rfl⟩ := Option.map_eq_some_iff.mp here
  exact ⟨cell, found, opened⟩

omit [NeZero workers] in
/-- A loop that has started and not ended is on one worker. -/
theorem hosted
    (placed : Placed before)
    {index : Nat}
    {cell : ActorCell Value State Frame}
    (here : before.runtime.cells[index]? = some cell)
    (started : cell.position ≠ .queued)
    (opened : cell.position.isEnded = false) :
    ∃! id, before.scheduler.positions id = .running index := by
  have found : before.runtime.loopAt index = some cell.position := by
    rw [Runtime.loopAt, here]
    rfl
  have member := (placed.opened index).mpr ⟨cell.position, found, opened⟩
  obtain waits | runs := Multiset.mem_add.mp member
  · have queued := placed.unstarted index waits
    rw [found, Option.some.injEq] at queued
    exact absurd queued started
  · obtain ⟨id, inside⟩ := Scheduler.mem_runningTasks.mp runs
    exact ⟨id, inside, fun other again =>
      Scheduler.running_unique placed.once again inside⟩

omit [NeZero workers] in
/-- Steps that move no loop and give no task away. -/
theorem kept
    (placed : Placed before)
    (sameOpen : after.scheduler.openTasks = before.scheduler.openTasks)
    (fewer :
      ∀ index ∈ after.scheduler.unstartedTasks,
        index ∈ before.scheduler.unstartedTasks)
    (same :
      ∀ index, after.runtime.loopAt index = before.runtime.loopAt index) :
    Placed after where
  once := sameOpen ▸ placed.once
  opened index := by
    rw [sameOpen, same]
    exact placed.opened index
  unstarted index member := by
    rw [same]
    exact placed.unstarted index (fewer index member)

omit [NeZero workers] in
/-- A step of the runtime that spawns nothing and is no step of a loop. -/
theorem inRuntime
    (placed : Placed before)
    {label : Runtime.Label Value State Frame}
    {runtime : Runtime Value State Frame}
    {events : List (RuntimeEvent Value)}
    (step :
      (Runtime.machine Value State Frame).step? before.runtime label =
        some (runtime, events))
    (notSpawn : ∀ actor state, label ≠ .spawn actor state)
    (notLoop : ∀ index answer, label ≠ .loop index answer) :
    Placed { before with runtime := runtime } :=
  placed.kept rfl (fun _ member => member)
    fun index => Runtime.step_loopAt step notSpawn (notLoop index)

omit [NeZero workers] in
/-- A new loop is claimed for a queue. -/
theorem spawned
    (placed : Placed before)
    {actor : Actor Value State Frame}
    {state : State}
    {runtime : Runtime Value State Frame}
    {events : List (RuntimeEvent Value)}
    {queue : Fin workers}
    {next : Nat}
    (free : before.scheduler.claims = [])
    (step :
      (Runtime.machine Value State Frame).step? before.runtime
        (.spawn actor state) = some (runtime, events)) :
    Placed
      { scheduler :=
          { before.scheduler with
            nextWorker := next
            claims := [(queue, before.runtime.cells.length)] }
        runtime := runtime } := by
  have moved := Runtime.spawn_loopAt step
  have unstarted :
      Scheduler.unstartedTasks
          { before.scheduler with
            nextWorker := next
            claims := [(queue, before.runtime.cells.length)] } =
        before.runtime.cells.length ::ₘ
          Scheduler.unstartedTasks before.scheduler := by
    have noClaims :
        Scheduler.unstartedTasks before.scheduler =
          Scheduler.waitingTasks before.scheduler := by
      simp [Scheduler.unstartedTasks, free]
    rw [noClaims, ← Multiset.singleton_add]
    rfl
  have opened :
      Scheduler.openTasks
          { before.scheduler with
            nextWorker := next
            claims := [(queue, before.runtime.cells.length)] } =
        before.runtime.cells.length ::ₘ
          Scheduler.openTasks before.scheduler := by
    rw [Scheduler.openTasks, unstarted, Multiset.cons_add]
    rfl
  have fresh :
      before.runtime.loopAt before.runtime.cells.length = none := by
    simp [Runtime.loopAt]
  refine ⟨?_, fun index => ?_, fun index member => ?_⟩
  · rw [opened]
    refine Multiset.nodup_cons.mpr ⟨fun member => ?_, placed.once⟩
    obtain ⟨position, here, -⟩ := (placed.opened _).mp member
    rw [fresh] at here
    cases here
  · rw [opened, Multiset.mem_cons, moved, placed.opened]
    by_cases new : index = before.runtime.cells.length
    · simp [new, LoopPosition.isEnded]
    · simp [new]
  · rw [unstarted, Multiset.mem_cons] at member
    rw [moved]
    by_cases new : index = before.runtime.cells.length
    · rw [if_pos new]
    · rw [if_neg new]
      exact placed.unstarted index (member.resolve_left new)

omit [NeZero workers] in
/-- A step of a loop, with its worker still inside of it. -/
theorem looped
    (placed : Placed before)
    {id : Fin workers}
    {index answer : Nat}
    {cell : ActorCell Value State Frame}
    {runtime : Runtime Value State Frame}
    {events : List (RuntimeEvent Value)}
    (inside : before.scheduler.positions id = .running index)
    (here : before.runtime.cells[index]? = some cell)
    (notLeaving : cell.position ≠ .leaving)
    (notUnwinding : cell.position ≠ .unwinding)
    (step :
      before.runtime.loopStep? index answer = some (runtime, events)) :
    Placed { before with runtime := runtime } := by
  obtain ⟨same, there, effect⟩ := Runtime.loopStep_cases step
  obtain rfl : cell = same := Option.some.inj (here.symm.trans there)
  obtain ⟨position, moved, opened⟩ :=
    effect.goesOn here notLeaving notUnwinding
  have other (somebody : Nat) (different : somebody ≠ index) :
      runtime.loopAt somebody = before.runtime.loopAt somebody :=
    Runtime.loopStep_loopAt_of_ne step different
  refine ⟨placed.once, fun somebody => ?_, fun somebody member => ?_⟩
  · by_cases own : somebody = index
    · subst own
      have isOpen :=
        (placed.opened somebody).mpr
          ⟨cell.position, by rw [Runtime.loopAt, here]; rfl, effect.opened⟩
      exact ⟨fun _ => ⟨position, moved, opened⟩, fun _ => isOpen⟩
    · rw [placed.opened, other somebody own]
  · have different : somebody ≠ index := by
      rintro rfl
      exact Scheduler.not_unstarted_of_running placed.once inside member
    rw [other somebody different]
    exact placed.unstarted somebody member

omit [NeZero workers] in
/-- A loop is dropped, and its worker leaves it. -/
theorem left
    (placed : Placed before)
    {id : Fin workers}
    {index answer : Nat}
    {cell : ActorCell Value State Frame}
    {position : WorkerPosition workers Nat}
    {runtime : Runtime Value State Frame}
    {events : List (RuntimeEvent Value)}
    (inside : before.scheduler.positions id = .running index)
    (here : before.runtime.cells[index]? = some cell)
    (ending :
      cell.position = .leaving ∧ position = .checkingStop ∨
        cell.position = .unwinding ∧ position = .unwound)
    (step :
      before.runtime.loopStep? index answer = some (runtime, events)) :
    Placed
      { scheduler := before.scheduler.setPosition id position
        runtime := runtime } := by
  have outside : position.inside = [] ∧ position.batch = [] := by
    rcases ending with ⟨-, rfl⟩ | ⟨-, rfl⟩ <;> exact ⟨rfl, rfl⟩
  have dropped : runtime.loopAt index = some .ended := by
    have last :
        before.runtime.loopStep? index answer =
          some (before.runtime.modifyCell index ActorCell.drop,
            [.dropped index]) := by
      rcases ending with ⟨shape, -⟩ | ⟨shape, -⟩ <;>
        simp [Runtime.loopStep?, here, shape]
    obtain ⟨rfl, -⟩ := Prod.mk.inj (Option.some.inj (last.symm.trans step))
    rw [Runtime.loopAt, Runtime.modifyCell_here _ here]
    rfl
  have other (somebody : Nat) (different : somebody ≠ index) :
      runtime.loopAt somebody = before.runtime.loopAt somebody :=
    Runtime.loopStep_loopAt_of_ne step different
  have sameUnstarted :
      Scheduler.unstartedTasks (before.scheduler.setPosition id position) =
        Scheduler.unstartedTasks before.scheduler := by
    have waits :=
      Scheduler.waitingTasks_setPosition before.scheduler id position
    have noBatch : (before.scheduler.positions id).batch = [] := by
      rw [inside]
      rfl
    rw [noBatch, outside.2, Multiset.coe_nil, add_zero, add_zero] at waits
    rw [Scheduler.unstartedTasks, waits]
    rfl
  have opened :
      before.scheduler.openTasks =
        index ::ₘ
          Scheduler.openTasks (before.scheduler.setPosition id position) := by
    have runs :=
      Scheduler.runningTasks_setPosition before.scheduler id position
    rw [inside, outside.1, Multiset.coe_nil, add_zero] at runs
    rw [Scheduler.openTasks, ← runs, Scheduler.openTasks, sameUnstarted,
      ← Multiset.singleton_add]
    simp only [WorkerPosition.inside, Multiset.coe_singleton]
    abel
  have once := placed.once
  rw [opened, Multiset.nodup_cons] at once
  refine ⟨once.2, fun somebody => ?_, fun somebody member => ?_⟩
  · by_cases own : somebody = index
    · subst own
      simp [once.1, dropped, LoopPosition.isEnded]
    · rw [other somebody own, ← placed.opened, opened, Multiset.mem_cons]
      simp [own]
  · rw [sameUnstarted] at member
    have different : somebody ≠ index := by
      rintro rfl
      exact Scheduler.not_unstarted_of_running placed.once inside member
    rw [other somebody different]
    exact placed.unstarted somebody member

/-- Every step keeps the loops placed. -/
theorem step
    (placed : Placed before)
    {events : List (RuntimeEvent Value)}
    (effect : Effect before after events) :
    Placed after := by
  cases effect with
  | spawned actor state runtime events free step =>
      exact placed.spawned free step
  | pushed call queue task claimed =>
      have same := Scheduler.unstartedTasks_push claimed
      refine placed.kept ?_ (fun index member => ?_) fun _ => rfl
      · rw [Scheduler.openTasks, same]
        rfl
      · rw [same] at member
        exact member
  | client label runtime events client step =>
      refine placed.inRuntime step (fun actor state same => ?_)
        fun index answer same => ?_
      · subst same
        cases client
      · subst same
        cases client
  | worker id scheduler shown step =>
      refine placed.kept step.openTasks (fun index member => ?_) fun _ => rfl
      rw [← step.unstartedTasks]
      exact Multiset.mem_add.mpr (.inl member)
  | looped id index answer cell runtime events inside here notLeaving
      notUnwinding step =>
      exact placed.looped inside here notLeaving notUnwinding step
  | left id index answer cell position runtime events inside here ending
      step =>
      exact placed.left inside here ending step
  | shutdown runtime events step =>
      have moved :
          (Runtime.machine Value State Frame).step? before.runtime
            .shutdown = some (runtime, events) := step
      exact placed.inRuntime moved (by simp) (by simp)
  | stopWorkers cleared =>
      exact placed.kept rfl (fun _ member => member) fun _ => rfl

end Placed

/-- In every reachable pool the loops are placed. -/
theorem run_placed
    {capacity : Nat}
    {log : List (RuntimeEvent Value)}
    {pool : ActorPool workers Value State Frame}
    (run :
      Machine.Run (machine workers Value State Frame)
        (withConfig workers Value State Frame capacity) log pool) :
    Placed pool :=
  run.invariant Placed (fun placed step => placed.step (effect_of_step step))
    (placed_withConfig capacity)

/-- Where the scheduler has a loop, and how far the loop has come. -/
inductive Whereabouts
    (pool : ActorPool workers Value State Frame)
    (index : Nat) : Prop where
  | waiting :
      pool.scheduler.unstartedTasks.count index = 1 →
      (∀ id, pool.scheduler.positions id ≠ .running index) →
      pool.runtime.loopAt index = some .queued →
      Whereabouts pool index
  | running (id : Fin workers) (position : LoopPosition Value Frame) :
      pool.scheduler.unstartedTasks.count index = 0 →
      (∀ other,
        pool.scheduler.positions other = .running index ↔ other = id) →
      pool.runtime.loopAt index = some position →
      position.isEnded = false →
      Whereabouts pool index
  | ended :
      pool.scheduler.unstartedTasks.count index = 0 →
      (∀ id, pool.scheduler.positions id ≠ .running index) →
      pool.runtime.loopAt index = some .ended →
      Whereabouts pool index

/--
Whatever the workers steal, and whichever handlers panic: a loop has not
started and waits in one place, with its `spawn` call, in a queue or in a stolen
batch, or one worker is inside of it, or it has ended and is nowhere; and the
scheduler has no other tasks.
-/
theorem loops_placed
    {capacity : Nat}
    {log : List (RuntimeEvent Value)}
    {pool : ActorPool workers Value State Frame}
    (run :
      Machine.Run (machine workers Value State Frame)
        (withConfig workers Value State Frame capacity) log pool) :
    (∀ index, index < pool.runtime.cells.length → Whereabouts pool index) ∧
      ∀ index ∈ pool.scheduler.openTasks,
        index < pool.runtime.cells.length := by
  have placed := run_placed run
  refine ⟨fun index inside => ?_, fun index member => ?_⟩
  · have here :
        pool.runtime.loopAt index =
          some (pool.runtime.cells[index]).position := by
      rw [Runtime.loopAt, List.getElem?_eq_getElem inside]
      rfl
    by_cases waits : index ∈ pool.scheduler.unstartedTasks
    · refine .waiting ?_ (fun id running => ?_)
        (placed.unstarted index waits)
      · exact Multiset.count_eq_one_of_mem
          (Multiset.nodup_of_le (Multiset.le_add_right _ _) placed.once) waits
      · exact Scheduler.not_unstarted_of_running placed.once running waits
    · have notWaiting := Multiset.count_eq_zero_of_notMem waits
      by_cases runs : ∃ id, pool.scheduler.positions id = .running index
      · obtain ⟨id, running⟩ := runs
        obtain ⟨cell, found, opened⟩ := placed.running running
        refine .running id cell.position notWaiting (fun other => ?_)
          (by rw [Runtime.loopAt, found]; rfl) opened
        constructor
        · intro again
          exact Scheduler.running_unique placed.once again running
        · rintro rfl
          exact running
      · refine .ended notWaiting (not_exists.mp runs) ?_
        have closed : index ∉ pool.scheduler.openTasks := by
          intro member
          exact (Multiset.mem_add.mp member).elim waits
            fun running => runs (Scheduler.mem_runningTasks.mp running)
        rw [here]
        cases position : (pool.runtime.cells[index]).position with
        | ended => rfl
        | _ =>
            refine absurd ((placed.opened index).mpr ⟨_, here, ?_⟩) closed
            rw [position]
            rfl
  · obtain ⟨position, here, -⟩ := (placed.opened index).mp member
    obtain ⟨cell, found, -⟩ := Option.map_eq_some_iff.mp here
    exact (List.getElem?_eq_some_iff.mp found).1

/-- Two actors and one worker, who is inside of the first actor's loop. -/
def twoOnOneWorker (only : Fin 1) : List (Label 1 Unit Unit Unit) :=
  [.spawn Runtime.idle (), .push 0, .worker only, .worker only,
    .spawn Runtime.idle (), .push 0, .loop only 0]

theorem loops_placed_twoOnOneWorker :
    ∃ pool log,
      (machine 1 Unit Unit Unit).run? (withConfig 1 Unit Unit Unit 10)
          (twoOnOneWorker 0) = some (pool, log) ∧
        pool.runtime.loopAt 0 = some .top ∧
        pool.runtime.loopAt 1 = some .queued ∧
        Whereabouts pool 0 ∧
        Whereabouts pool 1 := by
  obtain ⟨pool, log, executed, first, second, two⟩ :
      ∃ pool log,
        (machine 1 Unit Unit Unit).run? (withConfig 1 Unit Unit Unit 10)
            (twoOnOneWorker 0) = some (pool, log) ∧
          pool.runtime.loopAt 0 = some .top ∧
          pool.runtime.loopAt 1 = some .queued ∧
          pool.runtime.cells.length = 2 :=
    ⟨_, _, rfl, rfl, rfl, rfl⟩
  have placed := loops_placed (Machine.run?_sound _ executed)
  exact ⟨pool, log, executed, first, second, placed.1 0 (by omega),
    placed.1 1 (by omega)⟩

end ActorPool

end Runact
