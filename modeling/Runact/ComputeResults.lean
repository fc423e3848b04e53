import Runact.ComputeScheduler
import Runact.CancellableJob

namespace Runact.Compute

/-!
# Results of compute tasks under cancellation

A submitted task is in the queue once, then held by one worker, and never comes
back.  Seen from one task, every run of the scheduler is therefore a run of one
cancellable job; what the handle can yield follows from the history of that job.
-/

universe u

variable {workers : Nat} {Value : Type u}

/-- The task a worker has taken and not yet answered. -/
def WorkerPosition.active? : WorkerPosition Value → Option Nat
  | .checking task => some task
  | .starting task => some task
  | .running task => some task
  | .rechecking task _ => some task
  | .sending task _ => some task
  | .checkingStop | .receiving | .releasing _ | .exited => none

/-- Every task is in the queue at most once, or with at most one worker. -/
structure Exclusive
    (queue : List Nat)
    (count : Nat)
    (active : Fin workers → Option Nat) : Prop where
  queueNodup : queue.Nodup
  queued : ∀ task ∈ queue, task < count
  submitted : ∀ id task, active id = some task → task < count
  apart : ∀ id task, active id = some task → task ∉ queue
  alone :
    ∀ id other task,
      active id = some task → active other = some task → id = other

namespace Exclusive

variable {queue : List Nat} {count : Nat} {active : Fin workers → Option Nat}

theorem empty (count : Nat) :
    Exclusive [] count (fun _ : Fin workers => none) where
  queueNodup := List.nodup_nil
  queued := by simp
  submitted := by simp
  apart := by simp
  alone := by simp

/-- A worker lets go of its task. -/
theorem release
    (exclusive : Exclusive queue count active)
    (id : Fin workers) :
    Exclusive queue count (Function.update active id none) where
  queueNodup := exclusive.queueNodup
  queued := exclusive.queued
  submitted other task held :=
    exclusive.submitted other task (by grind [Function.update_apply])
  apart other task held :=
    exclusive.apart other task (by grind [Function.update_apply])
  alone first second task firstHeld secondHeld :=
    exclusive.alone first second task
      (by grind [Function.update_apply]) (by grind [Function.update_apply])

/-- A worker takes the task at the front of the queue. -/
theorem take
    {task : Nat}
    {rest : List Nat}
    (exclusive : Exclusive (task :: rest) count active)
    (id : Fin workers) :
    Exclusive rest count (Function.update active id (some task)) where
  queueNodup := exclusive.queueNodup.of_cons
  queued other member := exclusive.queued other (.tail task member)
  submitted other held shape := by
    have bound := exclusive.queued task List.mem_cons_self
    have others := exclusive.submitted other held
    grind [Function.update_apply]
  apart other held shape := by
    have fresh := (List.nodup_cons.mp exclusive.queueNodup).1
    have others := exclusive.apart other held
    grind [Function.update_apply]
  alone first second held firstHeld secondHeld := by
    have fresh (worker : Fin workers) (same : active worker = some task) :
        False := exclusive.apart worker task same List.mem_cons_self
    have others := exclusive.alone first second held
    grind [Function.update_apply]

/-- A new task enters the queue. -/
theorem submit
    (exclusive : Exclusive queue count active) :
    Exclusive (queue ++ [count]) (count + 1) active where
  queueNodup := by
    have fresh : count ∉ queue := fun member =>
      Nat.lt_irrefl count (exclusive.queued count member)
    simpa [List.nodup_append, exclusive.queueNodup] using
      fun task member => (ne_of_mem_of_not_mem member fresh)
  queued task member := by
    have bound := exclusive.queued task
    grind
  submitted id task held :=
    Nat.lt_succ_of_lt (exclusive.submitted id task held)
  apart id task held := by
    have bound := exclusive.submitted id task held
    have others := exclusive.apart id task held
    grind
  alone := exclusive.alone

/-- The queue is discarded. -/
theorem discard
    (exclusive : Exclusive queue count active) :
    Exclusive [] count active where
  queueNodup := List.nodup_nil
  queued := by simp
  submitted := exclusive.submitted
  apart := by simp
  alone := exclusive.alone

end Exclusive

namespace ComputeScheduler

/-- The task each worker has taken and not yet answered. -/
def active
    (scheduler : ComputeScheduler workers Value) : Fin workers → Option Nat :=
  fun id => (scheduler.positions id).active?

/-- Every submitted task is queued once, or with one worker, or done with. -/
def OneHolder (scheduler : ComputeScheduler workers Value) : Prop :=
  Exclusive scheduler.queue scheduler.tasks.length scheduler.active

/-- A way to read off the task of a worker: the task it works on, and none when
it goes around; of a task it has answered it may read either. -/
structure Reads (view : WorkerPosition Value → Option Nat) : Prop where
  working :
    ∀ {position task}, position.active? = some task →
      view position = some task
  answered :
    ∀ task, view (.releasing task) = some task ∨ view (.releasing task) = none
  free :
    view .checkingStop = none ∧ view .receiving = none ∧ view .exited = none

theorem reads_active :
    Reads (WorkerPosition.active? : WorkerPosition Value → Option Nat) where
  working active := active
  answered _ := .inr rfl
  free := ⟨rfl, rfl, rfl⟩

/-- Every submitted task is queued once, or read off one worker, or neither. -/
def HeldOnce
    (view : WorkerPosition Value → Option Nat)
    (scheduler : ComputeScheduler workers Value) : Prop :=
  Exclusive scheduler.queue scheduler.tasks.length
    fun id => view (scheduler.positions id)

theorem OneHolder.heldOnce
    {scheduler : ComputeScheduler workers Value}
    (holder : scheduler.OneHolder) :
    scheduler.HeldOnce WorkerPosition.active? :=
  holder

theorem view_setPosition
    (view : WorkerPosition Value → Option Nat)
    (scheduler : ComputeScheduler workers Value)
    (id : Fin workers)
    (position : WorkerPosition Value) :
    (fun other => view ((scheduler.setPosition id position).positions other)) =
      Function.update (fun other => view (scheduler.positions other)) id
        (view position) := by
  funext other
  by_cases same : other = id
  · subst same
    simp [setPosition]
  · simp [setPosition, same]

@[simp]
theorem modifyTask_length
    (scheduler : ComputeScheduler workers Value)
    (task : Nat)
    (change : TaskCell Value → TaskCell Value) :
    (scheduler.modifyTask task change).tasks.length =
      scheduler.tasks.length := by
  simp [modifyTask]

@[simp]
theorem modifyTask_positions
    (scheduler : ComputeScheduler workers Value)
    (task : Nat)
    (change : TaskCell Value → TaskCell Value) :
    (scheduler.modifyTask task change).positions = scheduler.positions :=
  rfl

section HeldOnce

variable {view : WorkerPosition Value → Option Nat}
  {scheduler : ComputeScheduler workers Value}

/-- A worker that goes on with its task, or lets go of it. -/
theorem HeldOnce.setPosition
    (held : scheduler.HeldOnce view)
    {id : Fin workers}
    {position : WorkerPosition Value}
    (goesOn :
      view position = view (scheduler.positions id) ∨
        view position = none) :
    (scheduler.setPosition id position).HeldOnce view := by
  unfold HeldOnce
  rw [view_setPosition]
  rcases goesOn with same | none
  · have unchanged :
        Function.update (fun other => view (scheduler.positions other)) id
            (view position) =
          fun other => view (scheduler.positions other) := by
      rw [same]
      exact Function.update_eq_self id fun other =>
        view (scheduler.positions other)
    rw [unchanged]
    exact held
  · rw [none]
    exact Exclusive.release held id

theorem HeldOnce.modifyTask
    (held : scheduler.HeldOnce view)
    (task : Nat)
    (change : TaskCell Value → TaskCell Value) :
    (scheduler.modifyTask task change).HeldOnce view := by
  unfold HeldOnce
  rw [modifyTask_length]
  exact held

/-- Leaving the loop keeps the queue, or discards it. -/
theorem exit_cases
    (scheduler : ComputeScheduler workers Value)
    (id : Fin workers) :
    scheduler.exit id = scheduler.setPosition id .exited ∨
      scheduler.exit id =
        { scheduler.setPosition id .exited with queue := [] } := by
  unfold exit
  dsimp only
  split
  · exact .inr rfl
  · exact .inl rfl

theorem HeldOnce.exit
    (reads : Reads view)
    (held : scheduler.HeldOnce view)
    (id : Fin workers) :
    (scheduler.exit id).HeldOnce view := by
  have left : (scheduler.setPosition id .exited).HeldOnce view :=
    held.setPosition (.inr reads.free.2.2)
  rcases exit_cases scheduler id with shape | shape
  · rw [shape]
    exact left
  · rw [shape]
    exact Exclusive.discard left

/-- Every step leaves each task in at most one place. -/
theorem HeldOnce.step
    {after : ComputeScheduler workers Value}
    {events : List (Event Value)}
    (reads : Reads view)
    (held : scheduler.HeldOnce view)
    (effect : Effect scheduler after events) :
    after.HeldOnce view := by
  cases effect with
  | around _ events queue positions tasks shown =>
      unfold HeldOnce
      rw [queue, positions, tasks]
      exact held
  | submitted resultType =>
      have submitted := Exclusive.submit held
      unfold HeldOnce
      rw [List.length_append]
      exact submitted
  | cancelled task cell there => exact held.modifyTask task _
  | received task cell result method answer there shape answered =>
      exact held.modifyTask task _
  | unanswered task type met method answer nothing answered => exact held
  | handleDropped task => exact held.modifyTask task _
  | taken id task rest position queue =>
      unfold HeldOnce at held
      rw [queue] at held
      have moved := held.take id
      unfold HeldOnce
      rw [view_setPosition, reads.working rfl]
      exact moved
  | looped id position idle loops =>
      refine held.setPosition (.inr ?_)
      rcases loops with rfl | rfl
      · exact reads.free.1
      · exact reads.free.2.1
  | skipped id task position flag | passed id task position flag
  | started id task position
  | ended id task cell outcome position there
  | discarded id task outcome position flag
  | kept id task outcome position flag =>
      refine held.setPosition (.inl ?_)
      rw [position, reads.working rfl, reads.working rfl]
  | sent id task cell result position there =>
      have working : view (.sending task result) = some task :=
        reads.working rfl
      refine (held.modifyTask task _).setPosition ?_
      rw [modifyTask_positions, position, working]
      exact reads.answered task
  | unsent id task result position =>
      have working : view (.sending task result) = some task :=
        reads.working rfl
      refine held.setPosition ?_
      rw [position, working]
      exact reads.answered task
  | exited id idle => exact held.exit reads id

end HeldOnce

/-- A worker that goes on with its task, or lets go of it. -/
theorem OneHolder.setPosition
    {scheduler : ComputeScheduler workers Value}
    (holder : scheduler.OneHolder)
    {id : Fin workers}
    {position : WorkerPosition Value}
    (goesOn :
      position.active? = (scheduler.positions id).active? ∨
        position.active? = none) :
    (scheduler.setPosition id position).OneHolder :=
  holder.heldOnce.setPosition goesOn

theorem OneHolder.modifyTask
    {scheduler : ComputeScheduler workers Value}
    (holder : scheduler.OneHolder)
    (task : Nat)
    (change : TaskCell Value → TaskCell Value) :
    (scheduler.modifyTask task change).OneHolder :=
  holder.heldOnce.modifyTask task change

theorem OneHolder.step
    {before after : ComputeScheduler workers Value}
    {events : List (Event Value)}
    (holder : before.OneHolder)
    (effect : Effect before after events) :
    after.OneHolder :=
  holder.heldOnce.step reads_active effect

/-! ## One task of the scheduler, seen as a job -/

/-- The phase of the task a worker holds. -/
abbrev JobPhase (Value : Type u) :=
  CancellableJob.Phase (JobOutcome Value) (ComputeResult Value)

/-- The state of one task, as a job. -/
abbrev JobState (Value : Type u) :=
  CancellableJob.State (JobOutcome Value) (ComputeResult Value)

/-- How far the worker has got with its task. -/
def jobPhase : WorkerPosition Value → JobPhase Value
  | .checking _ => .checking
  | .starting _ => .starting
  | .running _ => .running
  | .rechecking _ outcome => .rechecking outcome
  | .sending _ result => .sending result
  | .checkingStop | .receiving | .releasing _ | .exited => .finished

/-- How far a worker has got with one task, if it holds it. -/
def phaseWith (task : Nat) (position : WorkerPosition Value) :
    Option (JobPhase Value) :=
  if position.active? = some task then some (jobPhase position) else none

/-- Where a task stands. -/
def phaseOf
    (scheduler : ComputeScheduler workers Value)
    (task : Nat) : JobPhase Value :=
  if scheduler.tasks.length ≤ task then
    .absent
  else if task ∈ scheduler.queue then
    .queued
  else
    ((List.finRange workers).findSome? fun id =>
      phaseWith task (scheduler.positions id)).getD .finished

/-- One task of the scheduler, with its cancellation flag. -/
def jobOf
    (task : Nat)
    (scheduler : ComputeScheduler workers Value) : JobState Value where
  phase := scheduler.phaseOf task
  cancelled := scheduler.isCancelled task

/-- The machine of one compute task. -/
abbrev jobMachine (Value : Type u) :=
  CancellableJob.machine
    (computeResult : JobOutcome Value → ComputeResult Value)
    ComputeResult.cancelled

/-- What an event shows of one task. -/
def observe
    (task : Nat) :
    Event Value →
      List (CancellableJob.Event (JobOutcome Value) (ComputeResult Value))
  | .submitted other => if other = task then [.submitted] else []
  | .cancelCalled other => if other = task then [.cancelCalled] else []
  | .taken other => if other = task then [.taken] else []
  | .checked other => if other = task then [.checked] else []
  | .started other => if other = task then [.started] else []
  | .ended other outcome => if other = task then [.ended outcome] else []
  | .rechecked other => if other = task then [.rechecked] else []
  | .sent other result => if other = task then [.sent result] else []
  | .refused _ | .unwrapPanicked | .received .. | .answered .. => []

/-- A task in the hands of a worker stands where that worker stands. -/
theorem phaseOf_active
    {scheduler : ComputeScheduler workers Value}
    (holder : scheduler.OneHolder)
    (id : Fin workers)
    {task : Nat}
    (held : (scheduler.positions id).active? = some task) :
    scheduler.phaseOf task = jobPhase (scheduler.positions id) := by
  have bound := holder.submitted id task held
  have unqueued := holder.apart id task held
  have here :
      phaseWith task (scheduler.positions id) =
        some (jobPhase (scheduler.positions id)) := by
    simp [phaseWith, held]
  unfold phaseOf
  rw [if_neg (Nat.not_le.mpr bound), if_neg unqueued]
  cases found :
      (List.finRange workers).findSome? fun id =>
        phaseWith task (scheduler.positions id) with
  | none =>
      have nobody := List.findSome?_eq_none_iff.mp found id (List.mem_finRange id)
      simp [here] at nobody
  | some phase =>
      obtain ⟨other, -, there⟩ := List.exists_of_findSome?_eq_some found
      have otherHolds :
          (scheduler.positions other).active? = some task := by
        by_contra other
        simp [phaseWith, other] at there
      obtain rfl := holder.alone id other task held otherHolds
      rw [here] at there
      simpa using there.symm

/-- A submitted task that is nowhere is finished. -/
theorem phaseOf_finished
    {scheduler : ComputeScheduler workers Value}
    {task : Nat}
    (submitted : task < scheduler.tasks.length)
    (unqueued : task ∉ scheduler.queue)
    (nobody : ∀ id, (scheduler.positions id).active? ≠ some task) :
    scheduler.phaseOf task = .finished := by
  have missing :
      ((List.finRange workers).findSome? fun id =>
        phaseWith task (scheduler.positions id)) = none := by
    rw [List.findSome?_eq_none_iff]
    intro id member
    simp [phaseWith, nobody id]
  unfold phaseOf
  rw [if_neg (Nat.not_le.mpr submitted), if_neg unqueued, missing]
  rfl

/-- The phase of a task depends on the queue and the workers that hold it. -/
theorem phaseOf_congr
    {before after : ComputeScheduler workers Value}
    {task : Nat}
    (length : after.tasks.length = before.tasks.length)
    (queue : task ∈ after.queue ↔ task ∈ before.queue)
    (positions :
      ∀ id,
        phaseWith task (after.positions id) =
          phaseWith task (before.positions id)) :
    after.phaseOf task = before.phaseOf task := by
  unfold phaseOf
  simp only [length, queue, positions]

/-- A worker that moves without touching a task leaves it where it is. -/
theorem jobOf_setPosition_of_ne
    {scheduler : ComputeScheduler workers Value}
    {id : Fin workers}
    {position : WorkerPosition Value}
    {task : Nat}
    (old : (scheduler.positions id).active? ≠ some task)
    (new : position.active? ≠ some task) :
    jobOf task (scheduler.setPosition id position) = jobOf task scheduler := by
  have phase :
      (scheduler.setPosition id position).phaseOf task =
        scheduler.phaseOf task := by
    refine phaseOf_congr rfl Iff.rfl fun other => ?_
    by_cases same : other = id
    · subst same
      simp [setPosition, phaseWith, old, new]
    · simp [setPosition, same]
  unfold jobOf
  rw [phase]
  rfl

/-- What a task shares with its handle does not move the task. -/
theorem jobOf_modifyTask
    (scheduler : ComputeScheduler workers Value)
    (changed task : Nat)
    (change : TaskCell Value → TaskCell Value)
    (flag : ∀ cell, (change cell).cancelled = cell.cancelled) :
    jobOf task (scheduler.modifyTask changed change) =
      jobOf task scheduler := by
  have phase :
      (scheduler.modifyTask changed change).phaseOf task =
        scheduler.phaseOf task :=
    phaseOf_congr (modifyTask_length scheduler changed change)
      Iff.rfl fun other => rfl
  have cancelled :
      (scheduler.modifyTask changed change).isCancelled task =
        scheduler.isCancelled task := by
    simp only [isCancelled, modifyTask, List.getElem?_modify]
    cases scheduler.tasks[task]? with
    | none => rfl
    | some cell => by_cases same : changed = task <;> simp [same, flag]
  unfold jobOf
  rw [phase, cancelled]

theorem jobPhase_idle
    {position : WorkerPosition Value}
    (idle : position.active? = none) :
    jobPhase position = .finished := by
  cases position with
  | checkingStop | receiving | releasing task | exited => rfl
  | checking task | starting task | running task | rechecking task outcome
  | sending task result => cases idle

/-- Where a task stands after its worker has moved on. -/
theorem phaseOf_setPosition
    {scheduler : ComputeScheduler workers Value}
    (holder : scheduler.OneHolder)
    {id : Fin workers}
    {position : WorkerPosition Value}
    {task : Nat}
    (held : (scheduler.positions id).active? = some task)
    (goesOn : position.active? = some task ∨ position.active? = none) :
    (scheduler.setPosition id position).phaseOf task = jobPhase position := by
  rcases goesOn with same | idle
  · have kept : (scheduler.setPosition id position).OneHolder :=
      holder.setPosition (.inl (same.trans held.symm))
    have stands := phaseOf_active kept id (by simpa [setPosition] using same)
    simpa [setPosition] using stands
  · rw [jobPhase_idle idle]
    refine phaseOf_finished (holder.submitted id task held)
      (holder.apart id task held) fun other => ?_
    by_cases same : other = id
    · subst same
      simp [setPosition, idle]
    · have alone := holder.alone id other task held
      have others : (scheduler.positions other).active? ≠ some task :=
        fun otherHolds => same (alone otherHolds).symm
      simpa [setPosition, same] using others

/-- A worker's move with its task is one step of that job, and of no other. -/
theorem job_moved
    {scheduler : ComputeScheduler workers Value}
    (holder : scheduler.OneHolder)
    {id : Fin workers}
    {position : WorkerPosition Value}
    {events : List (Event Value)}
    (task : Nat)
    (label : CancellableJob.Label (JobOutcome Value))
    (held : (scheduler.positions id).active? = some task)
    (goesOn : position.active? = some task ∨ position.active? = none)
    (elsewhere :
      ∀ other, task ≠ other → events.flatMap (observe other) = [])
    (step :
      (jobMachine Value).step?
          ⟨jobPhase (scheduler.positions id), scheduler.isCancelled task⟩
          label =
        some (⟨jobPhase position, scheduler.isCancelled task⟩,
          events.flatMap (observe task)))
    (watched : Nat) :
    Machine.Run (jobMachine Value) (jobOf watched scheduler)
      (events.flatMap (observe watched))
      (jobOf watched (scheduler.setPosition id position)) := by
  by_cases same : task = watched
  · subst same
    have before :
        jobOf task scheduler =
          ⟨jobPhase (scheduler.positions id),
            scheduler.isCancelled task⟩ := by
      unfold jobOf
      rw [phaseOf_active holder id held]
    have after :
        jobOf task (scheduler.setPosition id position) =
          ⟨jobPhase position, scheduler.isCancelled task⟩ := by
      unfold jobOf
      rw [phaseOf_setPosition holder held goesOn]
      rfl
    rw [before, after]
    exact .single label step
  · have oldOther : (scheduler.positions id).active? ≠ some watched := by
      simpa [held] using same
    have newOther : position.active? ≠ some watched := by
      rcases goesOn with goesOn | goesOn <;> simp [goesOn, same]
    rw [jobOf_setPosition_of_ne oldOther newOther, elsewhere watched same]
    exact .nil

/-- A worker between two tasks moves no job. -/
theorem job_unmoved
    {scheduler : ComputeScheduler workers Value}
    {id : Fin workers}
    {position : WorkerPosition Value}
    (old : (scheduler.positions id).active? = none)
    (new : position.active? = none)
    (watched : Nat) :
    jobOf watched (scheduler.setPosition id position) =
      jobOf watched scheduler :=
  jobOf_setPosition_of_ne (by simp [old]) (by simp [new])

/-- A new task is absent before its submission, and queued after it. -/
theorem job_submitted
    (scheduler : ComputeScheduler workers Value)
    (resultType : TypeId)
    (watched : Nat) :
    Machine.Run (jobMachine Value) (jobOf watched scheduler)
      ([Event.submitted scheduler.tasks.length].flatMap (observe watched))
      (jobOf watched
        { scheduler with
          queue := scheduler.queue ++ [scheduler.tasks.length]
          tasks := scheduler.tasks ++ [.new resultType] }) := by
  by_cases same : scheduler.tasks.length = watched
  · subst same
    refine .single .next ?_
    simp [jobOf, phaseOf, isCancelled, TaskCell.new, observe,
      CancellableJob.machine, CancellableJob.step?]
  · have phase :
        phaseOf
          { scheduler with
            queue := scheduler.queue ++ [scheduler.tasks.length]
            tasks := scheduler.tasks ++ [.new resultType] } watched =
          scheduler.phaseOf watched := by
      have length :
          scheduler.tasks.length + 1 ≤ watched ↔
            scheduler.tasks.length ≤ watched := by
        omega
      simp [phaseOf, Ne.symm same, length]
    have flag :
        (scheduler.tasks ++ [.new resultType])[watched]?.any (·.cancelled) =
          scheduler.tasks[watched]?.any (·.cancelled) := by
      rcases Nat.lt_or_gt_of_ne same with beyond | within
      · simp [beyond, Nat.not_lt_of_gt]
      · simp [List.getElem?_append, within]
    unfold jobOf isCancelled
    rw [phase, flag]
    simpa [observe, same] using Machine.Run.nil

/-- The worker that takes the front task moves that job, and no other. -/
theorem job_taken
    {scheduler : ComputeScheduler workers Value}
    (holder : scheduler.OneHolder)
    {id : Fin workers}
    {task : Nat}
    {rest : List Nat}
    (position : scheduler.positions id = .receiving)
    (queue : scheduler.queue = task :: rest)
    (watched : Nat) :
    Machine.Run (jobMachine Value) (jobOf watched scheduler)
      ([Event.taken task].flatMap (observe watched))
      (jobOf watched
        ({ scheduler with queue := rest }.setPosition
          id (.checking task))) := by
  have front : task ∈ scheduler.queue := by simp [queue]
  have submitted := holder.queued task front
  by_cases same : task = watched
  · subst same
    have kept :
        ({ scheduler with queue := rest }.setPosition
          id (.checking task)).OneHolder :=
      holder.step (.taken id task rest position queue)
    have before :
        jobOf task scheduler = ⟨.queued, scheduler.isCancelled task⟩ := by
      simp [jobOf, phaseOf, front, Nat.not_le.mpr submitted]
    have after :
        jobOf task
            ({ scheduler with queue := rest }.setPosition
              id (.checking task)) =
          ⟨.checking, scheduler.isCancelled task⟩ := by
      have held :
          (({ scheduler with queue := rest }.setPosition
            id (.checking task)).positions id).active? = some task := by
        simp [setPosition, WorkerPosition.active?]
      have stands := phaseOf_active kept id held
      unfold jobOf
      rw [stands]
      simp [setPosition, jobPhase, isCancelled]
    rw [before, after]
    refine .single .next ?_
    simp [observe, CancellableJob.machine, CancellableJob.step?]
  · have unqueued :
        jobOf watched { scheduler with queue := rest } =
          jobOf watched scheduler := by
      unfold jobOf
      congr 1
      refine phaseOf_congr rfl ?_ fun id => rfl
      simp [queue, Ne.symm same]
    have unmoved :
        jobOf watched
            ({ scheduler with queue := rest }.setPosition
              id (.checking task)) =
          jobOf watched { scheduler with queue := rest } :=
      jobOf_setPosition_of_ne (by simp [position, WorkerPosition.active?])
        (by simpa [WorkerPosition.active?] using same)
    rw [unmoved, unqueued]
    simpa [observe, same] using Machine.Run.nil

/-- A worker that ends may take the queued jobs with it. -/
theorem job_exited
    {scheduler : ComputeScheduler workers Value}
    (holder : scheduler.OneHolder)
    {id : Fin workers}
    (idle : (scheduler.positions id).active? = none)
    (watched : Nat) :
    Machine.Run (jobMachine Value) (jobOf watched scheduler) []
      (jobOf watched (scheduler.exit id)) := by
  have unmoved :
      jobOf watched (scheduler.setPosition id .exited) =
        jobOf watched scheduler :=
    job_unmoved idle rfl watched
  rcases exit_cases scheduler id with shape | shape
  · rw [shape, unmoved]
    exact .nil
  · rw [shape, ← unmoved]
    have left : (scheduler.setPosition id .exited).OneHolder :=
      holder.setPosition (.inr rfl)
    generalize scheduler.setPosition id .exited = after at left
    by_cases queued : watched ∈ after.queue
    · have submitted := left.queued watched queued
      have lost :
          phaseOf { after with queue := [] } watched = .finished := by
        refine phaseOf_finished submitted List.not_mem_nil fun other held => ?_
        exact left.apart other watched held queued
      refine .single .lose ?_
      unfold jobOf
      rw [lost]
      simp [phaseOf, queued, Nat.not_le.mpr submitted, isCancelled,
        CancellableJob.machine, CancellableJob.step?]
    · have same :
          phaseOf { after with queue := [] } watched =
            after.phaseOf watched :=
        phaseOf_congr rfl (by simp [queued]) fun other => rfl
      unfold jobOf
      rw [same]
      exact .nil

/-- `cancel` raises the flag of one job, and of no other. -/
theorem job_cancelled
    {scheduler : ComputeScheduler workers Value}
    {task : Nat}
    {cell : TaskCell Value}
    (there : scheduler.tasks[task]? = some cell)
    (watched : Nat) :
    Machine.Run (jobMachine Value) (jobOf watched scheduler)
      ([Event.cancelCalled task].flatMap (observe watched))
      (jobOf watched
        (scheduler.modifyTask task fun cell =>
          { cell with cancelled := true })) := by
  have phase :
      (scheduler.modifyTask task fun cell =>
          { cell with cancelled := true }).phaseOf watched =
        scheduler.phaseOf watched :=
    phaseOf_congr (modifyTask_length scheduler task _)
      Iff.rfl fun other => rfl
  by_cases same : task = watched
  · subst same
    have submitted : scheduler.phaseOf task ≠ .absent := by
      have bound := (List.getElem?_eq_some_iff.mp there).1
      unfold phaseOf
      rw [if_neg (Nat.not_le.mpr bound)]
      split
      · simp
      · cases found :
            (List.finRange workers).findSome? fun id =>
              phaseWith task (scheduler.positions id) with
        | none => simp
        | some phase =>
            obtain ⟨id, -, held⟩ := List.exists_of_findSome?_eq_some found
            unfold phaseWith at held
            split at held
            · cases held
              cases scheduler.positions id <;> simp [jobPhase]
            · cases held
    have raised :
        jobOf task (scheduler.modifyTask task fun cell =>
            { cell with cancelled := true }) =
          ⟨scheduler.phaseOf task, true⟩ := by
      unfold jobOf
      rw [phase]
      simp [isCancelled, modifyTask, there]
    have shown :
        [(Event.cancelCalled task : Event Value)].flatMap (observe task) =
          [.cancelCalled] := by
      simp [observe]
    rw [raised, shown]
    exact .single .cancel
      (CancellableJob.step_cancel submitted (scheduler.isCancelled task))
  · have flag :
        (scheduler.modifyTask task fun cell =>
            { cell with cancelled := true }).isCancelled watched =
          scheduler.isCancelled watched := by
      simp [isCancelled, modifyTask, same]
    unfold jobOf
    rw [phase, flag]
    simpa [observe, same] using Machine.Run.nil

/-- Every step of the scheduler is a run of the job it is watched through. -/
theorem job_matched
    {before after : ComputeScheduler workers Value}
    {events : List (Event Value)}
    (holder : before.OneHolder)
    (effect : Effect before after events)
    (watched : Nat) :
    Machine.Run (jobMachine Value) (jobOf watched before)
      (events.flatMap (observe watched)) (jobOf watched after) := by
  cases effect with
  | around _ events queue positions tasks shown =>
      have same : jobOf watched after = jobOf watched before := by
        simp [jobOf, phaseOf, isCancelled, queue, positions, tasks]
      have silent : events.flatMap (observe watched) = [] := by
        rw [List.flatMap_eq_nil_iff]
        intro event member
        rcases shown event member with rfl | rfl <;> rfl
      rw [same, silent]
      exact .nil
  | submitted resultType => exact job_submitted before resultType watched
  | cancelled task cell there => exact job_cancelled there watched
  | received task cell result method answer there held answered =>
      have same := jobOf_modifyTask before task watched
        (fun cell => { cell with result := none }) fun cell => rfl
      rw [same]
      exact .nil
  | unanswered task type met method answer nothing answered => exact .nil
  | handleDropped task =>
      have same := jobOf_modifyTask before task watched
        (fun cell => { cell with result := none, handleDropped := true })
        fun cell => rfl
      rw [same]
      exact .nil
  | taken id task rest position queue =>
      exact job_taken holder position queue watched
  | looped id position idle loops =>
      have old : (before.positions id).active? = none := by
        rcases idle with here | here | ⟨task, here⟩ <;> rw [here] <;> rfl
      have new : position.active? = none := by
        rcases loops with rfl | rfl <;> rfl
      rw [job_unmoved old new watched]
      exact .nil
  | skipped id task position flag
  | passed id task position flag
  | discarded id task outcome position flag
  | kept id task outcome position flag =>
      refine job_moved holder task .next ?_ (.inl rfl) ?_ ?_ watched
      · rw [position]
        rfl
      · simp +contextual [observe]
      · simp [position, flag, jobPhase, observe,
          CancellableJob.machine, CancellableJob.step?]
  | started id task position =>
      refine job_moved holder task .next ?_ (.inl rfl) ?_ ?_ watched
      · rw [position]
        rfl
      · simp +contextual [observe]
      · simp [position, jobPhase, observe,
          CancellableJob.machine, CancellableJob.step?]
  | ended id task cell outcome position there =>
      refine job_moved holder task
        (.finish (outcome.map fun value => ⟨cell.resultType, value⟩))
        ?_ (.inl rfl) ?_ ?_ watched
      · rw [position]
        rfl
      · simp +contextual [observe]
      · simp [position, jobPhase, observe,
          CancellableJob.machine, CancellableJob.step?]
  | sent id task cell result position there =>
      have same := jobOf_modifyTask before task watched
        (fun cell => { cell with result := some result }) fun cell => rfl
      rw [← same]
      refine job_moved (holder.modifyTask task _) task .next
        ?_ (.inr rfl) ?_ ?_ watched
      · rw [modifyTask_positions, position]
        rfl
      · simp +contextual [observe]
      · simp [position, jobPhase, observe,
          CancellableJob.machine, CancellableJob.step?]
  | unsent id task result position =>
      refine job_moved holder task .lose ?_ (.inr rfl) ?_ ?_ watched
      · rw [position]
        rfl
      · simp
      · simp [position, jobPhase,
          CancellableJob.machine, CancellableJob.step?]
  | exited id idle =>
      refine job_exited holder ?_ watched
      rcases idle with here | here | ⟨task, here⟩ <;> rw [here] <;> rfl

/-- The scheduler refines one cancellable job for every task. -/
def jobSimulation (workers : Nat) (Value : Type u) (watched : Nat) :
    Machine.Simulation (machine workers Value) (jobMachine Value) where
  view := jobOf watched
  observe := observe watched
  good := OneHolder
  preserved holder step := holder.step (effect_of_step step)
  matched holder step := job_matched holder (effect_of_step step) watched

theorem oneHolder_new : (new workers Value).OneHolder :=
  Exclusive.empty 0

/-- Before any submission every task is an absent job. -/
theorem jobOf_new (task : Nat) :
    jobOf task (new workers Value) = CancellableJob.initial := by
  simp [jobOf, phaseOf, isCancelled, new, CancellableJob.initial]

/-- What the log of a run tells about one task. -/
theorem job_told
    {log : List (Event Value)}
    {final : ComputeScheduler workers Value}
    (run : Machine.Run (machine workers Value) (new workers Value) log final)
    (task : Nat) :
    CancellableJob.Told computeResult ComputeResult.cancelled
      (log.flatMap (observe task)) (jobOf task final) := by
  have observed :=
    (jobSimulation workers Value task).run run oneHolder_new
  refine CancellableJob.told ?_
  rw [← jobOf_new task]
  exact observed

/-- The event of the scheduler behind an event of one job. -/
def raise
    (task : Nat) :
    CancellableJob.Event (JobOutcome Value) (ComputeResult Value) →
      Event Value
  | .submitted => .submitted task
  | .cancelCalled => .cancelCalled task
  | .taken => .taken task
  | .checked => .checked task
  | .started => .started task
  | .ended outcome => .ended task outcome
  | .rechecked => .rechecked task
  | .sent result => .sent task result

theorem mem_observe
    {task : Nat}
    {seen : CancellableJob.Event (JobOutcome Value) (ComputeResult Value)}
    {event : Event Value} :
    seen ∈ observe task event ↔ event = raise task seen := by
  cases seen <;> cases event <;> simp [observe, raise] <;> grind

/-- An event of one job is in the log when the scheduler's event is. -/
theorem mem_observed
    {task : Nat}
    {seen : CancellableJob.Event (JobOutcome Value) (ComputeResult Value)}
    {log : List (Event Value)} :
    seen ∈ log.flatMap (observe task) ↔ raise task seen ∈ log := by
  simp [List.mem_flatMap, mem_observe]

/-- The order of two events of one job is their order in the log. -/
theorem precedes_observed
    {task : Nat}
    {first second :
      CancellableJob.Event (JobOutcome Value) (ComputeResult Value)}
    {log : List (Event Value)}
    (precedes : Precedes (raise task first) (raise task second) log) :
    Precedes first second (log.flatMap (observe task)) := by
  refine precedes.flatMap ?_ fun event seen => mem_observe.mp seen
  cases first <;> simp [raise, observe]

/-! ## What a handle yields -/

/-- The task is started. -/
def isStart (task : Nat) : Event Value → Bool
  | .started other => other == task
  | _ => false

/-- The task's handle is sent a result. -/
def isSend (task : Nat) : Event Value → Bool
  | .sent other _ => other == task
  | _ => false

theorem countP_started
    (task : Nat)
    (log : List (Event Value)) :
    (log.flatMap (observe task)).countP CancellableJob.Event.isStarted =
      log.countP (isStart task) := by
  induction log with
  | nil => rfl
  | cons event rest inductionHypothesis =>
      rw [List.flatMap_cons, List.countP_append, inductionHypothesis,
        List.countP_cons, Nat.add_comm]
      congr 1
      cases event <;>
        simp [observe, isStart, apply_ite, CancellableJob.Event.isStarted]

theorem countP_sent
    (task : Nat)
    (log : List (Event Value)) :
    (log.flatMap (observe task)).countP CancellableJob.Event.isSent =
      log.countP (isSend task) := by
  induction log with
  | nil => rfl
  | cons event rest inductionHypothesis =>
      rw [List.flatMap_cons, List.countP_append, inductionHypothesis,
        List.countP_cons, Nat.add_comm]
      congr 1
      cases event <;>
        simp [observe, isSend, apply_ite, CancellableJob.Event.isSent]

/-- A handle yields a value only out of a value of its own type. -/
theorem mapResult_ok
    {type : TypeId}
    {result : ComputeResult Value}
    {v : Value}
    (yielded : ComputeHandle.mapResult type result = .ok v) :
    result = .ok ⟨type, v⟩ := by
  cases result with
  | ok box =>
      unfold ComputeHandle.mapResult AnyBox.downcast at yielded
      by_cases fits : box.typeId = type
      · simp only [fits, ↓reduceIte, Except.ok.injEq] at yielded
        subst fits
        subst yielded
        rfl
      · simp [fits] at yielded
  | err error | panic message | timeout | cancelled => cases yielded

/-- A method that answers a value has received it. -/
theorem answer_ok
    {type : TypeId}
    {method : ReceiveMethod}
    {met : Received Value}
    {v : Value}
    (answered : method.answer type met = some (some (.ok v))) :
    met = .result (.ok ⟨type, v⟩) := by
  cases method <;> cases met with
  | result result =>
      simp only [ReceiveMethod.answer, ComputeHandle.tryRecv,
        ComputeHandle.recv, ComputeHandle.recvTimeout, Option.map_some,
        Option.some.injEq] at answered
      rw [mapResult_ok answered]
  | empty | disconnected => cases answered

/-- Tasks stay, with the type of their results. -/
def KeepsTypes
    (before after : ComputeScheduler workers Value) : Prop :=
  ∀ (task : Nat) (cell : TaskCell Value),
    before.tasks[task]? = some cell →
    ∃ kept : TaskCell Value,
      after.tasks[task]? = some kept ∧ kept.resultType = cell.resultType

theorem keepsTypes_modifyTask
    (scheduler : ComputeScheduler workers Value)
    (task : Nat)
    (change : TaskCell Value → TaskCell Value)
    (type : ∀ cell, (change cell).resultType = cell.resultType) :
    KeepsTypes scheduler (scheduler.modifyTask task change) := by
  intro other cell there
  simp only [modifyTask, List.getElem?_modify, there]
  by_cases same : task = other <;> simp [same, type]

theorem keepsTypes_of_eq
    {before after : ComputeScheduler workers Value}
    (same : after.tasks = before.tasks) :
    KeepsTypes before after := by
  intro task cell there
  exact ⟨cell, by rw [same]; exact there, rfl⟩

theorem exit_tasks
    (scheduler : ComputeScheduler workers Value)
    (id : Fin workers) :
    (scheduler.exit id).tasks = scheduler.tasks := by
  rcases exit_cases scheduler id with shape | shape <;> rw [shape] <;> rfl

/-- No step takes a task away or changes its type. -/
theorem Effect.keepsTypes
    {before after : ComputeScheduler workers Value}
    {events : List (Event Value)}
    (effect : Effect before after events) :
    KeepsTypes before after := by
  cases effect with
  | around _ events queue positions tasks shown =>
      exact keepsTypes_of_eq tasks
  | submitted resultType =>
      intro task cell there
      have bound := (List.getElem?_eq_some_iff.mp there).1
      exact ⟨cell, by simpa [List.getElem?_append, bound] using there, rfl⟩
  | cancelled task cell there =>
      exact keepsTypes_modifyTask before task _ fun cell => rfl
  | received task cell result method answer there held answered =>
      exact keepsTypes_modifyTask before task _ fun cell => rfl
  | handleDropped task =>
      exact keepsTypes_modifyTask before task _ fun cell => rfl
  | sent id task cell result position there =>
      exact keepsTypes_modifyTask before task
        (fun cell => { cell with result := some result }) fun cell => rfl
  | exited id idle => exact keepsTypes_of_eq (exit_tasks before id)
  | _ => exact keepsTypes_of_eq rfl

/-- How results reach the handles. -/
structure Delivers
    (log : List (Event Value))
    (scheduler : ComputeScheduler workers Value) : Prop where
  buffered :
    ∀ task cell result,
      scheduler.tasks[task]? = some cell →
      cell.result = some result →
      .sent task result ∈ log
  received :
    ∀ task result, .received task result ∈ log → .sent task result ∈ log
  /-- A job returns a value of the type its handle has. -/
  typed :
    ∀ task value,
      .ended task (.ok value) ∈ log →
      ∃ cell,
        scheduler.tasks[task]? = some cell ∧
          value.typeId = cell.resultType
  yielded :
    ∀ task v,
      .answered task (some (.ok v)) ∈ log →
      ∃ type, .received task (.ok ⟨type, v⟩) ∈ log

theorem delivers_new : Delivers [] (new workers Value) where
  buffered := by simp [new]
  received := by simp
  typed := by simp
  yielded := by simp

/-- Only a sent result enters a result channel. -/
theorem Delivers.buffered_step
    {log events : List (Event Value)}
    {before after : ComputeScheduler workers Value}
    (delivers : Delivers log before)
    (effect : Effect before after events)
    {task : Nat}
    {cell : TaskCell Value}
    {result : ComputeResult Value}
    (there : after.tasks[task]? = some cell)
    (held : cell.result = some result) :
    .sent task result ∈ log ++ events := by
  have buffered := delivers.buffered task
  have modified
      {changed : Nat}
      {change : TaskCell Value → TaskCell Value}
      (shape : (before.modifyTask changed change).tasks[task]? = some cell) :
      ∃ old,
        before.tasks[task]? = some old ∧
          (cell = old ∨ changed = task ∧ cell = change old) := by
    simp only [modifyTask, List.getElem?_modify,
      Option.map_eq_map, Option.map_eq_some_iff] at shape
    obtain ⟨old, oldThere, shape⟩ := shape
    refine ⟨old, oldThere, ?_⟩
    by_cases same : changed = task
    · exact .inr ⟨same, by simpa [same] using shape.symm⟩
    · exact .inl (by simpa [same] using shape.symm)
  cases effect with
  | around _ events queue positions tasks shown =>
      rw [tasks] at there
      exact List.mem_append_left _ (buffered cell result there held)
  | submitted resultType =>
      rw [List.getElem?_append] at there
      split at there
      · exact List.mem_append_left _ (buffered cell result there held)
      · have fresh := List.mem_of_getElem? there
        rw [List.mem_singleton.mp fresh] at held
        cases held
  | cancelled changed old oldThere =>
      obtain ⟨old, oldThere, rfl | ⟨rfl, rfl⟩⟩ := modified there
      · exact List.mem_append_left _ (buffered cell result oldThere held)
      · exact List.mem_append_left _ (buffered old result oldThere held)
  | received changed old oldResult method answer oldThere oldHeld answered =>
      obtain ⟨old, oldThere, rfl | ⟨rfl, rfl⟩⟩ := modified there
      · exact List.mem_append_left _ (buffered cell result oldThere held)
      · cases held
  | handleDropped changed =>
      obtain ⟨old, oldThere, rfl | ⟨rfl, rfl⟩⟩ := modified there
      · exact List.mem_append_left _ (buffered cell result oldThere held)
      · cases held
  | sent id changed old new position oldThere =>
      obtain ⟨old, oldThere, rfl | ⟨rfl, rfl⟩⟩ := modified there
      · exact List.mem_append_left _ (buffered cell result oldThere held)
      · cases held
        exact List.mem_append_right _ (List.mem_singleton_self _)
  | exited id idle =>
      rw [exit_tasks] at there
      exact List.mem_append_left _ (buffered cell result there held)
  | _ => exact List.mem_append_left _ (buffered cell result there held)

/-- A handle takes out of its channel what is in it. -/
theorem Effect.received_held
    {before after : ComputeScheduler workers Value}
    {events : List (Event Value)}
    (effect : Effect before after events)
    {task : Nat}
    {result : ComputeResult Value}
    (shown : .received task result ∈ events) :
    ∃ cell,
      before.tasks[task]? = some cell ∧ cell.result = some result := by
  cases effect with
  | around _ events queue positions tasks silent =>
      rcases silent _ shown with same | same <;> cases same
  | received taken cell held method answer there shape answered =>
      simp only [List.mem_cons, List.not_mem_nil, or_false,
        Event.received.injEq, reduceCtorEq] at shown
      obtain ⟨rfl, rfl⟩ := shown
      exact ⟨cell, there, shape⟩
  | _ => simp at shown

/-- A job returns at the type of its handle. -/
theorem Effect.ended_typed
    {before after : ComputeScheduler workers Value}
    {events : List (Event Value)}
    (effect : Effect before after events)
    {task : Nat}
    {value : AnyBox Value}
    (shown : .ended task (.ok value) ∈ events) :
    ∃ cell,
      after.tasks[task]? = some cell ∧ value.typeId = cell.resultType := by
  cases effect with
  | around _ events queue positions tasks silent =>
      rcases silent _ shown with same | same <;> cases same
  | ended id running cell outcome position there =>
      simp only [List.mem_singleton, Event.ended.injEq] at shown
      obtain ⟨rfl, boxed⟩ := shown
      cases outcome with
      | error panic => cases boxed
      | ok v =>
          cases boxed
          exact ⟨cell, there, rfl⟩
  | _ => simp at shown

/-- A handle that yields a value has received it, in the same call. -/
theorem Effect.yielded_received
    {before after : ComputeScheduler workers Value}
    {events : List (Event Value)}
    (effect : Effect before after events)
    {task : Nat}
    {v : Value}
    (shown : .answered task (some (.ok v)) ∈ events) :
    ∃ type, .received task (.ok ⟨type, v⟩) ∈ events := by
  cases effect with
  | around _ events queue positions tasks silent =>
      rcases silent _ shown with same | same <;> cases same
  | received taken cell result method answer there held answered =>
      simp only [List.mem_cons, List.not_mem_nil, or_false,
        Event.answered.injEq, reduceCtorEq, false_or] at shown
      obtain ⟨rfl, rfl⟩ := shown
      cases answer_ok answered
      exact ⟨cell.resultType, List.mem_cons_self⟩
  | unanswered asked type met method answer nothing answered =>
      simp only [List.mem_singleton, Event.answered.injEq] at shown
      obtain ⟨rfl, rfl⟩ := shown
      exact absurd (answer_ok answered) (nothing _)
  | _ => simp at shown

/-- Every step keeps how results reach the handles. -/
theorem Delivers.step
    {log events : List (Event Value)}
    {before after : ComputeScheduler workers Value}
    (delivers : Delivers log before)
    (effect : Effect before after events) :
    Delivers (log ++ events) after where
  buffered _ _ _ there held := delivers.buffered_step effect there held
  received task result occurs := by
    rcases List.mem_append.mp occurs with earlier | shown
    · exact List.mem_append_left _ (delivers.received task result earlier)
    · obtain ⟨cell, there, held⟩ := effect.received_held shown
      exact List.mem_append_left _
        (delivers.buffered task cell result there held)
  typed task value occurs := by
    rcases List.mem_append.mp occurs with earlier | shown
    · obtain ⟨cell, there, type⟩ := delivers.typed task value earlier
      obtain ⟨kept, keptThere, same⟩ := effect.keepsTypes task cell there
      exact ⟨kept, keptThere, type.trans same.symm⟩
    · exact effect.ended_typed shown
  yielded task v occurs := by
    rcases List.mem_append.mp occurs with earlier | shown
    · obtain ⟨type, received⟩ := delivers.yielded task v earlier
      exact ⟨type, List.mem_append_left _ received⟩
    · obtain ⟨type, received⟩ := effect.yielded_received shown
      exact ⟨type, List.mem_append_right _ received⟩

/-- In every run results reach the handles they were sent to. -/
theorem delivers_run
    {log : List (Event Value)}
    {final : ComputeScheduler workers Value}
    (run :
      Machine.Run (machine workers Value) (new workers Value) log final) :
    Delivers log final :=
  run.history Delivers
    (fun earlier step => earlier.step (effect_of_step step))
    delivers_new

/-- What is right about the result of one task. -/
structure ResultRight
    (log : List (Event Value))
    (scheduler : ComputeScheduler workers Value)
    (task : Nat) : Prop where
  runsOnce : log.countP (isStart task) ≤ 1
  sentOnce : log.countP (isSend task) ≤ 1
  /-- A cancel before the first check: the job never runs. -/
  cancelledBeforeRun :
    Precedes (.cancelCalled task) (.checked task) log →
    .started task ∉ log
  /-- A cancel before the second check: the handle never yields `Ok`. -/
  cancelledBeforeResult :
    Precedes (.cancelCalled task) (.rechecked task) log →
    ∀ v, .answered task (some (.ok v)) ∉ log
  /-- A yielded value was returned by the job, which has run. -/
  yielded :
    ∀ v,
      .answered task (some (.ok v)) ∈ log →
      .started task ∈ log ∧
        ∃ type, .ended task (.ok ⟨type, v⟩) ∈ log
  /-- The `Type mismatch` branch of `map_result` is never taken. -/
  typesMatch :
    ∀ value,
      .received task (.ok value) ∈ log →
      ∃ cell,
        scheduler.tasks[task]? = some cell ∧
          ComputeHandle.mapResult cell.resultType (.ok value) =
            .ok value.value
  panicked :
    ∀ message,
      .sent task (.panic message) ∈ log →
      ∃ payload : PanicPayload,
        .ended task (.error payload) ∈ log ∧ payload.message = message
  /-- No `Cancelled` is sent with no `cancel` before it. -/
  cancelled :
    ¬ Precedes (.sent task .cancelled) (.cancelCalled task) log

/-- What is sent tells of a cancellation, or of the end of the job. -/
theorem sent_cases
    {log : List (Event Value)}
    {final : ComputeScheduler workers Value}
    (run :
      Machine.Run (machine workers Value) (new workers Value) log final)
    {task : Nat}
    {result : ComputeResult Value}
    (sent : .sent task result ∈ log) :
    result = .cancelled ∧ .cancelCalled task ∈ log ∨
      ∃ outcome,
        result = computeResult outcome ∧ .ended task outcome ∈ log := by
  have told := job_told run task
  rcases told.reported _ (.inr (mem_observed.mpr sent)) with
    ⟨cancelled, called⟩ | ⟨-, outcome, shape, ended⟩
  · exact .inl ⟨cancelled, mem_observed.mp called⟩
  · exact .inr ⟨outcome, shape, mem_observed.mp ended⟩

/-- A value reaches the handle only from the job that returned it. -/
theorem sent_ok
    {log : List (Event Value)}
    {final : ComputeScheduler workers Value}
    (run :
      Machine.Run (machine workers Value) (new workers Value) log final)
    {task : Nat}
    {value : AnyBox Value}
    (sent : .sent task (.ok value) ∈ log) :
    .ended task (.ok value) ∈ log ∧ .started task ∈ log := by
  have told := job_told run task
  obtain ⟨cancelled, -⟩ | ⟨outcome, shape, ended⟩ := sent_cases run sent
  · cases cancelled
  · cases outcome with
    | error panic => cases shape
    | ok returned =>
        cases shape
        exact ⟨ended,
          mem_observed.mp (told.ran (.inr ⟨_, mem_observed.mpr ended⟩))⟩

/-- A panic reaches the handle only from the job that panicked. -/
theorem sent_panic
    {log : List (Event Value)}
    {final : ComputeScheduler workers Value}
    (run :
      Machine.Run (machine workers Value) (new workers Value) log final)
    {task : Nat}
    {message : String}
    (sent : .sent task (.panic message) ∈ log) :
    ∃ payload : PanicPayload,
      .ended task (.error payload) ∈ log ∧ payload.message = message := by
  obtain ⟨cancelled, -⟩ | ⟨outcome, shape, ended⟩ := sent_cases run sent
  · cases cancelled
  · cases outcome with
    | ok returned => cases shape
    | error payload =>
        cases shape
        exact ⟨payload, ended, rfl⟩

/--
Whatever the number of workers and tasks, and wherever the cancels land: the
results of every task are right.
-/
theorem compute_results_right
    {log : List (Event Value)}
    {final : ComputeScheduler workers Value}
    (run :
      Machine.Run (machine workers Value) (new workers Value) log final)
    (task : Nat) :
    ResultRight log final task := by
  have told := job_told run task
  have delivers := delivers_run run
  have sentOk
      {v : Value}
      (answered : .answered task (some (.ok v)) ∈ log) :
      ∃ type, .sent task (.ok ⟨type, v⟩) ∈ log := by
    obtain ⟨type, received⟩ := delivers.yielded task v answered
    exact ⟨type, delivers.received task _ received⟩
  constructor
  case runsOnce =>
    rw [← countP_started]
    exact told.startedOnce
  case sentOnce =>
    rw [← countP_sent]
    exact told.sentOnce
  case cancelledBeforeRun =>
    intro precedes started
    have unstarted := told.cancelledUnstarted (precedes_observed precedes)
    exact unstarted.2 (mem_observed.mpr started)
  case cancelledBeforeResult =>
    intro precedes v answered
    obtain ⟨type, sent⟩ := sentOk answered
    have only := told.cancelledResultOnly (precedes_observed precedes)
      _ (.inr (mem_observed.mpr sent))
    cases only
  case yielded =>
    intro v answered
    obtain ⟨type, sent⟩ := sentOk answered
    obtain ⟨ended, started⟩ := sent_ok run sent
    exact ⟨started, type, ended⟩
  case typesMatch =>
    intro value received
    have ended := (sent_ok run (delivers.received task _ received)).1
    obtain ⟨cell, there, type⟩ := delivers.typed task value ended
    refine ⟨cell, there, ?_⟩
    simp [ComputeHandle.mapResult, AnyBox.downcast, type]
  case panicked =>
    exact fun message sent => sent_panic run sent
  case cancelled =>
    intro early
    obtain ⟨outcome, shape⟩ := told.sentEarly _ (precedes_observed early)
    cases outcome <;> cases shape

/--
Three workers, one of them idle, and three tasks: one cancelled in the queue,
one cancelled while it runs, and one that returns 42 to its handle.
-/
def cancelRaces : List (Label 3 Nat) :=
  [.spawn 0, .spawn 0, .spawn 7, .cancel 0,
    .worker 0, .worker 0, .worker 0, .worker 0, .worker 0,
    .worker 0, .worker 0, .worker 0, .worker 0,
    .worker 1, .worker 1, .worker 1, .worker 1,
    .jobEnds 1 (.ok 42), .cancel 1, .jobEnds 0 (.ok 5),
    .worker 0, .worker 0, .worker 1, .worker 1,
    .receive 0 .tryRecv, .receive 1 .recv, .receive 2 .recvTimeout]

theorem compute_results_right_cancelRaces :
    ∃ final log,
      (machine 3 Nat).run? (new 3 Nat) cancelRaces = some (final, log) ∧
        log.countP (isStart 0) = 0 ∧
        log.countP (isStart 1) = 1 ∧
        log.drop (log.length - 6) =
          [.received 0 .cancelled,
            .answered 0 (some (.error (.workerPanic "Task cancelled"))),
            .received 1 .cancelled,
            .answered 1 (some (.error (.workerPanic "Task cancelled"))),
            .received 2 (.ok ⟨7, 42⟩), .answered 2 (some (.ok 42))] ∧
        ∀ task, ResultRight log final task := by
  obtain ⟨final, log, executed, notStarted, started, answers⟩ :
      ∃ final log,
        (machine 3 Nat).run? (new 3 Nat) cancelRaces = some (final, log) ∧
          log.countP (isStart 0) = 0 ∧
          log.countP (isStart 1) = 1 ∧
          log.drop (log.length - 6) =
            [.received 0 .cancelled,
              .answered 0 (some (.error (.workerPanic "Task cancelled"))),
              .received 1 .cancelled,
              .answered 1 (some (.error (.workerPanic "Task cancelled"))),
              .received 2 (.ok ⟨7, 42⟩), .answered 2 (some (.ok 42))] :=
    ⟨_, _, rfl, rfl, rfl, rfl⟩
  exact ⟨final, log, executed, notStarted, started, answers,
    fun task => compute_results_right (Machine.run?_sound _ executed) task⟩

end ComputeScheduler

end Runact.Compute
