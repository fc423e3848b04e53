import Runact.Progress
import Runact.ComputeLifecycle

namespace Runact.Compute

/-!
# Shutdown of the compute scheduler ends

`ComputeScheduler::shutdown` joins its workers.  A worker may be inside a job, in
`recv_timeout` or in `result_sender.send` when the flag is set.  None of them is
stuck there: the result channel of a task that is still to be answered is empty,
so the one `send` for it never waits.  Jobs that are still queued when the last
worker leaves are discarded, and their handles told.
-/

universe u

variable {workers : Nat} {Value : Type u}

namespace WorkerPosition

/-- How far a worker is from its next load of the stop flag, in steps of the
loop. -/
def rank : WorkerPosition Value → Nat
  | .receiving => 8
  | .checking _ => 7
  | .starting _ => 6
  | .running _ => 5
  | .rechecking _ _ => 4
  | .sending _ _ => 3
  | .releasing _ => 2
  | .checkingStop => 1
  | .exited => 0

/-- Past the load of the stop flag and before the call of a job: one, else
zero. -/
def mayStart : WorkerPosition Value → Nat
  | .receiving => 1
  | .checking _ => 1
  | .starting _ => 1
  | _ => 0

theorem mayStart_le_one (position : WorkerPosition Value) :
    position.mayStart ≤ 1 := by
  cases position <;> simp [mayStart]

end WorkerPosition

namespace ComputeScheduler

/-- A worker called a job. -/
def Event.callsJob : Event Value → Bool
  | .started _ => true
  | _ => false

/-- The step is one of the worker's thread, inside a job or outside. -/
def Label.isOf (id : Fin workers) : Label workers Value → Bool
  | .worker own => own == id
  | .timeout own => own == id
  | .jobEnds own _ => own == id
  | .dropPanics own => own == id
  | _ => false

/-- A worker goes on to receive, or comes closer to its next load of the stop
flag and pays for a job it calls by having been before the call. -/
def Onward
    (before : ComputeScheduler workers Value)
    (id : Fin workers)
    (position : WorkerPosition Value)
    (events : List (Event Value)) : Prop :=
  (before.stop = false ∧
      before.positions id = .checkingStop ∧ position = .receiving) ∨
    (position.rank < (before.positions id).rank ∧
      events.countP Event.callsJob + position.mayStart ≤
        (before.positions id).mayStart)

/-- What a step does to the threads: nothing, or it moves one of them. -/
inductive Moves
    (before : ComputeScheduler workers Value)
    (label : Label workers Value)
    (after : ComputeScheduler workers Value)
    (events : List (Event Value)) : Prop where
  | none :
      (∀ id, label.isOf id = false) →
      after.positions = before.positions →
      events.countP Event.callsJob = 0 →
      Moves before label after events
  | thread (id : Fin workers) (position : WorkerPosition Value) :
      (∀ other, label.isOf other = (id == other)) →
      after.positions = Function.update before.positions id position →
      Onward before id position events →
      Moves before label after events

/-- With the stop flag set no worker goes on to receive. -/
theorem Onward.pays
    {before : ComputeScheduler workers Value}
    {id : Fin workers}
    {position : WorkerPosition Value}
    {events : List (Event Value)}
    (onward : Onward before id position events)
    (stop : before.stop = true) :
    position.rank < (before.positions id).rank ∧
      events.countP Event.callsJob + position.mayStart ≤
        (before.positions id).mayStart := by
  apply onward.resolve_left
  rintro ⟨running, -⟩
  rw [stop] at running
  cases running

theorem exit_positions
    (scheduler : ComputeScheduler workers Value)
    (id : Fin workers) :
    (scheduler.exit id).positions =
      Function.update scheduler.positions id .exited := by
  rcases exit_cases scheduler id with shape | shape <;>
    rw [shape] <;> rfl

theorem exit_stop
    (scheduler : ComputeScheduler workers Value)
    (id : Fin workers) :
    (scheduler.exit id).stop = scheduler.stop := by
  rcases exit_cases scheduler id with shape | shape <;>
    rw [shape] <;> rfl

theorem submit_moves
    {before after : ComputeScheduler workers Value}
    {resultType : TypeId}
    {events : List (Event Value)}
    (submitted : before.submit resultType = (after, events)) :
    after.positions = before.positions ∧
      after.stop = before.stop ∧
      events.countP Event.callsJob = 0 := by
  unfold submit at submitted
  split at submitted <;> cases submitted <;>
    simp [Event.callsJob]

theorem workerStep_moves
    {before after : ComputeScheduler workers Value}
    {id : Fin workers}
    {events : List (Event Value)}
    (step : before.workerStep? id = some (after, events)) :
    after.stop = before.stop ∧
      ∃ position,
        after.positions = Function.update before.positions id position ∧
          Onward before id position events := by
  unfold workerStep? at step
  split at step
  case h_1 here =>
      split at step <;> cases step
      · exact ⟨exit_stop before id, .exited, exit_positions before id,
          .inr (by simp [here, WorkerPosition.rank, WorkerPosition.mayStart])⟩
      · rename_i running
        exact ⟨rfl, .receiving, rfl,
          .inl ⟨Bool.eq_false_iff.mpr running, here, rfl⟩⟩
  case h_2 here =>
      split at step
      · rename_i task rest queue
        cases step
        exact ⟨rfl, .checking task, rfl, .inr (by
          simp [here, WorkerPosition.rank, WorkerPosition.mayStart,
            Event.callsJob])⟩
      · split at step <;> cases step
        exact ⟨exit_stop before id, .exited, exit_positions before id,
          .inr (by simp [here, WorkerPosition.rank, WorkerPosition.mayStart])⟩
  case h_3 task here =>
      split at step <;> cases step
      · exact ⟨rfl, _, rfl, .inr (by
          simp [here, WorkerPosition.rank, WorkerPosition.mayStart,
            Event.callsJob])⟩
      · exact ⟨rfl, _, rfl, .inr (by
          simp [here, WorkerPosition.rank, WorkerPosition.mayStart,
            Event.callsJob])⟩
  case h_4 task here =>
      cases step
      exact ⟨rfl, _, rfl, .inr (by
        simp [here, WorkerPosition.rank, WorkerPosition.mayStart,
          Event.callsJob])⟩
  case h_5 => cases step
  case h_6 task outcome here =>
      split at step <;> cases step
      · exact ⟨rfl, _, rfl, .inr (by
          simp [here, WorkerPosition.rank, WorkerPosition.mayStart,
            Event.callsJob])⟩
      · exact ⟨rfl, _, rfl, .inr (by
          simp [here, WorkerPosition.rank, WorkerPosition.mayStart,
            Event.callsJob])⟩
  case h_7 task result here =>
      unfold sendResult? at step
      split at step
      · cases step
      · split at step
        · cases step
          exact ⟨rfl, _, rfl, .inr (by
            simp [here, WorkerPosition.rank, WorkerPosition.mayStart])⟩
        · split at step <;> cases step
          exact ⟨rfl, _, rfl, .inr (by
            simp [here, WorkerPosition.rank, WorkerPosition.mayStart,
              Event.callsJob])⟩
  case h_8 task here =>
      cases step
      exact ⟨rfl, _, rfl, .inr (by
        simp [here, WorkerPosition.rank, WorkerPosition.mayStart])⟩
  case h_9 => cases step

/-- Every step moves one thread or none, and never takes back the stop flag. -/
theorem step_moves
    {before after : ComputeScheduler workers Value}
    {label : Label workers Value}
    {events : List (Event Value)}
    (step :
      (machine workers Value).step? before label = some (after, events)) :
    Moves before label after events ∧
      (before.stop = true → after.stop = true) := by
  have nobody
      (notOf : ∀ id, label.isOf id = false)
      (same :
        after.positions = before.positions ∧
          (before.stop = true → after.stop = true) ∧
          events.countP Event.callsJob = 0) :
      Moves before label after events ∧
        (before.stop = true → after.stop = true) :=
    ⟨.none notOf same.1 same.2.2, same.2.1⟩
  cases label with
  | worker id =>
      obtain ⟨stop, position, moved, onward⟩ := workerStep_moves step
      exact ⟨.thread id position (fun other => rfl) moved onward,
        fun stopping => stop.trans stopping⟩
  | timeout id =>
      simp only [machine] at step
      split at step
      case h_1 here =>
        split at step <;> cases step
        exact ⟨.thread id _ (fun other => rfl) rfl (.inr (by
          simp [here, WorkerPosition.rank, WorkerPosition.mayStart])),
          fun stopping => stopping⟩
      case h_2 => cases step
  | jobEnds id outcome =>
      simp only [machine] at step
      split at step
      case h_1 task here =>
        split at step <;> cases step
        exact ⟨.thread id _ (fun other => rfl) rfl (.inr (by
          simp [here, WorkerPosition.rank, WorkerPosition.mayStart,
            Event.callsJob])), fun stopping => stopping⟩
      case h_2 => cases step
  | dropPanics id =>
      simp only [machine] at step
      split at step
      case h_1 task here =>
        cases step
        exact ⟨.thread id .exited (fun other => rfl)
            (exit_positions before id) (.inr (by
              simp [here, WorkerPosition.rank, WorkerPosition.mayStart])),
          fun stopping => (exit_stop before id).trans stopping⟩
      case h_2 => cases step
  | spawn resultType =>
      apply nobody fun id => rfl
      simp only [machine] at step
      split at step
      · split at step
        · obtain ⟨positions, stop, silent⟩ :=
            submit_moves (Option.some.inj step)
          exact ⟨positions, fun stopping => stop.trans stopping, silent⟩
        · cases step
          simp [Event.callsJob]
      · cases step
  | spawnCompute resultType hasSender =>
      apply nobody fun id => rfl
      simp only [machine] at step
      split at step
      · split at step
        · obtain ⟨positions, stop, silent⟩ :=
            submit_moves (Option.some.inj step)
          exact ⟨positions, fun stopping => stop.trans stopping, silent⟩
        · cases step
      · cases step
        simp [Event.callsJob]
  | cancel task =>
      apply nobody fun id => rfl
      simp only [machine] at step
      split at step
      · split at step <;> cases step
        simp [modifyTask, Event.callsJob]
      · cases step
  | receive task method =>
      apply nobody fun id => rfl
      simp only [machine] at step
      split at step
      · split at step
        · cases step
        · unfold receive? at step
          split at step <;>
            simp only [Option.map_eq_some_iff, Prod.mk.injEq] at step <;>
            obtain ⟨answer, answered, rfl, rfl⟩ := step <;>
            simp [modifyTask, Event.callsJob]
      · cases step
  | dropHandle task =>
      apply nobody fun id => rfl
      cases step
      simp [modifyTask]
  | cloneSender | dropSender | setStop | takeSender | joined
  | dropScheduler =>
      apply nobody fun id => rfl
      simp only [machine] at step
      split at step <;> cases step
      simp

/-- No step moves a thread it is not a step of. -/
theorem Moves.unmoved
    {before after : ComputeScheduler workers Value}
    {label : Label workers Value}
    {events : List (Event Value)}
    {id : Fin workers}
    (moves : Moves before label after events)
    (other : label.isOf id = false) :
    after.positions id = before.positions id := by
  cases moves with
  | none notOf same => rw [same]
  | thread moving position owner moved onward =>
      have different : id ≠ moving := by
        rintro rfl
        rw [owner id, beq_self_eq_true] at other
        cases other
      rw [moved, Function.update_of_ne different]

/-- A step of a thread moves that thread onward. -/
theorem Moves.own
    {before after : ComputeScheduler workers Value}
    {label : Label workers Value}
    {events : List (Event Value)}
    {id : Fin workers}
    (moves : Moves before label after events)
    (own : label.isOf id = true) :
    Onward before id (after.positions id) events := by
  cases moves with
  | none notOf same =>
      rw [notOf id] at own
      cases own
  | thread moving position owner moved onward =>
      obtain rfl : moving = id := by
        rw [owner id] at own
        exact eq_of_beq own
      rw [moved, Function.update_self]
      exact onward

/-! ## No worker waits for its handle -/

/-- The task is queued, or a worker works on it. -/
def Waits
    (scheduler : ComputeScheduler workers Value)
    (task : Nat) : Prop :=
  task ∈ scheduler.queue ∨
    ∃ id, (scheduler.positions id).active? = some task

/-- The result channels of the tasks that are still to be answered are empty. -/
def Unanswered (scheduler : ComputeScheduler workers Value) : Prop :=
  ∀ task,
    scheduler.Waits task →
    ∃ cell, scheduler.tasks[task]? = some cell ∧ cell.result = none

section Unanswered

variable {before after : ComputeScheduler workers Value}

/-- Fewer tasks wait, and no result channel of theirs is filled. -/
theorem Unanswered.of_fewer
    (unanswered : before.Unanswered)
    (fewer : ∀ task, after.Waits task → before.Waits task)
    (kept :
      ∀ task cell,
        after.Waits task →
        before.tasks[task]? = some cell →
        cell.result = none →
        ∃ same, after.tasks[task]? = some same ∧ same.result = none) :
    after.Unanswered := by
  intro task waits
  obtain ⟨cell, there, empty⟩ := unanswered task (fewer task waits)
  exact kept task cell waits there empty

/-- Who waits after a worker has moved. -/
theorem waits_setPosition
    {task : Nat}
    {id : Fin workers}
    {position : WorkerPosition Value}
    (waits : (before.setPosition id position).Waits task) :
    before.Waits task ∨ position.active? = some task := by
  rcases waits with queued | ⟨other, active⟩
  · exact .inl (.inl queued)
  · by_cases same : other = id
    · subst same
      simp only [setPosition, Function.update_self] at active
      exact .inr active
    · simp only [setPosition, Function.update_of_ne same] at active
      exact .inl (.inr ⟨other, active⟩)

/-- A worker goes on with its task, or lets go of it. -/
theorem Unanswered.setPosition
    (unanswered : before.Unanswered)
    {id : Fin workers}
    {position : WorkerPosition Value}
    (goesOn :
      position.active? = (before.positions id).active? ∨
        position.active? = none) :
    (before.setPosition id position).Unanswered := by
  apply unanswered.of_fewer
  · intro task waits
    rcases waits_setPosition waits with earlier | active
    · exact earlier
    · rcases goesOn with same | none
      · exact .inr ⟨id, same.symm.trans active⟩
      · rw [none] at active
        cases active
  · exact fun task cell waits there empty => ⟨cell, there, empty⟩

/-- A change of one task's cell that does not fill its channel. -/
theorem Unanswered.modifyTask
    (unanswered : before.Unanswered)
    (task : Nat)
    {change : TaskCell Value → TaskCell Value}
    (keepsEmpty :
      ∀ cell, cell.result = none → (change cell).result = none) :
    (before.modifyTask task change).Unanswered := by
  apply unanswered.of_fewer
  · exact fun other waits => waits
  · intro other cell waits there empty
    by_cases same : task = other
    · subst same
      exact ⟨change cell, by simp [ComputeScheduler.modifyTask, there],
        keepsEmpty cell empty⟩
    · exact ⟨cell, by simp [ComputeScheduler.modifyTask, there, same], empty⟩

/-- Every step keeps the channels of unanswered tasks empty. -/
theorem Unanswered.step
    {events : List (Event Value)}
    (unanswered : before.Unanswered)
    (holder : before.OneHolder)
    (effect : Effect before after events) :
    after.Unanswered := by
  cases effect with
  | around _ events queue positions tasks shown =>
      unfold Unanswered Waits
      rw [queue, positions, tasks]
      exact unanswered
  | submitted resultType =>
      intro task waits
      have submitted :
          before.Waits task ∨ task = before.tasks.length := by
        rcases waits with queued | active
        · rcases List.mem_append.mp queued with older | newest
          · exact .inl (.inl older)
          · exact .inr (List.mem_singleton.mp newest)
        · exact .inl (.inr active)
      rcases submitted with older | rfl
      · obtain ⟨cell, there, empty⟩ := unanswered task older
        have bound := (List.getElem?_eq_some_iff.mp there).1
        exact ⟨cell, by simpa [List.getElem?_append_left bound], empty⟩
      · exact ⟨.new resultType, by simp, rfl⟩
  | cancelled task cell there =>
      exact unanswered.modifyTask task fun cell empty => empty
  | received task cell result method answer there held answered =>
      exact unanswered.modifyTask task fun cell empty => rfl
  | unanswered task type met method answer nothing answered =>
      exact unanswered
  | handleDropped task =>
      exact unanswered.modifyTask task fun cell empty => rfl
  | taken id first rest here queue =>
      apply unanswered.of_fewer
      · intro task waits
        rcases waits_setPosition waits with earlier | active
        · rcases earlier with queued | worked
          · exact .inl (queue ▸ List.mem_cons_of_mem first queued)
          · exact .inr worked
        · obtain rfl : first = task := Option.some.inj active
          exact .inl (queue ▸ List.mem_cons_self)
      · exact fun task cell waits there empty => ⟨cell, there, empty⟩
  | looped id position idle loops =>
      apply unanswered.setPosition
      rcases loops with rfl | rfl <;> exact .inr rfl
  | skipped id task here flag | passed id task here flag
  | started id task here | ended id task cell outcome here there
  | discarded id task outcome here flag | kept id task outcome here flag =>
      apply unanswered.setPosition
      rw [here]
      exact .inl rfl
  | sent id task cell result here there =>
      have working : (before.positions id).active? = some task := by
        rw [here]
        rfl
      -- the answered task waits no longer, and the others are untouched
      have different
          (other : Nat)
          (waits :
            ((before.modifyTask task fun cell =>
                { cell with result := some result }).setPosition
              id (.releasing task)).Waits other) :
          before.Waits other ∧ task ≠ other := by
        rcases waits with queued | ⟨worker, active⟩
        · refine ⟨.inl queued, ?_⟩
          rintro rfl
          exact holder.apart id task working queued
        · by_cases same : worker = id
          · subst same
            simp [ComputeScheduler.setPosition, WorkerPosition.active?]
              at active
          · simp only [ComputeScheduler.setPosition,
              Function.update_of_ne same, modifyTask_positions] at active
            refine ⟨.inr ⟨worker, active⟩, ?_⟩
            rintro rfl
            exact same (holder.alone worker id task active working)
      apply unanswered.of_fewer
      · exact fun other waits => (different other waits).1
      · intro other cell waits there empty
        refine ⟨cell, ?_, empty⟩
        simp [ComputeScheduler.setPosition, ComputeScheduler.modifyTask,
          (different other waits).2, there]
  | unsent id task result here => exact unanswered.setPosition (.inr rfl)
  | exited id idle =>
      have left : (before.setPosition id .exited).Unanswered :=
        unanswered.setPosition (.inr rfl)
      rcases exit_cases before id with shape | shape
      · rw [shape]
        exact left
      · rw [shape]
        apply left.of_fewer
        · rintro task (queued | active)
          · cases queued
          · exact .inr active
        · exact fun task cell waits there empty => ⟨cell, there, empty⟩

end Unanswered

/-- The stop flag is set, and every task is held once and still answerable. -/
structure Stopping (scheduler : ComputeScheduler workers Value) : Prop where
  stop : scheduler.stop = true
  oneHolder : scheduler.OneHolder
  unanswered : scheduler.Unanswered

theorem Stopping.step
    {before after : ComputeScheduler workers Value}
    {label : Label workers Value}
    {events : List (Event Value)}
    (stopping : before.Stopping)
    (step :
      (machine workers Value).step? before label = some (after, events)) :
    after.Stopping where
  stop := (step_moves step).2 stopping.stop
  oneHolder := stopping.oneHolder.step (effect_of_step step)
  unanswered :=
    stopping.unanswered.step stopping.oneHolder (effect_of_step step)

/-- A reachable scheduler whose stop flag is set. -/
theorem stopping_of_run
    {log : List (Event Value)}
    {scheduler : ComputeScheduler workers Value}
    (run :
      Machine.Run (machine workers Value) (new workers Value) log scheduler)
    (stop : scheduler.stop = true) :
    scheduler.Stopping := by
  have kept :=
    run.invariant
      (fun scheduler => scheduler.OneHolder ∧ scheduler.Unanswered)
      (fun held step =>
        ⟨held.1.step (effect_of_step step),
          held.2.step held.1 (effect_of_step step)⟩)
      ⟨oneHolder_new, by simp [Unanswered, Waits, new, WorkerPosition.active?]⟩
  exact ⟨stop, kept.1, kept.2⟩

/-- A worker that has not ended can take a step; the job it runs can end. -/
theorem enabled_of_not_isExited
    {scheduler : ComputeScheduler workers Value}
    {id : Fin workers}
    (unanswered : scheduler.Unanswered)
    (running : (scheduler.positions id).isExited = false) :
    (machine workers Value).Enabled scheduler (Label.isOf id) := by
  have cellOf
      {task : Nat}
      (active : (scheduler.positions id).active? = some task) :=
    unanswered task (.inr ⟨id, active⟩)
  have byWorker
      {outcome : ComputeScheduler workers Value × List (Event Value)}
      (step : scheduler.workerStep? id = some outcome) :
      (machine workers Value).Enabled scheduler (Label.isOf id) :=
    ⟨.worker id, outcome.1, outcome.2, beq_self_eq_true id, step⟩
  cases here : scheduler.positions id with
  | exited => simp [here, WorkerPosition.isExited] at running
  | checkingStop =>
      cases stop : scheduler.stop <;>
        exact byWorker (by simp only [workerStep?, here, stop]; rfl)
  | receiving =>
      cases queue : scheduler.queue with
      | cons task rest =>
          exact byWorker (by simp only [workerStep?, here, queue]; rfl)
      | nil =>
          cases gone : scheduler.sendersGone with
          | true =>
              exact byWorker
                (by simp only [workerStep?, here, queue, gone]; rfl)
          | false =>
              -- nothing comes within the ten milliseconds of `recv_timeout`
              exact ⟨.timeout id, scheduler.setPosition id .checkingStop, [],
                beq_self_eq_true id, by simp [machine, here, queue, gone]⟩
  | checking task =>
      cases flag : scheduler.isCancelled task <;>
        exact byWorker (by simp only [workerStep?, here, flag]; rfl)
  | starting task =>
      exact byWorker (by simp only [workerStep?, here]; rfl)
  | running task =>
      obtain ⟨cell, there, empty⟩ := cellOf (by rw [here]; rfl)
      exact ⟨.jobEnds id (.error .other), _, _, beq_self_eq_true id,
        by simp only [machine, here, there]; rfl⟩
  | rechecking task outcome =>
      cases flag : scheduler.isCancelled task <;>
        exact byWorker (by simp only [workerStep?, here, flag]; rfl)
  | sending task result =>
      obtain ⟨cell, there, empty⟩ := cellOf (by rw [here]; rfl)
      cases dropped : cell.handleDropped <;>
        exact byWorker
          (by simp only [workerStep?, here, sendResult?, there, dropped,
                empty]; rfl)
  | releasing task =>
      exact byWorker (by simp only [workerStep?, here]; rfl)

/-- A worker that has ended makes no step. -/
theorem not_enabled_of_exited
    {scheduler : ComputeScheduler workers Value}
    {id : Fin workers}
    (exited : scheduler.positions id = .exited) :
    ¬ (machine workers Value).Enabled scheduler (Label.isOf id) := by
  rintro ⟨label, after, events, own, step⟩
  have same {other : Fin workers} (isId : (other == id) = true) :
      scheduler.positions other = .exited := by
    rw [eq_of_beq isId]
    exact exited
  cases label with
  | worker other =>
      simp [machine, workerStep?, same own] at step
  | timeout other | jobEnds other outcome | dropPanics other =>
      simp [machine, same own] at step
  | _ => cases own

/-- The worker threads of a compute scheduler that is told to stop. -/
def stoppingThreads (workers : Nat) (Value : Type u) :
    Machine.Threads (machine workers Value) (Fin workers)
      (WorkerPosition Value) Nat where
  position := positions
  owns := Label.isOf
  rank := WorkerPosition.rank
  ended := WorkerPosition.isExited
  good := Stopping
  preserved stopping step := stopping.step step
  unmoved _ step other := (step_moves step).1.unmoved other
  lowered stopping step own :=
    (((step_moves step).1.own own).pays stopping.stop).1

/-! ## What is still called, and what is not -/

/-- How many workers are past the load of the stop flag and before the call of
a job. -/
def mayStart (scheduler : ComputeScheduler workers Value) : Nat :=
  ∑ id, (scheduler.positions id).mayStart

/-- What one summand pays, the sum pays. -/
theorem sum_update_pays
    {positions : Fin workers → WorkerPosition Value}
    {id : Fin workers}
    {position : WorkerPosition Value}
    {paid : Nat}
    (pays : paid + position.mayStart ≤ (positions id).mayStart) :
    paid + ∑ other, (Function.update positions id position other).mayStart ≤
      ∑ other, (positions other).mayStart := by
  rw [← Finset.add_sum_erase _ _ (Finset.mem_univ id),
    ← Finset.add_sum_erase _ (fun other => (positions other).mayStart)
      (Finset.mem_univ id)]
  have others :
      ∑ other ∈ Finset.univ.erase id,
          (Function.update positions id position other).mayStart =
        ∑ other ∈ Finset.univ.erase id, (positions other).mayStart := by
    apply Finset.sum_congr rfl
    intro other member
    rw [Function.update_of_ne (Finset.ne_of_mem_erase member)]
  rw [others, Function.update_self, ← Nat.add_assoc]
  exact Nat.add_le_add_right pays _

/-- With the stop flag set, every call of a job is paid for by a worker that was
past its load of the flag. -/
theorem step_mayStart
    {before after : ComputeScheduler workers Value}
    {label : Label workers Value}
    {events : List (Event Value)}
    (stop : before.stop = true)
    (step :
      (machine workers Value).step? before label = some (after, events)) :
    after.stop = true ∧
      events.countP Event.callsJob + after.mayStart ≤ before.mayStart := by
  obtain ⟨moves, stays⟩ := step_moves step
  refine ⟨stays stop, ?_⟩
  unfold mayStart
  cases moves with
  | none notOf same silent =>
      rw [same, silent, Nat.zero_add]
  | thread id position owner moved onward =>
      rw [moved]
      exact sum_update_pays (onward.pays stop).2

theorem mayStart_le_workers (scheduler : ComputeScheduler workers Value) :
    scheduler.mayStart ≤ workers := by
  have each :
      scheduler.mayStart ≤ ∑ _id : Fin workers, 1 :=
    Finset.sum_le_sum fun id _ =>
      WorkerPosition.mayStart_le_one (scheduler.positions id)
  simpa using each

/-- Where all receivers are gone, no job is called any more. -/
theorem run_gone
    {joined final : ComputeScheduler workers Value}
    {log : List (Event Value)}
    (gone : joined.receiversGone = true)
    (run : Machine.Run (machine workers Value) joined log final) :
    final.receiversGone = true ∧ log.countP Event.callsJob = 0 := by
  induction run with
  | nil => exact ⟨gone, rfl⟩
  | snoc label earlier last inductionHypothesis =>
      obtain ⟨goneThen, silent⟩ := inductionHypothesis
      refine ⟨gone_of_gone goneThen (effect_of_step last), ?_⟩
      rw [List.countP_append, silent, Nat.zero_add]
      have exited := receiversGone_iff.mp goneThen
      cases effect_of_step last with
      | started id task here =>
          rw [exited id] at here
          cases here
      | around _ events queue positions tasks shown =>
          apply List.countP_eq_zero.mpr
          intro event member
          rcases shown event member with rfl | rfl <;> simp [Event.callsJob]
      | _ => simp [Event.callsJob]

/--
After `shutdown` has set the stop flag no more jobs are called than there are
workers, and where no worker and no job is left alone for ever, all workers end
and `shutdown` can return.  From then on no job is called, and every accepted
task whose handle is still there can be received for.
-/
theorem compute_shutdown_ends
    {log : List (Event Value)}
    (execution : Machine.Execution (machine workers Value))
    (fair : ∀ id, execution.Fair (Label.isOf id))
    (time : Nat)
    (reached :
      Machine.Run (machine workers Value) (new workers Value) log
        (execution.states time))
    (stop : (execution.states time).stop = true) :
    (∀ later final,
      Machine.Run (machine workers Value) (execution.states time)
        later final →
      later.countP Event.callsJob ≤ workers) ∧
      ∃ joined, time ≤ joined ∧
        ∀ later final,
          Machine.Run (machine workers Value) (execution.states joined)
            later final →
          (final.shutdownPhase = .joining →
            ∃ returned,
              (machine workers Value).step? final .joined =
                some (returned, [])) ∧
          later.countP Event.callsJob = 0 ∧
          ∀ task cell,
            final.tasks[task]? = some cell →
            cell.handleDropped = false →
            ReceiveReturns final task := by
  constructor
  · intro later final run
    have paid :=
      run.budget (fun scheduler => scheduler.stop = true) Event.callsJob
        mayStart step_mayStart stop
    exact (Nat.le_add_right _ _).trans
      (paid.2.trans (mayStart_le_workers _))
  · obtain ⟨joined, notBefore, ended⟩ :=
      (stoppingThreads workers Value).eventually_ended execution
        (fun thread _ stopping running =>
          (stoppingThreads workers Value).takes_step
            (fun stopping running =>
              enabled_of_not_isExited stopping.unanswered running)
            execution (fair thread) stopping running)
        time (stopping_of_run reached stop)
    have gone : (execution.states joined).receiversGone = true :=
      List.all_eq_true.mpr fun id member => ended id
    have lifecycle :=
      execution.invariant Lifecycle (fun held step => held.step step)
        notBefore (run_lifecycle reached)
    refine ⟨joined, notBefore, fun later final run => ?_⟩
    obtain ⟨stillGone, silent⟩ := run_gone gone run
    refine ⟨fun joining => ?_, silent, fun task cell there kept => ?_⟩
    · simp [machine, joining, stillGone]
    · have lifecycleThen :=
        run.invariant Lifecycle (fun held step => held.step step) lifecycle
      exact receiveReturns_of_gone lifecycleThen stillGone there kept

/-- One worker and two jobs; the flag is set while the first one runs. -/
def stoppedInJob (only : Fin 1) : List (Label 1 Nat) :=
  [.spawn 0, .spawn 0, .worker only, .worker only, .worker only, .worker only,
    .setStop, .takeSender]

/-- The first job returns, its result is sent, and the worker ends. -/
def jobReturns (only : Fin 1) : List (Label 1 Nat) :=
  [.jobEnds only (.ok 5), .worker only, .worker only, .worker only,
    .worker only]

theorem compute_shutdown_ends_stoppedInJob :
    ∃ (execution : Machine.Execution (machine 1 Nat)) (log : _) (joined : _)
      (returned : _),
      (machine 1 Nat).run? (new 1 Nat) (stoppedInJob 0) =
          some (execution.states 0, log) ∧
        (∀ later final,
          Machine.Run (machine 1 Nat) (execution.states 0) later final →
          later.countP Event.callsJob ≤ 1) ∧
        (machine 1 Nat).step? (execution.states joined) .joined =
          some (returned, []) := by
  obtain ⟨stopped, log, final, later, executed, stop, onward, idle, exited,
      joining⟩ :
      ∃ stopped log final later,
        (machine 1 Nat).run? (new 1 Nat) (stoppedInJob 0) =
            some (stopped, log) ∧
          stopped.stop = true ∧
          (machine 1 Nat).run? stopped (jobReturns 0) = some (final, later) ∧
          (machine 1 Nat).run? final [.spawnCompute 0 false] =
            some (final, [.refused .schedulerShutdown]) ∧
          final.positions 0 = .exited ∧
          ∀ step ∈
            (machine 1 Nat).taken stopped (jobReturns 0) ++
              (machine 1 Nat).taken final [.spawnCompute 0 false],
            step.1.shutdownPhase = .joining :=
    ⟨_, _, _, _, rfl, rfl, rfl, rfl, rfl, by decide⟩
  obtain ⟨execution, rfl, -, among, fair⟩ :=
    Machine.Execution.exists_of_lasso (jobReturns 0) onward _
      (List.cons_ne_nil _ _) idle
  have fairly (id : Fin 1) : execution.Fair (Label.isOf id) := by
    obtain rfl : id = 0 := Subsingleton.elim id 0
    exact (fair _ _ (.inr fun enabled =>
      not_enabled_of_exited exited enabled.2)).fair
  obtain ⟨atMostOne, joined, -, ends⟩ :=
    compute_shutdown_ends execution fairly 0 (Machine.run?_sound _ executed)
      stop
  obtain ⟨returned, returns⟩ := (ends _ _ .nil).1 (joining _ (among joined))
  exact ⟨execution, log, joined, returned, executed, atMostOne, returns⟩

end ComputeScheduler

end Runact.Compute
