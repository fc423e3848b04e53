import Runact.ComputeResults

namespace Runact.Compute

/-!
# The life of the compute scheduler

`shutdown` raises the stop flag, takes the scheduler's own sender and joins the
workers; the clones of the sender in actor contexts live on.  What decides about
a submission is whether a worker still holds the queue's receiver, and the last
receiver to go discards the queue.
-/

universe u

variable {workers : Nat} {Value : Type u}

namespace ComputeScheduler

/-- What a step does to the senders, to `shutdown`, and whether it submits. -/
inductive PhaseEffect
    (before after : ComputeScheduler workers Value)
    (events : List (Event Value)) : Prop where
  | submission (resultType : TypeId) :
      before.submit resultType = (after, events) →
      PhaseEffect before after events
  | within :
      after.ownSender = before.ownSender →
      after.shutdownPhase = before.shutdownPhase →
      (∀ task, .submitted task ∉ events) →
      PhaseEffect before after events
  | stopped :
      after = { before with stop := true, shutdownPhase := .stopping } →
      events = [] →
      PhaseEffect before after events
  | senderTaken :
      after =
        { before with ownSender := false, shutdownPhase := .joining } →
      events = [] →
      PhaseEffect before after events
  | joined :
      before.shutdownPhase = .joining →
      before.receiversGone = true →
      after = { before with shutdownPhase := .returned } →
      events = [] →
      PhaseEffect before after events
  | dropped :
      after =
        { before with ownSender := false, shutdownPhase := .dropped } →
      events = [] →
      PhaseEffect before after events

theorem exit_ownSender
    (scheduler : ComputeScheduler workers Value)
    (id : Fin workers) :
    (scheduler.exit id).ownSender = scheduler.ownSender := by
  rcases exit_cases scheduler id with shape | shape <;> rw [shape] <;> rfl

theorem exit_shutdownPhase
    (scheduler : ComputeScheduler workers Value)
    (id : Fin workers) :
    (scheduler.exit id).shutdownPhase = scheduler.shutdownPhase := by
  rcases exit_cases scheduler id with shape | shape <;> rw [shape] <;> rfl

/-- The workers leave senders and `shutdown` alone, and submit nothing. -/
theorem workerStep_phase
    {before after : ComputeScheduler workers Value}
    {id : Fin workers}
    {events : List (Event Value)}
    (step : before.workerStep? id = some (after, events)) :
    PhaseEffect before after events := by
  unfold workerStep? at step
  split at step
  case h_1 =>
      split at step <;> cases step
      · exact .within (exit_ownSender _ _) (exit_shutdownPhase _ _) (by simp)
      · exact .within rfl rfl (by simp)
  case h_2 =>
      split at step
      · cases step
        exact .within rfl rfl (by simp)
      · split at step <;> cases step
        exact .within (exit_ownSender _ _) (exit_shutdownPhase _ _) (by simp)
  case h_7 =>
      unfold sendResult? at step
      split at step
      · cases step
      · split at step
        · cases step
          exact .within rfl rfl (by simp)
        · split at step <;> cases step
          exact .within rfl rfl (by simp)
  case h_3 | h_6 =>
      split at step <;> cases step <;>
        exact .within rfl rfl (by simp)
  case h_4 | h_8 =>
      cases step
      exact .within rfl rfl (by simp)
  case h_5 | h_9 => cases step

/-- Every step has one of these effects. -/
theorem phaseEffect_of_step
    {before after : ComputeScheduler workers Value}
    {label : Label workers Value}
    {events : List (Event Value)}
    (step :
      (machine workers Value).step? before label = some (after, events)) :
    PhaseEffect before after events := by
  cases label with
  | spawn resultType =>
      simp only [machine] at step
      split at step
      · split at step
        · exact .submission resultType (Option.some.inj step)
        · cases step
          exact .within rfl rfl (by simp)
      · cases step
  | spawnCompute resultType hasSender =>
      simp only [machine] at step
      split at step
      · split at step
        · exact .submission resultType (Option.some.inj step)
        · cases step
      · cases step
        exact .within rfl rfl (by simp)
  | cancel task =>
      simp only [machine] at step
      split at step
      · split at step <;> cases step
        exact .within rfl rfl (by simp)
      · cases step
  | receive task method =>
      simp only [machine] at step
      split at step
      · split at step
        · cases step
        · unfold receive? at step
          split at step <;>
            simp only [Option.map_eq_some_iff, Prod.mk.injEq] at step <;>
            obtain ⟨answer, answered, rfl, rfl⟩ := step <;>
            exact .within rfl rfl (by simp)
      · cases step
  | dropHandle task =>
      cases step
      exact .within rfl rfl (by simp)
  | worker id => exact workerStep_phase step
  | timeout id =>
      simp only [machine] at step
      split at step
      · split at step <;> cases step
        exact .within rfl rfl (by simp)
      · cases step
  | jobEnds id outcome =>
      simp only [machine] at step
      split at step
      · split at step <;> cases step
        exact .within rfl rfl (by simp)
      · cases step
  | dropPanics id =>
      simp only [machine] at step
      split at step <;> cases step
      exact .within (exit_ownSender _ _) (exit_shutdownPhase _ _) (by simp)
  | cloneSender | dropSender =>
      simp only [machine] at step
      split at step <;> cases step
      exact .within rfl rfl (by simp)
  | setStop =>
      simp only [machine] at step
      split at step <;> cases step
      exact .stopped rfl rfl
  | takeSender =>
      simp only [machine] at step
      split at step <;> cases step
      exact .senderTaken rfl rfl
  | joined =>
      simp only [machine, Option.ite_none_right_eq_some, Bool.and_eq_true,
        decide_eq_true_eq, Option.some.injEq, Prod.mk.injEq] at step
      obtain ⟨⟨joining, gone⟩, rfl, rfl⟩ := step
      exact .joined joining gone rfl rfl
  | dropScheduler =>
      simp only [machine] at step
      split at step <;> cases step
      exact .dropped rfl rfl

theorem receiversGone_iff
    {scheduler : ComputeScheduler workers Value} :
    scheduler.receiversGone = true ↔
      ∀ id, scheduler.positions id = .exited := by
  have exited (position : WorkerPosition Value) :
      position.isExited = true ↔ position = .exited := by
    cases position <;> simp [WorkerPosition.isExited]
  simp [receiversGone, exited]

/-- Workers that have ended stay ended, and nothing is taken or sent by them. -/
theorem gone_of_gone
    {before after : ComputeScheduler workers Value}
    {events : List (Event Value)}
    (gone : before.receiversGone = true)
    (effect : Effect before after events) :
    after.receiversGone = true := by
  rw [receiversGone_iff] at gone ⊢
  have never
      {id : Fin workers}
      {position : WorkerPosition Value}
      (here : before.positions id = position)
      (alive : position.isExited = false) : False := by
    rw [← here, gone id] at alive
    cases alive
  cases effect with
  | around _ events queue positions tasks shown =>
      rw [positions]
      exact gone
  | submitted resultType | cancelled task cell there
  | received task cell result method answer there held answered
  | unanswered task type met method answer nothing answered
  | handleDropped task => exact gone
  | looped id position idle loops | exited id idle =>
      rcases idle with here | here | ⟨task, here⟩ <;>
        exact (never here rfl).elim
  | taken id task rest here queue => exact (never here rfl).elim
  | skipped id task here flag | passed id task here flag
  | started id task here | ended id task cell outcome here there
  | discarded id task outcome here flag | kept id task outcome here flag
  | sent id task cell result here there | unsent id task result here =>
      exact (never here rfl).elim

/-- The sender goes with `shutdown`, `shutdown` returns once all receivers are
gone, and the queue goes with the last receiver. -/
structure Lifecycle (scheduler : ComputeScheduler workers Value) : Prop where
  idle : scheduler.shutdownPhase = .idle → scheduler.ownSender = true
  senderTaken :
    scheduler.shutdownPhase = .joining ∨
        scheduler.shutdownPhase = .returned →
      scheduler.ownSender = false
  emptied :
    scheduler.shutdownPhase = .returned → scheduler.receiversGone = true
  discarded : scheduler.receiversGone = true → scheduler.queue = []

theorem lifecycle_new : (new workers Value).Lifecycle where
  idle _ := rfl
  senderTaken phase := by simp [new] at phase
  emptied phase := by simp [new] at phase
  discarded _ := rfl

/-- Where the last receiver is gone after a step, so is the queue. -/
theorem Lifecycle.discarded_step
    {before after : ComputeScheduler workers Value}
    {events : List (Event Value)}
    (lifecycle : before.Lifecycle)
    (effect : Effect before after events)
    (phase : PhaseEffect before after events)
    (gone : after.receiversGone = true) :
    after.queue = [] := by
  have moved
      {id : Fin workers}
      {position : WorkerPosition Value}
      {scheduler : ComputeScheduler workers Value}
      (alive : position.isExited = false)
      (none : (scheduler.setPosition id position).receiversGone = true) :
      False := by
    have exited := receiversGone_iff.mp none id
    simp only [setPosition, Function.update_self] at exited
    rw [exited] at alive
    cases alive
  cases effect with
  | around _ events queue positions tasks shown =>
      rw [queue]
      refine lifecycle.discarded ?_
      rw [receiversGone_iff] at gone ⊢
      rw [← positions]
      exact gone
  | submitted resultType =>
      -- a submission is accepted only while a receiver is left
      cases phase with
      | submission type submits =>
          unfold submit at submits
          split at submits
          · simp at submits
          · rename_i left
            exact absurd gone left
      | stopped shape silent | senderTaken shape silent
      | joined joining emptied shape silent | dropped shape silent =>
          cases silent
      | within ownSender phase unsubmitted =>
          exact absurd List.mem_cons_self (unsubmitted before.tasks.length)
  | cancelled task cell there
  | received task cell result method answer there held answered
  | unanswered task type met method answer nothing answered
  | handleDropped task => exact lifecycle.discarded gone
  | exited id idle =>
      unfold exit at gone ⊢
      dsimp only at gone ⊢
      split at gone
      · rename_i all
        rw [if_pos all]
      · rename_i some
        exact absurd gone some
  | looped id position idle loops =>
      rcases loops with rfl | rfl <;> exact (moved rfl gone).elim
  | taken id task rest here queue => exact (moved rfl gone).elim
  | skipped id task here flag | passed id task here flag
  | started id task here | ended id task cell outcome here there
  | discarded id task outcome here flag | kept id task outcome here flag
  | unsent id task result here => exact (moved rfl gone).elim
  | sent id task cell result here there => exact (moved rfl gone).elim

/-- A step between two steps of `shutdown`. -/
theorem Lifecycle.within
    {before after : ComputeScheduler workers Value}
    {events : List (Event Value)}
    (lifecycle : before.Lifecycle)
    (effect : Effect before after events)
    (ownSender : after.ownSender = before.ownSender)
    (phase : after.shutdownPhase = before.shutdownPhase)
    (discarded : after.receiversGone = true → after.queue = []) :
    after.Lifecycle where
  idle := by rw [ownSender, phase]; exact lifecycle.idle
  senderTaken := by rw [ownSender, phase]; exact lifecycle.senderTaken
  emptied := by
    rw [phase]
    exact fun returned => gone_of_gone (lifecycle.emptied returned) effect
  discarded := discarded

/-- Every step keeps the life of the scheduler in order. -/
theorem Lifecycle.step
    {before after : ComputeScheduler workers Value}
    {label : Label workers Value}
    {events : List (Event Value)}
    (lifecycle : before.Lifecycle)
    (step :
      (machine workers Value).step? before label = some (after, events)) :
    after.Lifecycle := by
  have effect := effect_of_step step
  have phase := phaseEffect_of_step step
  have discarded := lifecycle.discarded_step effect phase
  cases phase with
  | submission type submits =>
      have kept :
          after.ownSender = before.ownSender ∧
            after.shutdownPhase = before.shutdownPhase := by
        unfold submit at submits
        split at submits <;> cases submits <;> exact ⟨rfl, rfl⟩
      exact lifecycle.within effect kept.1 kept.2 discarded
  | within ownSender phase unsubmitted =>
      exact lifecycle.within effect ownSender phase discarded
  | stopped shape | senderTaken shape | dropped shape =>
      subst shape
      exact {
        idle := by simp
        senderTaken := by simp
        emptied := by simp
        discarded := lifecycle.discarded
      }
  | joined joining gone shape =>
      subst shape
      exact {
        idle := by simp
        senderTaken := fun _ => lifecycle.senderTaken (.inl joining)
        emptied := fun _ => gone
        discarded := lifecycle.discarded
      }

theorem run_lifecycle
    {log : List (Event Value)}
    {final : ComputeScheduler workers Value}
    (run :
      Machine.Run (machine workers Value) (new workers Value) log final) :
    final.Lifecycle :=
  run.invariant Lifecycle (fun lifecycle step => lifecycle.step step)
    lifecycle_new

/-! ## The two ways to submit a job -/

/-- A submission of a job that can be made in this state: by the scheduler while
it can be borrowed, by a context with its own sender, or by a context spawned
when `sender` had nothing to give. -/
inductive Submission
    (scheduler : ComputeScheduler workers Value)
    (resultType : TypeId) : Label workers Value → Prop where
  | spawn :
      scheduler.shutdownPhase.borrowable = true →
      Submission scheduler resultType (.spawn resultType)
  | spawnCompute :
      0 < scheduler.clones →
      Submission scheduler resultType (.spawnCompute resultType true)
  | senderless :
      scheduler.shutdownPhase.borrowable = true →
      scheduler.ownSender = false →
      Submission scheduler resultType (.spawnCompute resultType false)

/-- All ways to submit a job return the same, and none panics. -/
structure SubmissionsAgree
    (scheduler : ComputeScheduler workers Value)
    (resultType : TypeId) : Prop where
  /-- A handle and one more queued task, while a worker holds the receiver. -/
  accepted :
    scheduler.receiversGone = false →
    ∀ label, Submission scheduler resultType label →
      (machine workers Value).step? scheduler label =
        some
          ({ scheduler with
              queue := scheduler.queue ++ [scheduler.tasks.length]
              tasks := scheduler.tasks ++ [.new resultType] },
            [.submitted scheduler.tasks.length])
  /-- Otherwise an error, with nothing changed. -/
  refused :
    scheduler.receiversGone = true →
    ∀ label, Submission scheduler resultType label →
      (machine workers Value).step? scheduler label =
        some (scheduler, [.refused .schedulerShutdown])

/-- Where the scheduler's own sender is there whenever it can be borrowed, all
submissions come down to `submit`. -/
theorem submission_outcome
    {scheduler : ComputeScheduler workers Value}
    {resultType : TypeId}
    {label : Label workers Value}
    (own :
      scheduler.shutdownPhase.borrowable = true →
      scheduler.ownSender = true)
    (submission : Submission scheduler resultType label) :
    (machine workers Value).step? scheduler label =
      some (scheduler.submit resultType) := by
  cases submission with
  | spawn borrowable => simp [machine, borrowable, own borrowable]
  | spawnCompute held => simp [machine, held]
  | senderless borrowable taken =>
      rw [own borrowable] at taken
      cases taken

/--
In every reachable state the two submission paths agree, and neither panics,
exactly when `shutdown` has not returned.
-/
theorem submissions_agree_iff
    {log : List (Event Value)}
    {final : ComputeScheduler workers Value}
    (run :
      Machine.Run (machine workers Value) (new workers Value) log final)
    (resultType : TypeId) :
    SubmissionsAgree final resultType ↔
      final.shutdownPhase ≠ .returned := by
  have lifecycle := run_lifecycle run
  constructor
  · intro agree returned
    have taken := lifecycle.senderTaken (.inr returned)
    have borrowable : final.shutdownPhase.borrowable = true := by
      rw [returned]
      rfl
    have refused :=
      agree.refused (lifecycle.emptied returned) _ (.spawn borrowable)
    simp [machine, borrowable, taken] at refused
  · intro unreturned
    have own (borrowable : final.shutdownPhase.borrowable = true) :
        final.ownSender = true := by
      refine lifecycle.idle ?_
      cases phase : final.shutdownPhase with
      | idle => rfl
      | returned => exact absurd phase unreturned
      | _ => simp [phase, ShutdownPhase.borrowable] at borrowable
    constructor
    case accepted =>
      intro left label submission
      rw [submission_outcome own submission]
      simp [submit, left]
    case refused =>
      intro gone label submission
      rw [submission_outcome own submission]
      simp [submit, gone]

/-- One worker, and a context with its own sender: both ways take the job.
While `shutdown` waits for the joins, and the worker has ended, the context is
refused. -/
theorem submissions_agree_iff_attached :
    ∃ final log taken joining earlier,
      (machine 1 Nat).run? (new 1 Nat) [.cloneSender, .worker 0] =
          some (final, log) ∧
        (machine 1 Nat).step? final (.spawn 5) =
          some (taken, [.submitted 0]) ∧
        (machine 1 Nat).step? final (.spawnCompute 5 true) =
          some (taken, [.submitted 0]) ∧
        taken.queue = [0] ∧
        (machine 1 Nat).run? (new 1 Nat)
            [.cloneSender, .setStop, .takeSender, .worker 0] =
          some (joining, earlier) ∧
        (machine 1 Nat).step? joining (.spawnCompute 5 true) =
          some (joining, [.refused .schedulerShutdown]) := by
  obtain ⟨final, log, executed, idle, left, fresh, empty, held⟩ :
      ∃ final log,
        (machine 1 Nat).run? (new 1 Nat) [.cloneSender, .worker 0] =
            some (final, log) ∧
          final.shutdownPhase = .idle ∧
          final.receiversGone = false ∧
          final.tasks.length = 0 ∧
          final.queue = [] ∧
          0 < final.clones :=
    ⟨_, _, rfl, rfl, rfl, rfl, rfl, Nat.one_pos⟩
  obtain ⟨joining, earlier, stopped, waiting, gone, kept⟩ :
      ∃ joining earlier,
        (machine 1 Nat).run? (new 1 Nat)
            [.cloneSender, .setStop, .takeSender, .worker 0] =
            some (joining, earlier) ∧
          joining.shutdownPhase = .joining ∧
          joining.receiversGone = true ∧
          0 < joining.clones :=
    ⟨_, _, rfl, rfl, rfl, Nat.one_pos⟩
  have running :=
    (submissions_agree_iff (Machine.run?_sound _ executed) 5).mpr
      (by rw [idle]; decide)
  have stopping :=
    (submissions_agree_iff (Machine.run?_sound _ stopped) 5).mpr
      (by rw [waiting]; decide)
  have spawned :=
    running.accepted left _ (.spawn (by rw [idle]; rfl))
  have computed := running.accepted left _ (.spawnCompute held)
  rw [fresh, empty] at spawned computed
  exact ⟨final, log, _, joining, earlier, executed, spawned, computed, rfl,
    stopped, stopping.refused gone _ (.spawnCompute kept)⟩

/-- The same scheduler after a whole `shutdown`: the context is refused, and
`spawn` panics on the sender that was taken. -/
theorem spawn_panics :
    ∃ final log,
      (machine 1 Nat).run? (new 1 Nat)
          [.cloneSender, .setStop, .takeSender, .worker 0, .joined] =
          some (final, log) ∧
        (machine 1 Nat).step? final (.spawnCompute 0 true) =
          some (final, [.refused .schedulerShutdown]) ∧
        (machine 1 Nat).step? final (.spawn 0) =
          some (final, [.unwrapPanicked]) :=
  ⟨_, _, rfl, rfl, rfl⟩

/-! ## No task is left behind -/

/-- Where an accepted task is. -/
inductive Place where
  | queued
  | inHands
  | resolved
  deriving DecidableEq

/-- The `recv` of the task's handle returns: with a result, or with
`SchedulerShutdown`. -/
def ReceiveReturns
    (scheduler : ComputeScheduler workers Value)
    (task : Nat) : Prop :=
  ∃ after events,
    (machine workers Value).step? scheduler (.receive task .recv) =
        some (after, events) ∧
      ((∃ result answer,
          events = [.received task result, .answered task (some answer)]) ∨
        events = [.answered task (some (.error .schedulerShutdown))])

/-- As long as the handle is there, its `recv` returns: now, or after the next
step of the worker that has answered and still has to let go of the task. -/
def Answers
    (scheduler : ComputeScheduler workers Value)
    (task : Nat) : Prop :=
  ∀ cell,
    scheduler.tasks[task]? = some cell →
    cell.handleDropped = false →
    ReceiveReturns scheduler task ∨
      ∃ id,
        scheduler.positions id = .releasing task ∧
          ∀ after events,
            (machine workers Value).step? scheduler (.worker id) =
                some (after, events) →
              ReceiveReturns after task

/-- The task is once in the queue, or one worker works on it, or its handle is
answered. -/
def Stands
    (scheduler : ComputeScheduler workers Value)
    (task : Nat) : Place → Prop
  | .queued =>
      scheduler.queue.count task = 1 ∧
        ∀ id, (scheduler.positions id).task? ≠ some task
  | .inHands =>
      task ∉ scheduler.queue ∧
        ∃ id,
          (scheduler.positions id).active? = some task ∧
            ∀ other, (scheduler.positions other).task? = some task →
              other = id
  | .resolved =>
      task ∉ scheduler.queue ∧
        (∀ id, (scheduler.positions id).active? ≠ some task) ∧
        Answers scheduler task

theorem reads_task :
    Reads (WorkerPosition.task? : WorkerPosition Value → Option Nat) where
  working {position _} active := by
    cases position <;> simp_all [WorkerPosition.active?,
      WorkerPosition.task?]
  answered _ := .inl rfl
  free := ⟨rfl, rfl, rfl⟩

/-- A worker that holds a task it does not work on has answered it. -/
theorem releasing_of_task
    {position : WorkerPosition Value}
    {task : Nat}
    (held : position.task? = some task)
    (answered : position.active? ≠ some task) :
    position = .releasing task := by
  cases position <;>
    simp_all [WorkerPosition.active?, WorkerPosition.task?]

/-- Without its result sender, the handle of a task is answered at once. -/
theorem receiveReturns_of_released
    {scheduler : ComputeScheduler workers Value}
    {task : Nat}
    {cell : TaskCell Value}
    (there : scheduler.tasks[task]? = some cell)
    (kept : cell.handleDropped = false)
    (answered :
      cell.result ≠ none ∨ scheduler.holdsResultSender task = false) :
    ReceiveReturns scheduler task := by
  cases held : cell.result with
  | some result =>
      refine ⟨scheduler.modifyTask task fun cell => { cell with result := none },
        [.received task result,
          .answered task
            (some (ComputeHandle.mapResult cell.resultType result))],
        ?_, .inl ⟨result, _, rfl⟩⟩
      simp [machine, there, kept, receive?, held, ReceiveMethod.answer,
        ComputeHandle.recv]
  | none =>
      have released :=
        answered.resolve_left fun something => something held
      refine ⟨scheduler, _, ?_, .inr rfl⟩
      simp [machine, there, kept, receive?, held, released,
        ReceiveMethod.answer, ComputeHandle.recv]

theorem holdsResultSender_iff
    {scheduler : ComputeScheduler workers Value}
    {task : Nat} :
    scheduler.holdsResultSender task = true ↔
      task ∈ scheduler.queue ∨
        ∃ id, (scheduler.positions id).task? = some task := by
  simp [holdsResultSender]

/-- A task that is neither queued nor worked on is answered. -/
theorem answers_of_settled
    {scheduler : ComputeScheduler workers Value}
    {task : Nat}
    (held : scheduler.HeldOnce WorkerPosition.task?)
    (unqueued : task ∉ scheduler.queue)
    (nobody : ∀ id, (scheduler.positions id).active? ≠ some task) :
    Answers scheduler task := by
  intro cell there kept
  by_cases something : cell.result ≠ none
  · exact .inl (receiveReturns_of_released there kept (.inl something))
  · by_cases holds : scheduler.holdsResultSender task = true
    · obtain ⟨id, holding⟩ :=
        (holdsResultSender_iff.mp holds).resolve_left unqueued
      have releasing := releasing_of_task holding (nobody id)
      refine .inr ⟨id, releasing, fun after events step => ?_⟩
      simp only [machine, workerStep?, releasing, Option.some.injEq,
        Prod.mk.injEq] at step
      obtain ⟨rfl, rfl⟩ := step
      have released :
          (scheduler.setPosition id .checkingStop).holdsResultSender task =
            false := by
        rw [Bool.eq_false_iff]
        intro still
        rcases holdsResultSender_iff.mp still with queued | ⟨other, there⟩
        · exact unqueued queued
        · by_cases same : other = id
          · subst same
            simp [setPosition, WorkerPosition.task?] at there
          · simp only [setPosition, Function.update_of_ne same] at there
            exact same (held.alone other id task there holding)
      exact receiveReturns_of_released there kept (.inr released)
    · exact .inl (receiveReturns_of_released there kept
        (.inr (Bool.eq_false_iff.mpr holds)))

/-- A task that is neither queued nor read off a worker stays so. -/
theorem unread_step
    {view : WorkerPosition Value → Option Nat}
    (reads : Reads view)
    {before after : ComputeScheduler workers Value}
    {task : Nat}
    {events : List (Event Value)}
    (effect : Effect before after events)
    (accepted : task < before.tasks.length)
    (unread :
      task ∉ before.queue ∧
        ∀ id, view (before.positions id) ≠ some task) :
    task < after.tasks.length ∧
      task ∉ after.queue ∧
        ∀ id, view (after.positions id) ≠ some task := by
  obtain ⟨unqueued, nobody⟩ := unread
  have moved
      {scheduler : ComputeScheduler workers Value}
      {id : Fin workers}
      {position : WorkerPosition Value}
      (same : scheduler.positions = before.positions)
      (goesOn :
        view position = view (before.positions id) ∨
          view position ≠ some task)
      (other : Fin workers) :
      view ((scheduler.setPosition id position).positions other) ≠
        some task := by
    by_cases here : other = id
    · subst here
      simp only [setPosition, Function.update_self]
      rcases goesOn with same | different
      · rw [same]
        exact nobody other
      · exact different
    · simp only [setPosition, Function.update_of_ne here, same]
      exact nobody other
  -- what is read off a worker that has answered, has been its task before
  have released
      {id : Fin workers}
      {changed : Nat}
      {result : ComputeResult Value}
      (here : before.positions id = .sending changed result) :
      view (.releasing changed) = view (before.positions id) ∨
        view (.releasing changed) ≠ some task := by
    have working : view (.sending changed result) = some changed :=
      reads.working rfl
    rw [here, working]
    refine (reads.answered changed).imp_right fun none => ?_
    rw [none]
    exact (Option.some_ne_none task).symm
  have free
      {position : WorkerPosition Value}
      (none : view position = none) :
      view position ≠ some task := by
    rw [none]
    exact (Option.some_ne_none task).symm
  cases effect with
  | around _ events queue positions tasks shown =>
      rw [queue, positions, tasks]
      exact ⟨accepted, unqueued, nobody⟩
  | submitted resultType =>
      refine ⟨by simp; omega, ?_, nobody⟩
      have fresh : task ≠ before.tasks.length := Nat.ne_of_lt accepted
      simp [unqueued, fresh]
  | cancelled changed cell there =>
      exact ⟨by simpa using accepted, unqueued, nobody⟩
  | received changed cell result method answer there held answered =>
      exact ⟨by simpa using accepted, unqueued, nobody⟩
  | unanswered changed type met method answer nothing answered =>
      exact ⟨accepted, unqueued, nobody⟩
  | handleDropped changed =>
      exact ⟨by simpa using accepted, unqueued, nobody⟩
  | taken id first rest here queue =>
      rw [queue] at unqueued
      obtain ⟨different, later⟩ := not_or.mp (mt List.mem_cons.mpr unqueued)
      refine ⟨accepted, later, moved rfl (.inr ?_)⟩
      rw [reads.working rfl]
      simpa using Ne.symm different
  | looped id position idle loops =>
      refine ⟨accepted, unqueued, moved rfl (.inr (free ?_))⟩
      rcases loops with rfl | rfl
      · exact reads.free.1
      · exact reads.free.2.1
  | skipped id changed here flag | passed id changed here flag
  | started id changed here | ended id changed cell outcome here there
  | discarded id changed outcome here flag
  | kept id changed outcome here flag =>
      refine ⟨accepted, unqueued, moved rfl (.inl ?_)⟩
      rw [here, reads.working rfl, reads.working rfl]
  | sent id changed cell result here there =>
      exact ⟨by simpa [setPosition] using accepted, unqueued,
        moved rfl (released here)⟩
  | unsent id changed result here =>
      exact ⟨accepted, unqueued, moved rfl (released here)⟩
  | exited id idle =>
      have left (other : Fin workers) :
          view ((before.setPosition id .exited).positions other) ≠
            some task :=
        moved rfl (.inr (free reads.free.2.2)) other
      rcases exit_cases before id with shape | shape
      · rw [shape]
        exact ⟨accepted, unqueued, left⟩
      · rw [shape]
        exact ⟨accepted, List.not_mem_nil, left⟩

/-- Every step keeps answered tasks out of the queue and out of all hands. -/
theorem settled_step
    {before after : ComputeScheduler workers Value}
    {task : Nat}
    {events : List (Event Value)}
    (effect : Effect before after events)
    (accepted : task < before.tasks.length)
    (settled :
      task ∉ before.queue ∧
        ∀ id, (before.positions id).active? ≠ some task) :
    task < after.tasks.length ∧
      task ∉ after.queue ∧
        ∀ id, (after.positions id).active? ≠ some task :=
  unread_step reads_active effect accepted settled

/-- Accepted tasks are among the tasks of the scheduler. -/
theorem submitted_lt
    {log : List (Event Value)}
    {final : ComputeScheduler workers Value}
    (run :
      Machine.Run (machine workers Value) (new workers Value) log final)
    {task : Nat}
    (accepted : .submitted task ∈ log) :
    task < final.tasks.length := by
  refine run.history
    (fun log scheduler =>
      ∀ task, .submitted task ∈ log → task < scheduler.tasks.length)
    (fun earlier step task occurs => ?_) (by simp) task accepted
  have effect := effect_of_step step
  rcases List.mem_append.mp occurs with older | newest
  · have there := List.getElem?_eq_getElem (earlier task older)
    obtain ⟨kept, keptThere, -⟩ := effect.keepsTypes task _ there
    exact (List.getElem?_eq_some_iff.mp keptThere).1
  · cases effect with
    | around _ events queue positions tasks shown =>
        rcases shown _ newest with same | same <;> cases same
    | submitted resultType =>
        obtain rfl : task = _ := by simpa using newest
        simp
    | _ => simp at newest

/-- A task stands in one place. -/
theorem stands_unique
    {scheduler : ComputeScheduler workers Value}
    {task : Nat}
    {first second : Place}
    (here : scheduler.Stands task first)
    (there : scheduler.Stands task second) :
    first = second := by
  have queued (once : scheduler.queue.count task = 1) :
      task ∈ scheduler.queue := by
    rw [← List.count_pos_iff, once]
    exact Nat.one_pos
  cases first with
  | queued =>
      cases second with
      | queued => rfl
      | inHands => exact absurd (queued here.1) there.1
      | resolved => exact absurd (queued here.1) there.1
  | inHands =>
      obtain ⟨unqueued, id, held, -⟩ := here
      cases second with
      | queued => exact absurd (queued there.1) unqueued
      | inHands => rfl
      | resolved => exact absurd held (there.2.1 id)
  | resolved =>
      cases second with
      | queued => exact absurd (queued there.1) here.1
      | inHands =>
          obtain ⟨-, id, held, -⟩ := there
          exact absurd held (here.2.1 id)
      | resolved => rfl

/-- Where each submitted task is held once, it stands somewhere. -/
theorem stands_somewhere
    {scheduler : ComputeScheduler workers Value}
    (held : scheduler.HeldOnce WorkerPosition.task?)
    (task : Nat) :
    ∃ place, scheduler.Stands task place := by
  by_cases queued : task ∈ scheduler.queue
  · refine ⟨.queued, List.count_eq_one_of_mem held.queueNodup queued, ?_⟩
    exact fun id holding => held.apart id task holding queued
  · by_cases worked :
        ∃ id, (scheduler.positions id).active? = some task
    · obtain ⟨id, working⟩ := worked
      exact ⟨.inHands, queued, id, working, fun other holding =>
        held.alone other id task holding (reads_task.working working)⟩
    · have nobody := not_exists.mp worked
      exact ⟨.resolved, queued, nobody,
        answers_of_settled held queued nobody⟩

/-- Once all receivers are gone, every accepted task can be received for. -/
theorem receiveReturns_of_gone
    {scheduler : ComputeScheduler workers Value}
    {task : Nat}
    {cell : TaskCell Value}
    (lifecycle : scheduler.Lifecycle)
    (gone : scheduler.receiversGone = true)
    (there : scheduler.tasks[task]? = some cell)
    (kept : cell.handleDropped = false) :
    ReceiveReturns scheduler task := by
  refine receiveReturns_of_released there kept (.inr ?_)
  rw [Bool.eq_false_iff]
  intro holds
  rcases holdsResultSender_iff.mp holds with queued | ⟨id, holding⟩
  · rw [lifecycle.discarded gone] at queued
    cases queued
  · rw [receiversGone_iff.mp gone id] at holding
    cases holding

/-- `shutdown` has returned somewhere on the way of this run. -/
def HasShutDown
    (log : List (Event Value))
    (final : ComputeScheduler workers Value) : Prop :=
  ∃ earlier later middle,
    log = earlier ++ later ∧
      Machine.Run (machine workers Value) (new workers Value)
        earlier middle ∧
      middle.shutdownPhase = .returned ∧
      Machine.Run (machine workers Value) middle later final

/--
Every accepted task is in the queue, or with one worker, or resolved, and never
in two of these; resolved it stays resolved.  Once `shutdown` has returned,
every handle that is still there can receive at once.
-/
theorem tasks_accounted
    {log : List (Event Value)}
    {final : ComputeScheduler workers Value}
    (run :
      Machine.Run (machine workers Value) (new workers Value) log final)
    {task : Nat}
    (accepted : .submitted task ∈ log) :
    (∃! place, final.Stands task place) ∧
      (∀ later after,
        Machine.Run (machine workers Value) final later after →
        final.Stands task .resolved →
        after.Stands task .resolved) ∧
      (HasShutDown log final →
        ∃ cell,
          final.tasks[task]? = some cell ∧
            (cell.handleDropped = false → ReceiveReturns final task)) := by
  have heldOnce
      {log : List (Event Value)}
      {scheduler : ComputeScheduler workers Value}
      (run :
        Machine.Run (machine workers Value) (new workers Value)
          log scheduler) :
      scheduler.HeldOnce WorkerPosition.task? :=
    run.invariant (HeldOnce WorkerPosition.task?)
      (fun held step => held.step reads_task (effect_of_step step))
      (Exclusive.empty 0)
  have bound := submitted_lt run accepted
  refine ⟨?_, fun later after running resolved => ?_, fun shutDown => ?_⟩
  · obtain ⟨place, stands⟩ := stands_somewhere (heldOnce run) task
    exact ⟨place, stands, fun other there => stands_unique there stands⟩
  · obtain ⟨-, unqueued, nobody⟩ :=
      running.invariant
        (fun scheduler : ComputeScheduler workers Value =>
          task < scheduler.tasks.length ∧
            task ∉ scheduler.queue ∧
            ∀ id, (scheduler.positions id).active? ≠ some task)
        (fun settled step =>
          settled_step (effect_of_step step) settled.1 settled.2)
        ⟨bound, resolved.1, resolved.2.1⟩
    exact ⟨unqueued, nobody,
      answers_of_settled (heldOnce (run.append running)) unqueued nobody⟩
  · obtain ⟨earlier, later, middle, rfl, before, returned, after⟩ := shutDown
    have gone :=
      after.invariant (fun scheduler => scheduler.receiversGone = true)
        (fun gone step => gone_of_gone gone (effect_of_step step))
        ((run_lifecycle before).emptied returned)
    exact ⟨_, List.getElem?_eq_getElem bound,
      receiveReturns_of_gone (run_lifecycle run) gone
        (List.getElem?_eq_getElem bound)⟩

/-- Two workers and two tasks; `shutdown` comes while the first task runs, and
nobody takes the second, which a context had submitted. -/
def shutdownWithQueue
    {workers : Nat}
    (busy idle : Fin workers) : List (Label workers Nat) :=
  [.cloneSender, .spawn 0, .spawnCompute 0 true,
    .worker busy, .worker busy, .worker busy, .worker busy,
    .setStop, .takeSender, .worker idle,
    .jobEnds busy (.ok 5),
    .worker busy, .worker busy, .worker busy, .worker busy,
    .joined]

theorem tasks_accounted_shutdownWithQueue :
    ∃ final log,
      (machine 2 Nat).run? (new 2 Nat) (shutdownWithQueue 0 1) =
          some (final, log) ∧
        final.shutdownPhase = .returned ∧
        (∃! place, final.Stands 0 place) ∧
        (∃! place, final.Stands 1 place) ∧
        ReceiveReturns final 0 ∧
        ReceiveReturns final 1 := by
  obtain ⟨final, log, executed, returned, first, second, firstCell,
      secondCell⟩ :
      ∃ final log,
        (machine 2 Nat).run? (new 2 Nat) (shutdownWithQueue 0 1) =
            some (final, log) ∧
          final.shutdownPhase = .returned ∧
          log[0]? = some (.submitted 0) ∧
          log[1]? = some (.submitted 1) ∧
          (final.tasks[0]?.any fun cell => !cell.handleDropped) = true ∧
          (final.tasks[1]?.any fun cell => !cell.handleDropped) = true :=
    ⟨_, _, rfl, rfl, rfl, rfl, rfl, rfl⟩
  have run := Machine.run?_sound _ executed
  have shutDown : HasShutDown log final :=
    ⟨log, [], final, by simp, run, returned, .nil⟩
  obtain ⟨firstPlace, -, firstReturns⟩ :=
    tasks_accounted run (List.mem_of_getElem? first)
  obtain ⟨secondPlace, -, secondReturns⟩ :=
    tasks_accounted run (List.mem_of_getElem? second)
  obtain ⟨cell, there, returns⟩ := firstReturns shutDown
  obtain ⟨other, thereToo, returnsToo⟩ := secondReturns shutDown
  refine ⟨final, log, executed, returned, firstPlace, secondPlace,
    returns ?_, returnsToo ?_⟩
  · simpa [there] using firstCell
  · simpa [thereToo] using secondCell

end ComputeScheduler

end Runact.Compute
