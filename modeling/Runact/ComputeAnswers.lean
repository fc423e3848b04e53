import Runact.ComputeShutdown

namespace Runact.Compute

/-!
# Every compute task is answered

The queue of the compute scheduler is first in, first out, and unbounded, and no
worker is ever stuck.  So a task that was accepted is answered, however many are
accepted after it and whatever else happens: by its result, or because the last
worker has ended and with it the queue.
-/

universe u

variable {workers : Nat} {Value : Type u}

namespace WorkerPosition

/-- One for a worker that has not ended, else zero. -/
def alive (position : WorkerPosition Value) : Nat :=
  if position.isExited then 0 else 1

theorem alive_le_one (position : WorkerPosition Value) :
    position.alive ≤ 1 := by
  unfold alive
  split <;> simp

/-- How far a worker is from its next receive, in steps of the loop. -/
def untilReceive : WorkerPosition Value → Nat
  | .receiving => 0
  | position => position.rank

theorem untilReceive_le_rank (position : WorkerPosition Value) :
    position.untilReceive ≤ position.rank := by
  cases position <;> simp [untilReceive]

theorem untilReceive_of_ne_receiving
    {position : WorkerPosition Value}
    (elsewhere : position ≠ .receiving) :
    position.untilReceive = position.rank := by
  cases position <;> simp_all [untilReceive]

end WorkerPosition

namespace ComputeScheduler

/-- How many workers have not ended. -/
def living (scheduler : ComputeScheduler workers Value) : Nat :=
  ∑ id, (scheduler.positions id).alive

/-- How many workers may still end, and how many tasks are ahead of this one. -/
def ahead (task : Nat) (scheduler : ComputeScheduler workers Value) :
    ℕ ×ₗ ℕ :=
  toLex (living scheduler, scheduler.queue.idxOf task)

/-- What every reachable scheduler keeps. -/
structure Orderly (scheduler : ComputeScheduler workers Value) : Prop where
  heldOnce : scheduler.HeldOnce WorkerPosition.task?
  oneHolder : scheduler.OneHolder
  unanswered : scheduler.Unanswered
  lifecycle : scheduler.Lifecycle

section Answered

variable {before after : ComputeScheduler workers Value}
  {label : Label workers Value} {events : List (Event Value)}

theorem Orderly.step
    (orderly : before.Orderly)
    (step :
      (machine workers Value).step? before label = some (after, events)) :
    after.Orderly where
  heldOnce := orderly.heldOnce.step reads_task (effect_of_step step)
  oneHolder := orderly.oneHolder.step (effect_of_step step)
  unanswered :=
    orderly.unanswered.step orderly.oneHolder (effect_of_step step)
  lifecycle := orderly.lifecycle.step step

theorem orderly_new : (new workers Value).Orderly where
  heldOnce := Exclusive.empty 0
  oneHolder := oneHolder_new
  unanswered := by
    simp [Unanswered, Waits, new, WorkerPosition.active?]
  lifecycle := lifecycle_new

/-! ## The queue moves on -/

/-- A worker that takes a step has not ended. -/
theorem Onward.alive
    {id : Fin workers}
    {position : WorkerPosition Value}
    (onward : Onward before id position events) :
    (before.positions id).alive = 1 := by
  rcases onward with ⟨-, here, -⟩ | ⟨lower, -⟩
  · rw [here]
    rfl
  · cases here : before.positions id with
    | exited =>
        rw [here] at lower
        exact (Nat.not_lt_zero _ lower).elim
    | _ => rfl

/-- Nobody who has ended comes back. -/
theorem Moves.alive_le
    (moves : Moves before label after events)
    (other : Fin workers) :
    (after.positions other).alive ≤ (before.positions other).alive := by
  cases moves with
  | none notOf same => rw [same]
  | thread id position owner moved onward =>
      rw [moved]
      by_cases same : other = id
      · subst same
        rw [Function.update_self, onward.alive]
        exact position.alive_le_one
      · rw [Function.update_of_ne same]

theorem Moves.living_le
    (moves : Moves before label after events) :
    living after ≤ living before :=
  Finset.sum_le_sum fun other _ => moves.alive_le other

/-- A worker that ends is one less. -/
theorem Moves.living_lt
    (moves : Moves before label after events)
    {id : Fin workers}
    (alive : (before.positions id).isExited = false)
    (exited : (after.positions id).isExited = true) :
    living after < living before := by
  apply Finset.sum_lt_sum fun other _ => moves.alive_le other
  refine ⟨id, Finset.mem_univ id, ?_⟩
  simp [WorkerPosition.alive, alive, exited]

/-- No step puts a task that is queued further back. -/
theorem Effect.queued
    {task : Nat}
    (orderly : before.Orderly)
    (effect : Effect before after events)
    (queued : task ∈ before.queue) :
    task ∉ after.queue ∨
      task ∈ after.queue ∧
        after.queue.idxOf task ≤ before.queue.idxOf task := by
  cases effect with
  | around _ events queue =>
      rw [queue]
      exact .inr ⟨queued, le_refl _⟩
  | submitted resultType =>
      refine .inr ⟨List.mem_append_left _ queued, ?_⟩
      exact (List.idxOf_append_of_mem queued).le
  | taken id first rest here queue =>
      change task ∉ rest ∨ task ∈ rest ∧ rest.idxOf task ≤ _
      rw [queue] at queued ⊢
      by_cases same : first = task
      · subst same
        have once := orderly.heldOnce.queueNodup
        rw [queue] at once
        exact .inl (List.nodup_cons.mp once).1
      · refine .inr ⟨(List.mem_cons.mp queued).resolve_left (Ne.symm same), ?_⟩
        rw [List.idxOf_cons_ne _ same]
        exact Nat.le_succ _
  | exited id idle =>
      rcases exit_cases before id with shape | shape
      · rw [shape]
        exact .inr ⟨queued, le_refl _⟩
      · rw [shape]
        exact .inl List.not_mem_nil
  | _ => exact .inr ⟨queued, le_refl _⟩

theorem ahead_le
    {task : Nat}
    (living : living after ≤ living before)
    (index : after.queue.idxOf task ≤ before.queue.idxOf task) :
    ahead task after ≤ ahead task before :=
  Prod.Lex.toLex_le_toLex.mpr
    (living.lt_or_eq.imp_right fun same => ⟨same, index⟩)

/-- A worker about to receive takes the first task of the queue. -/
theorem receives
    {id : Fin workers}
    {first : Nat}
    {rest : List Nat}
    (here : before.positions id = .receiving)
    (queue : before.queue = first :: rest)
    (own : label.isOf id = true)
    (step :
      (machine workers Value).step? before label = some (after, events)) :
    after.queue = rest := by
  cases label with
  | worker other =>
      obtain rfl : other = id := eq_of_beq own
      simp only [machine, workerStep?, here, queue] at step
      cases step
      rfl
  | timeout other | jobEnds other outcome | dropPanics other =>
      obtain rfl : other = id := eq_of_beq own
      simp [machine, here, queue] at step
  | _ => cases own

/-- A worker brings a queued task forward, or comes closer to receiving. -/
theorem step_queued
    {task : Nat}
    {id : Fin workers}
    (orderly : before.Orderly)
    (queued : task ∈ before.queue)
    (alive : (before.positions id).isExited = false)
    (step :
      (machine workers Value).step? before label = some (after, events)) :
    (task ∉ after.queue ∨ ahead task after < ahead task before) ∨
      (task ∈ after.queue ∧
          ahead task after = ahead task before ∧
          (after.positions id).isExited = false) ∧
        (after.positions id).untilReceive ≤
          (before.positions id).untilReceive ∧
        (label.isOf id = true →
          (after.positions id).untilReceive <
            (before.positions id).untilReceive) := by
  have moves := (step_moves step).1
  obtain left | ⟨still, index⟩ :=
    (effect_of_step step).queued orderly queued
  · exact .inl (.inl left)
  obtain less | same :=
    (ahead_le moves.living_le index).lt_or_eq
  · exact .inl (.inr less)
  -- nobody has ended, and nothing has been taken
  have remains : (after.positions id).isExited = false := by
    by_contra exited
    have fewer :=
      moves.living_lt alive (Bool.eq_true_of_not_eq_false exited)
    have less : ahead task after < ahead task before :=
      Prod.Lex.toLex_lt_toLex.mpr (.inl fewer)
    exact less.ne same
  refine .inr ⟨⟨still, same, remains⟩, ?_⟩
  cases own : label.isOf id with
  | false =>
      have unmoved := moves.unmoved own
      rw [unmoved]
      exact ⟨le_refl _, by simp⟩
  | true =>
      have closer :
          (after.positions id).untilReceive <
            (before.positions id).untilReceive := by
        by_cases here : before.positions id = .receiving
        · obtain ⟨first, rest, queue⟩ :=
            List.exists_cons_of_ne_nil (List.ne_nil_of_mem queued)
          have taken := receives here queue own step
          rw [taken] at still
          have different : first ≠ task := by
            rintro rfl
            have once := orderly.heldOnce.queueNodup
            rw [queue] at once
            exact (List.nodup_cons.mp once).1 still
          have forward :
              after.queue.idxOf task < before.queue.idxOf task := by
            rw [taken, queue, List.idxOf_cons_ne _ different]
            exact Nat.lt_succ_self _
          have less : ahead task after < ahead task before :=
            Prod.Lex.toLex_lt_toLex.mpr
              (moves.living_le.lt_or_eq.imp_right fun same =>
                ⟨same, forward⟩)
          exact (less.ne same).elim
        · rw [WorkerPosition.untilReceive_of_ne_receiving here]
          rcases moves.own own with ⟨-, top, receiving⟩ | ⟨lower, -⟩
          · rw [top, receiving]
            exact Nat.one_pos
          · exact (WorkerPosition.untilReceive_le_rank _).trans_lt lower
      exact ⟨closer.le, fun _ => closer⟩

/-- Every queued task leaves the queue. -/
theorem leaves_queue
    (execution : Machine.Execution (machine workers Value))
    (fair : ∀ id, execution.Fair (Label.isOf id))
    {time : Nat}
    (task : Nat)
    (orderly : (execution.states time).Orderly) :
    ∃ later, time ≤ later ∧ task ∉ (execution.states later).queue := by
  have orderlyAt (later : Nat) (notBefore : time ≤ later) :
      (execution.states later).Orderly :=
    execution.invariant Orderly (fun orderly step => orderly.step step)
      notBefore orderly
  apply execution.eventually_by_rank (ahead task)
    (fun scheduler => task ∉ scheduler.queue)
  intro moment notBefore
  by_cases queued : task ∈ (execution.states moment).queue
  · -- the last worker has not ended: it would have discarded the queue
    have someone :
        ∃ id,
          ((execution.states moment).positions id).isExited = false := by
      by_contra nobody
      have gone : (execution.states moment).receiversGone = true := by
        simpa [receiversGone] using nobody
      rw [(orderlyAt moment notBefore).lifecycle.discarded gone] at queued
      cases queued
    obtain ⟨id, alive⟩ := someone
    apply (fair id).reaches
      (fun scheduler =>
        scheduler.Orderly ∧
          task ∈ scheduler.queue ∧
          ahead task scheduler = ahead task (execution.states moment) ∧
          (scheduler.positions id).isExited = false)
      (fun scheduler =>
        task ∉ scheduler.queue ∨
          ahead task scheduler < ahead task (execution.states moment))
      (fun scheduler => (scheduler.positions id).untilReceive)
    · rintro later since ⟨stillOrderly, stillQueued, alike, stillAlive⟩
      have step := execution.valid later
      rw [← alike]
      exact (step_queued stillOrderly stillQueued stillAlive step).imp_right
        fun moved => ⟨⟨stillOrderly.step step, moved.1⟩, moved.2⟩
    · rintro scheduler ⟨stillOrderly, -, -, stillAlive⟩
      exact enabled_of_not_isExited stillOrderly.unanswered stillAlive
    · exact ⟨orderlyAt moment notBefore, queued, rfl, alive⟩
  · exact ⟨moment, le_refl moment, .inl queued⟩

/-! ## The task in the hands of a worker -/

/-- Accepted tasks stay accepted. -/
theorem Effect.accepted
    {task : Nat}
    (effect : Effect before after events)
    (accepted : task < before.tasks.length) :
    task < after.tasks.length := by
  obtain ⟨cell, there, -⟩ :=
    effect.keepsTypes task _ (List.getElem?_eq_getElem accepted)
  exact (List.getElem?_eq_some_iff.mp there).1

/-- A task that is in the queue no more does not come back. -/
theorem Effect.unqueued
    {task : Nat}
    (effect : Effect before after events)
    (accepted : task < before.tasks.length)
    (unqueued : task ∉ before.queue) :
    task ∉ after.queue := by
  cases effect with
  | around _ events queue =>
      rw [queue]
      exact unqueued
  | submitted resultType =>
      have fresh : task ≠ before.tasks.length := Nat.ne_of_lt accepted
      simp [unqueued, fresh]
  | taken id first rest here queue =>
      rw [queue] at unqueued
      exact fun later => unqueued (List.mem_cons_of_mem first later)
  | exited id idle =>
      rcases exit_cases before id with shape | shape
      · rw [shape]
        exact unqueued
      · rw [shape]
        exact List.not_mem_nil
  | _ => exact unqueued

theorem Label.isOf_unique
    {id other : Fin workers}
    (own : label.isOf id = true)
    (ownOther : label.isOf other = true) :
    id = other := by
  cases label with
  | worker | timeout | jobEnds | dropPanics =>
      exact (eq_of_beq own).symm.trans (eq_of_beq ownOther)
  | _ => cases own

/-- A worker with a task comes closer to letting go of it. -/
theorem step_held
    {task : Nat}
    {id : Fin workers}
    (orderly : before.Orderly)
    (accepted : task < before.tasks.length)
    (unqueued : task ∉ before.queue)
    (held : (before.positions id).task? = some task)
    (step :
      (machine workers Value).step? before label = some (after, events)) :
    after.holdsResultSender task = false ∨
      (after.positions id).task? = some task ∧
        (after.positions id).rank ≤ (before.positions id).rank ∧
        (label.isOf id = true →
          (after.positions id).rank < (before.positions id).rank) := by
  have moves := (step_moves step).1
  cases own : label.isOf id with
  | false =>
      rw [moves.unmoved own]
      exact .inr ⟨held, le_refl _, by simp⟩
  | true =>
      rcases moves.own own with ⟨-, top, -⟩ | ⟨lower, -⟩
      · rw [top] at held
        cases held
      by_cases still : (after.positions id).task? = some task
      · exact .inr ⟨still, lower.le, fun _ => lower⟩
      · -- nobody else has had the task
        refine .inl (Bool.eq_false_iff.mpr fun holds => ?_)
        obtain ⟨other, there⟩ :=
          (holdsResultSender_iff.mp holds).resolve_left
            ((effect_of_step step).unqueued accepted unqueued)
        by_cases same : other = id
        · subst same
          exact still there
        · have notOwn : label.isOf other = false :=
            Bool.eq_false_iff.mpr fun ownOther =>
              same (Label.isOf_unique ownOther own)
          rw [moves.unmoved notOwn] at there
          exact same (orderly.heldOnce.alone other id task there held)

/-- A task that has left the queue is let go of. -/
theorem released
    (execution : Machine.Execution (machine workers Value))
    (fair : ∀ id, execution.Fair (Label.isOf id))
    {time task : Nat}
    (orderly : (execution.states time).Orderly)
    (accepted : task < (execution.states time).tasks.length)
    (unqueued : task ∉ (execution.states time).queue) :
    ∃ later, time ≤ later ∧
      (execution.states later).holdsResultSender task = false := by
  cases holds : (execution.states time).holdsResultSender task with
  | false => exact ⟨time, le_refl time, holds⟩
  | true =>
      obtain ⟨id, held⟩ :=
        (holdsResultSender_iff.mp holds).resolve_left unqueued
      apply (fair id).reaches
        (fun scheduler =>
          scheduler.Orderly ∧
            (task < scheduler.tasks.length ∧ task ∉ scheduler.queue) ∧
            (scheduler.positions id).task? = some task)
        (fun scheduler => scheduler.holdsResultSender task = false)
        (fun scheduler => (scheduler.positions id).rank)
      · rintro later since ⟨stillOrderly, out, stillHeld⟩
        have step := execution.valid later
        exact (step_held stillOrderly out.1 out.2 stillHeld step).imp_right
          fun moved =>
            ⟨⟨stillOrderly.step step,
                ⟨(effect_of_step step).accepted out.1,
                  (effect_of_step step).unqueued out.1 out.2⟩, moved.1⟩,
              moved.2⟩
      · rintro scheduler ⟨stillOrderly, -, stillHeld⟩
        apply enabled_of_not_isExited stillOrderly.unanswered
        cases here : (scheduler.positions id) <;>
          simp_all [WorkerPosition.task?, WorkerPosition.isExited]
      · exact ⟨orderly, ⟨accepted, unqueued⟩, held⟩

/-- A task that nobody holds is never held again. -/
theorem unheld_step
    {task : Nat}
    (accepted : task < before.tasks.length)
    (unheld : before.holdsResultSender task = false)
    (step :
      (machine workers Value).step? before label = some (after, events)) :
    task < after.tasks.length ∧ after.holdsResultSender task = false := by
  have apart
      {scheduler : ComputeScheduler workers Value} :
      scheduler.holdsResultSender task = false ↔
        task ∉ scheduler.queue ∧
          ∀ id, (scheduler.positions id).task? ≠ some task := by
    rw [← Bool.not_eq_true, holdsResultSender_iff, not_or, not_exists]
  rw [apart] at unheld ⊢
  exact unread_step reads_task (effect_of_step step) accepted unheld

/--
Where no worker and no job is left alone for ever, every accepted task is
answered: from some time on `recv` on its handle returns at once, whatever else
is submitted, cancelled or shut down meanwhile.
-/
theorem accepted_answered
    (execution : Machine.Execution (machine workers Value))
    (fair : ∀ id, execution.Fair (Label.isOf id))
    {time : Nat}
    {log : List (Event Value)}
    (reached :
      Machine.Run (machine workers Value) (new workers Value) log
        (execution.states time))
    {task : Nat}
    (accepted : .submitted task ∈ log) :
    ∃ answered, time ≤ answered ∧
      ∀ later, answered ≤ later →
        ∀ cell,
          (execution.states later).tasks[task]? = some cell →
          cell.handleDropped = false →
          ReceiveReturns (execution.states later) task := by
  have orderly : (execution.states time).Orderly :=
    reached.invariant Orderly (fun orderly step => orderly.step step)
      orderly_new
  have submitted := submitted_lt reached accepted
  obtain ⟨left, notBefore, unqueued⟩ :=
    leaves_queue execution fair task orderly
  have orderlyThen :=
    execution.invariant Orderly (fun orderly step => orderly.step step)
      notBefore orderly
  have submittedAt (later : Nat) (since : time ≤ later) :=
    execution.invariant (fun scheduler => task < scheduler.tasks.length)
      (fun submitted step => (effect_of_step step).accepted submitted)
      since submitted
  obtain ⟨answered, since, unheld⟩ :=
    released execution fair orderlyThen (submittedAt left notBefore) unqueued
  have late := notBefore.trans since
  refine ⟨answered, late, fun later onward cell there kept => ?_⟩
  have stillUnheld :=
    execution.invariant
      (fun scheduler =>
        task < scheduler.tasks.length ∧
          scheduler.holdsResultSender task = false)
      (fun unheld step => unheld_step unheld.1 unheld.2 step)
      onward ⟨submittedAt answered late, unheld⟩
  exact receiveReturns_of_released there kept (.inr stillUnheld.2)

end Answered

theorem accepted_answered_discarded :
    ∃ (execution : Machine.Execution (machine 1 Nat)) (log : _),
      (machine 1 Nat).run? (new 1 Nat) (stoppedInJob 0) =
          some (execution.states 0, log) ∧
        ∃ answered, ∀ later, answered ≤ later →
          ∀ cell,
            (execution.states later).tasks[1]? = some cell →
            cell.handleDropped = false →
            ReceiveReturns (execution.states later) 1 := by
  obtain ⟨stopped, log, final, later, executed, submitted, onward, idle,
      exited⟩ :
      ∃ stopped log final later,
        (machine 1 Nat).run? (new 1 Nat) (stoppedInJob 0) =
            some (stopped, log) ∧
          .submitted 1 ∈ log ∧
          (machine 1 Nat).run? stopped (jobReturns 0) = some (final, later) ∧
          (machine 1 Nat).step? final (.spawnCompute 0 false) =
            some (final, [.refused .schedulerShutdown]) ∧
          final.positions 0 = .exited :=
    ⟨_, _, _, _, rfl, .tail _ (.head _), rfl, rfl, rfl⟩
  obtain ⟨execution, rfl, fair⟩ :=
    Machine.Execution.exists_of_run? (jobReturns 0) onward _ idle
  have fairly (id : Fin 1) : execution.Fair (Label.isOf id) := by
    obtain rfl : id = 0 := Subsingleton.elim id 0
    exact (fair _ _ fun enabled => not_enabled_of_exited exited enabled.2).fair
  obtain ⟨answered, -, returns⟩ :=
    accepted_answered execution fairly (Machine.run?_sound _ executed)
      submitted
  exact ⟨execution, log, executed, answered, returns⟩

/-! ## Tasks are taken in the order of their submission -/

namespace Event

/-- The task a submission has queued. -/
def submitted? : Event Value → Option Nat
  | .submitted task => some task
  | _ => none

/-- The task a worker has taken. -/
def taken? : Event Value → Option Nat
  | .taken task => some task
  | _ => none

end Event

/-- Accepted tasks, in the order of their submission. -/
def submittedTasks (log : List (Event Value)) : List Nat :=
  log.filterMap Event.submitted?

/-- Tasks that workers have taken, in order. -/
def takenTasks (log : List (Event Value)) : List Nat :=
  log.filterMap Event.taken?

theorem takenTasks_append (log later : List (Event Value)) :
    takenTasks (log ++ later) = takenTasks log ++ takenTasks later :=
  List.filterMap_append

theorem submittedTasks_append (log later : List (Event Value)) :
    submittedTasks (log ++ later) =
      submittedTasks log ++ submittedTasks later :=
  List.filterMap_append

/-- What a state owes to the log that led to it. -/
structure InOrder
    (log : List (Event Value))
    (scheduler : ComputeScheduler workers Value) : Prop where
  taken : takenTasks log <+: submittedTasks log
  /-- Nothing is skipped, and nothing discarded while a worker lives. -/
  waiting :
    scheduler.receiversGone = false →
    submittedTasks log = takenTasks log ++ scheduler.queue

/-- A living worker keeps the queue from being discarded. -/
theorem exit_queue
    {scheduler : ComputeScheduler workers Value}
    {id : Fin workers}
    (someone : (scheduler.exit id).receiversGone = false) :
    (scheduler.exit id).queue = scheduler.queue := by
  unfold exit at someone ⊢
  dsimp only at someone ⊢
  split at someone
  · rename_i gone
    exact (Bool.eq_false_iff.mp someone gone).elim
  · rename_i living
    rw [if_neg living]
    rfl

/-- Every step keeps the order. -/
theorem InOrder.step
    {before after : ComputeScheduler workers Value}
    {log events : List (Event Value)}
    (inOrder : InOrder log before)
    (effect : Effect before after events) :
    InOrder (log ++ events) after := by
  have someoneBefore (someone : after.receiversGone = false) :
      before.receiversGone = false :=
    Bool.eq_false_iff.mpr fun gone =>
      Bool.eq_false_iff.mp someone (gone_of_gone gone effect)
  -- most steps neither submit nor take
  have silent
      (noneTaken : takenTasks events = [])
      (noneSubmitted : submittedTasks events = [])
      (queue : after.receiversGone = false → after.queue = before.queue) :
      InOrder (log ++ events) after := by
    constructor
    · rw [takenTasks_append, submittedTasks_append, noneTaken,
        noneSubmitted, List.append_nil, List.append_nil]
      exact inOrder.taken
    · intro someone
      rw [takenTasks_append, submittedTasks_append, noneTaken,
        noneSubmitted, List.append_nil, List.append_nil, queue someone]
      exact inOrder.waiting (someoneBefore someone)
  cases effect with
  | around _ events queue positions tasks shown =>
      apply silent
      · refine List.filterMap_eq_nil_iff.mpr fun event member => ?_
        rcases shown event member with rfl | rfl <;> rfl
      · refine List.filterMap_eq_nil_iff.mpr fun event member => ?_
        rcases shown event member with rfl | rfl <;> rfl
      · exact fun _ => queue
  | submitted resultType =>
      have none :
          takenTasks [(.submitted before.tasks.length : Event Value)] = [] :=
        rfl
      constructor
      · rw [takenTasks_append, submittedTasks_append, none, List.append_nil]
        exact inOrder.taken.trans (List.prefix_append _ _)
      · intro someone
        rw [takenTasks_append, submittedTasks_append, none, List.append_nil,
          inOrder.waiting (someoneBefore someone), List.append_assoc]
        rfl
  | taken id task rest here queue =>
      have someone : before.receiversGone = false := by
        refine Bool.eq_false_iff.mpr fun gone => ?_
        rw [receiversGone_iff.mp gone id] at here
        cases here
      have waiting := inOrder.waiting someone
      rw [queue] at waiting
      have shape :
          submittedTasks (log ++ [.taken task]) =
            takenTasks (log ++ [.taken task]) ++ rest := by
        have none : submittedTasks [(.taken task : Event Value)] = [] := rfl
        rw [takenTasks_append, submittedTasks_append, none, List.append_nil,
          waiting, List.append_assoc]
        rfl
      exact ⟨⟨rest, shape.symm⟩, fun _ => shape⟩
  | exited id idle => exact silent rfl rfl exit_queue
  | _ => exact silent rfl rfl fun _ => rfl

/--
Workers take the accepted tasks in the order of their submission: what has been
taken is an initial part of what was submitted, and while any worker lives the
rest is what is queued.
-/
theorem taken_in_order
    {log : List (Event Value)}
    {scheduler : ComputeScheduler workers Value}
    (run :
      Machine.Run (machine workers Value) (new workers Value) log scheduler) :
    InOrder log scheduler :=
  run.history InOrder
    (fun inOrder step => inOrder.step (effect_of_step step))
    ⟨List.prefix_refl [], fun _ => rfl⟩

theorem taken_in_order_discarded :
    ∃ scheduler log,
      (machine 1 Nat).run? (new 1 Nat) (stoppedInJob 0 ++ jobReturns 0) =
          some (scheduler, log) ∧
        takenTasks log = [0] ∧
        submittedTasks log = [0, 1] ∧
        InOrder log scheduler := by
  obtain ⟨scheduler, log, executed, taken, submitted⟩ :
      ∃ scheduler log,
        (machine 1 Nat).run? (new 1 Nat) (stoppedInJob 0 ++ jobReturns 0) =
            some (scheduler, log) ∧
          takenTasks log = [0] ∧
          submittedTasks log = [0, 1] :=
    ⟨_, _, rfl, rfl, rfl⟩
  exact ⟨scheduler, log, executed, taken, submitted,
    taken_in_order (Machine.run?_sound _ executed)⟩

end ComputeScheduler

end Runact.Compute
