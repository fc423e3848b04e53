import Runact.LoopDescent
import Runact.PoolThreads

namespace Runact

/-!
# `shutdown` joins the workers

Once `Runtime::shutdown` has cleared the senders it waits for the workers.  If no
handler runs for ever and no thread is left alone for ever, all loops that were
started come to an end then, and the workers are joined.
-/

universe u

variable {Value State Frame : Type u}

namespace ActorPool

variable {workers : Nat} [NeZero workers]

variable {before after : ActorPool workers Value State Frame}
  {label : Label workers Value State Frame}
  {events : List (RuntimeEvent Value)}

/-! ## The workers while `shutdown` waits for them -/

/-- The runtime while `shutdown` waits for the workers. -/
structure Ending (runtime : Runtime Value State Frame) : Prop where
  past : runtime.PastSenders
  terminates :
    ∀ (index : Nat) (cell : ActorCell Value State Frame),
      runtime.cells[index]? = some cell → cell.actor.Terminates

/-- The pool while `shutdown` waits for the workers, and after that. -/
structure Winding
    (capacity : Nat)
    (pool : ActorPool workers Value State Frame) : Prop where
  reached :
    ∃ log,
      Machine.Run (machine workers Value State Frame)
        (withConfig workers Value State Frame capacity) log pool
  stopping : pool.scheduler.stop = true
  ending : Ending pool.runtime ∨ AllOut pool

/-- What is known of the runtime while `shutdown` waits for the workers. -/
structure Waits
    (pool : ActorPool workers Value State Frame) : Prop where
  placed : Placed pool
  cleared : pool.runtime.Cleared
  stopping : pool.runtime.stop = true
  settles :
    ∀ (index : Nat) (cell : ActorCell Value State Frame),
      pool.runtime.cells[index]? = some cell →
      cell.position.Settles cell.actor

theorem waits_of_ending
    {capacity : Nat}
    {log : List (RuntimeEvent Value)}
    {pool : ActorPool workers Value State Frame}
    (run :
      Machine.Run (machine workers Value State Frame)
        (withConfig workers Value State Frame capacity) log pool)
    (ending : Ending pool.runtime) :
    Waits pool where
  placed := run_placed run
  cleared := Runtime.run_cleared (run_inRuntime run) ending.past
  stopping := by
    by_contra running
    have idle := ((run_joined run).1 (by simpa using running)).1
    rcases ending.past with phase | phase <;>
      · rw [idle] at phase
        cases phase
  settles index cell here := by
    obtain ⟨initial, -, serial⟩ :=
      Runtime.run_serial (run_inRuntime run) index cell here
    exact ActorCell.settles_of_serial (ending.terminates index cell here)
      serial

omit [NeZero workers] in
/-- Past the clearing nothing is spawned. -/
theorem not_spawn_of_past
    (past : before.runtime.PastSenders)
    {own : Runtime.Label Value State Frame}
    {runtime : Runtime Value State Frame}
    (step :
      (Runtime.machine Value State Frame).step? before.runtime own =
        some (runtime, events))
    (actor : Actor Value State Frame)
    (state : State) :
    own ≠ .spawn actor state := by
  rintro rfl
  simp only [Runtime.machine, Option.ite_none_right_eq_some] at step
  rcases past with phase | phase <;>
    · rw [step.1.1] at phase
      cases phase

/-- While `shutdown` waits for the workers, a loop is changed by nobody else and
keeps its actor. -/
theorem Waits.step_cell
    (waits : Waits before)
    (past : before.runtime.PastSenders)
    (step :
      (machine workers Value State Frame).step? before label =
        some (after, events))
    (index : Nat) :
    after.runtime.cells[index]? = before.runtime.cells[index]? ∨
      ∃ id cell moved,
        label.isOf id = true ∧
          before.scheduler.positions id = .running index ∧
          before.runtime.cells[index]? = some cell ∧
          after.runtime.cells[index]? = some moved ∧
          moved.actor = cell.actor ∧
          moved.remains < cell.remains := by
  have taken := step_inRuntime step
  cases seen : label.inRuntime? before with
  | none =>
      rw [seen] at taken
      exact .inl (by rw [taken.1])
  | some own =>
      rw [seen] at taken
      by_cases mine : ∃ answer, own = .loop index answer
      · obtain ⟨answer, rfl⟩ := mine
        obtain ⟨id, isOf, running⟩ := inRuntime?_eq_loop seen
        obtain ⟨cell, here, effect⟩ := Runtime.loopStep_cases taken
        obtain ⟨moved, there, sameActor, less⟩ :=
          effect.remains_lt here waits.cleared waits.stopping
            (waits.settles index cell here)
        exact .inr
          ⟨id, cell, moved, isOf, running, here, there, sameActor, less⟩
      · exact .inl
          ((waits.cleared.frame taken (not_spawn_of_past past taken)).2.2
            index fun answer same => mine ⟨answer, same⟩)

/-- No step makes a handler run for ever. -/
theorem Ending.terminates_step
    {capacity : Nat}
    {log : List (RuntimeEvent Value)}
    (ending : Ending before.runtime)
    (run :
      Machine.Run (machine workers Value State Frame)
        (withConfig workers Value State Frame capacity) log before)
    (step :
      (machine workers Value State Frame).step? before label =
        some (after, events))
    (index : Nat)
    (cell : ActorCell Value State Frame)
    (there : after.runtime.cells[index]? = some cell) :
    cell.actor.Terminates := by
  obtain same | ⟨id, old, moved, -, -, here, found, sameActor, -⟩ :=
    (waits_of_ending run ending).step_cell ending.past step index
  · exact ending.terminates index cell (same ▸ there)
  · obtain rfl : cell = moved := Option.some.inj (there.symm.trans found)
    rw [sameActor]
    exact ending.terminates index old here

/-- `shutdown` goes on waiting, or all worker threads have ended. -/
theorem Winding.step
    {capacity : Nat}
    (winding : Winding capacity before)
    (step :
      (machine workers Value State Frame).step? before label =
        some (after, events)) :
    Winding capacity after where
  reached := by
    obtain ⟨log, run⟩ := winding.reached
    exact ⟨log ++ events, run.snoc label step⟩
  stopping := (effect_of_step step).workersStop winding.stopping
  ending := by
    obtain ending | out := winding.ending
    · obtain ⟨log, run⟩ := winding.reached
      have terminates := ending.terminates_step run step
      cases shutdown : label.isShutdown with
      | false =>
          refine .inl ⟨?_, terminates⟩
          rw [Runtime.PastSenders, step_shutdownPhase step shutdown]
          exact ending.past
      | true =>
          obtain ⟨-, phase⟩ | ⟨-, -, out⟩ :=
            step_shutdown_cases step shutdown ending.past
          · exact .inl ⟨.inr phase, terminates⟩
          · exact .inr (out.step step)
    · exact .inr (out.step step)

/-! ## The workers come to an end -/

/-- Where a worker stands, with the loop it is inside of. -/
def standing
    (pool : ActorPool workers Value State Frame)
    (id : Fin workers) :
    WorkerPosition workers Nat × Option (ActorCell Value State Frame) :=
  (pool.scheduler.positions id,
    match pool.scheduler.positions id with
    | .running index => pool.runtime.cells[index]?
    | _ => none)

/-- What is left of a worker thread: its iteration, and the loop it is inside
of. -/
noncomputable def standingRank :
    WorkerPosition workers Nat × Option (ActorCell Value State Frame) →
      (ℕ ×ₗ ℕ) ×ₗ (ℕ ×ₗ ℕ ×ₗ Ordinal.{u})
  | (position, some cell) => toLex (position.rank, cell.remains)
  | (position, none) => toLex (position.rank, toLex (0, toLex (0, 0)))

omit [NeZero workers] in
theorem standingRank_lt
    {first second : WorkerPosition workers Nat}
    (lower : first.rank < second.rank)
    (one other : Option (ActorCell Value State Frame)) :
    standingRank (first, one) < standingRank (second, other) := by
  cases one <;> cases other <;>
    exact Prod.Lex.toLex_lt_toLex.mpr (.inl lower)

omit [NeZero workers] in
theorem standing_of_running
    {pool : ActorPool workers Value State Frame}
    {id : Fin workers}
    {index : Nat}
    (running : pool.scheduler.positions id = .running index) :
    standing pool id =
      (.running index, pool.runtime.cells[index]?) := by
  simp only [standing, running]

omit [NeZero workers] in
theorem standing_of_not_running
    {pool : ActorPool workers Value State Frame}
    {id : Fin workers}
    (outside : ∀ index, pool.scheduler.positions id ≠ .running index) :
    standing pool id = (pool.scheduler.positions id, none) := by
  unfold standing
  split
  · exact absurd ‹_› (outside _)
  · rfl

/-- The steps of others leave a worker and its loop alone. -/
theorem Winding.unmoved
    {capacity : Nat}
    {id : Fin workers}
    (winding : Winding capacity before)
    (step :
      (machine workers Value State Frame).step? before label =
        some (after, events))
    (other : label.isOf id = false) :
    standing after id = standing before id := by
  have same := step_positions_other step other
  by_cases inside : ∃ index, before.scheduler.positions id = .running index
  · obtain ⟨index, running⟩ := inside
    rw [standing_of_running running, standing_of_running (same.trans running)]
    obtain ending | out := winding.ending
    · obtain ⟨log, run⟩ := winding.reached
      have waits := waits_of_ending run ending
      obtain still | ⟨own, cell, moved, isOf, again, -⟩ :=
        waits.step_cell ending.past step index
      · rw [still]
      · obtain rfl : own = id :=
          Scheduler.running_unique waits.placed.once again running
        rw [isOf] at other
        cases other
    · have ended := out id
      rw [running] at ended
      cases ended
  · have outside (index : Nat) :
        before.scheduler.positions id ≠ .running index :=
      fun running => inside ⟨index, running⟩
    rw [standing_of_not_running outside,
      standing_of_not_running fun index running =>
        outside index (same.symm.trans running), same]

/-- Every step of a worker's own leaves less of it. -/
theorem Winding.lowered
    {capacity : Nat}
    {id : Fin workers}
    (winding : Winding capacity before)
    (step :
      (machine workers Value State Frame).step? before label =
        some (after, events))
    (own : label.isOf id = true) :
    standingRank (standing after id) < standingRank (standing before id) := by
  cases label with
  | worker other =>
      obtain rfl : other = id := eq_of_beq own
      obtain ⟨scheduler, shown, moved, rfl, -⟩ := step_worker step
      have step :
          (Scheduler.machine workers Nat).step? before.scheduler
              (.worker other) =
            some (scheduler, shown) :=
        Scheduler.workerStep?_iff.mpr moved
      have lower : (scheduler.positions other).rank <
          (before.scheduler.positions other).rank :=
        Scheduler.step_rank_lt winding.stopping step (beq_self_eq_true other)
      exact standingRank_lt lower _ _
  | loop other answer =>
      obtain rfl : other = id := eq_of_beq own
      obtain ⟨index, cell, running, here, moved, leaves⟩ := step_loop step
      have position : (before.scheduler.positions other).rank =
          toLex (2, 0) := by
        rw [running]
        rfl
      generalize cell.position = place at leaves
      generalize next : after.scheduler = scheduler at leaves
      cases leaves with
      | stays notLeaving notUnwinding =>
          obtain ending | out := winding.ending
          · obtain ⟨log, run⟩ := winding.reached
            have waits := waits_of_ending run ending
            obtain ⟨same, found, effect⟩ := Runtime.loopStep_cases moved
            obtain rfl : cell = same := Option.some.inj (here.symm.trans found)
            obtain ⟨now, there, -, less⟩ :=
              effect.remains_lt here waits.cleared waits.stopping
                (waits.settles index cell here)
            rw [standing_of_running running,
              standing_of_running (by rw [next]; exact running), here, there]
            exact Prod.Lex.toLex_lt_toLex.mpr (.inr ⟨rfl, less⟩)
          · have ended := out other
            rw [running] at ended
            cases ended
      | returns | unwinds =>
          apply standingRank_lt
          rw [next, Scheduler.setPosition_positions_self, position]
          simp [WorkerPosition.rank, Prod.Lex.toLex_lt_toLex]
  | _ => cases own

/-- The workers while `shutdown` waits for them. -/
noncomputable def windingThreads
    (workers : Nat) [NeZero workers]
    (Value State Frame : Type u)
    (capacity : Nat) :
    Machine.Threads (machine workers Value State Frame) (Fin workers)
      (WorkerPosition workers Nat × Option (ActorCell Value State Frame))
      ((ℕ ×ₗ ℕ) ×ₗ (ℕ ×ₗ ℕ ×ₗ Ordinal.{u})) where
  position := standing
  owns := Label.isOf
  rank := standingRank
  ended place := place.1.isOut
  good := Winding capacity
  preserved winding step := winding.step step
  unmoved winding step other := winding.unmoved step other
  lowered winding step own := winding.lowered step own

/-- The loop a worker is inside of does not wait for a requester. -/
def FreeToReply
    (id : Fin workers)
    (pool : ActorPool workers Value State Frame) : Prop :=
  ∀ cell channel,
    (standing pool id).2 = some cell →
    cell.position.replyChannel? = some channel →
    pool.runtime.CanReplyOn channel

/-- A worker that has not ended takes a step, unless its loop waits for a
requester. -/
theorem Winding.enabled
    {capacity : Nat}
    {pool : ActorPool workers Value State Frame}
    {id : Fin workers}
    (winding : Winding capacity pool)
    (notOut : (pool.scheduler.positions id).isOut = false)
    (free : FreeToReply id pool) :
    (machine workers Value State Frame).Enabled pool (Label.isOf id) := by
  obtain ending | out := winding.ending
  · obtain ⟨log, run⟩ := winding.reached
    have waits := waits_of_ending run ending
    by_cases inside : ∃ index, pool.scheduler.positions id = .running index
    · obtain ⟨index, running⟩ := inside
      obtain ⟨cell, here, opened⟩ := waits.placed.running running
      apply enabled_of_loopStep running
      apply Runtime.loopStep_enabled here opened
      · intro _
        by_contra joined
        have out := (run_joined run).2 (by simpa using joined) id
        rw [notOut] at out
        cases out
      · exact (Runtime.sendersFree_iff.mp waits.cleared.free).2 index
          cell.position (by rw [Runtime.loopAt, here]; rfl)
      · exact Runtime.isKeptOut_of_unwaited waits.cleared.unwaited cell
      · intro draining channel message resume replying
        have runtimeRun := run_inRuntime run
        exact Runtime.channel_of_replySender runtimeRun here
          (Runtime.replySender_of_replying runtimeRun here replying)
      · intro channel replying
        refine free cell channel ?_ replying
        rw [standing_of_running running]
        exact here
    · exact enabled_of_outside notOut fun index running =>
        inside ⟨index, running⟩
  · rw [out id] at notOut
    cases notOut

/-! ## Requesters who keep a loop waiting -/

/-- A requester with an unread reply can read it. -/
theorem requester_enabled
    {pool : ActorPool workers Value State Frame}
    {channel : Nat}
    (full : ¬ pool.runtime.CanReplyOn channel) :
    (machine workers Value State Frame).Enabled pool
      (Label.isRequester channel) := by
  obtain ⟨held, found⟩ := not_forall.mp full
  rw [not_not] at found
  refine ⟨.client (.receiveReply channel),
    { pool with
      runtime :=
        pool.runtime.setReply channel
          { buffer := none, handleAlive := true } },
    [.replyReceived channel held], beq_self_eq_true channel, ?_⟩
  simp [machine, isClient, inRuntime, Runtime.machine, found]

/-- A requester who reads its reply, or drops its handle, lets the actor go on. -/
theorem canReplyOn_of_requester
    {channel : Nat}
    (step :
      (machine workers Value State Frame).step? before label =
        some (after, events))
    (requester : label.isRequester channel = true) :
    after.runtime.CanReplyOn channel := by
  have emptied
      {runtime : Runtime Value State Frame}
      {reply found : ReplyChannel Value}
      (there : runtime.replies[channel]? = some found)
      (empty : reply.buffer = none) :
      (runtime.setReply channel reply).CanReplyOn channel := by
    intro held full
    rw [Runtime.setReply, List.getElem?_set_self
      (List.getElem?_eq_some_iff.mp there).1, Option.some.injEq] at full
    rw [full] at empty
    cases empty
  have taken := step_inRuntime step
  cases label with
  | client own =>
      cases own with
      | receiveReply other =>
          obtain rfl : other = channel := eq_of_beq requester
          simp only [Label.inRuntime?, isClient, ↓reduceIte,
            Runtime.machine] at taken
          split at taken
          · simp only [Option.some.injEq, Prod.mk.injEq] at taken
            rw [← taken.1]
            exact emptied ‹_› rfl
          · cases taken
      | dropHandle other =>
          obtain rfl : other = channel := eq_of_beq requester
          simp only [Label.inRuntime?, isClient, ↓reduceIte,
            Runtime.machine] at taken
          split at taken
          · simp only [Option.some.injEq, Prod.mk.injEq] at taken
            rw [← taken.1]
            exact emptied ‹_› rfl
          · cases taken
      | _ => cases requester
  | _ => cases requester

omit [NeZero workers] in
theorem not_own_of_requester
    {channel : Nat}
    {id : Fin workers}
    (requester : label.isRequester channel = true) :
    label.isOf id = false := by
  cases label with
  | client own => rfl
  | _ => cases requester

/-- A worker whose loop can reply, can reply until it does. -/
theorem Winding.freeToReply
    {capacity : Nat}
    {id : Fin workers}
    (winding : Winding capacity before)
    (step :
      (machine workers Value State Frame).step? before label =
        some (after, events))
    (other : label.isOf id = false)
    (free : FreeToReply id before) :
    FreeToReply id after := by
  intro cell channel found replying
  rw [winding.unmoved step other] at found
  have can := free cell channel found replying
  obtain ⟨index, running, here⟩ :
      ∃ index,
        before.scheduler.positions id = .running index ∧
          before.runtime.cells[index]? = some cell := by
    simp only [standing] at found
    split at found
    · exact ⟨_, ‹_›, found⟩
    · cases found
  obtain ⟨log, run⟩ := winding.reached
  have runtimeRun := run_inRuntime run
  have holds : cell.replySender = some channel := by
    cases position : cell.position with
    | replying draining on message resume =>
        rw [position] at replying
        obtain rfl : on = channel := Option.some.inj replying
        exact Runtime.replySender_of_replying runtimeRun here position
    | _ =>
        rw [position] at replying
        cases replying
  have taken := step_inRuntime step
  cases seen : label.inRuntime? before with
  | none =>
      rw [seen] at taken
      rw [taken.1]
      exact can
  | some own =>
      rw [seen] at taken
      refine can.step runtimeRun taken here holds fun answer same => ?_
      subst same
      obtain ⟨somebody, isOf, again⟩ := inRuntime?_eq_loop seen
      obtain rfl : somebody = id :=
        Scheduler.running_unique (run_placed run).once again running
      rw [isOf] at other
      cases other

/-- Where requesters are not left alone for ever, a worker that has not ended
takes a step. -/
theorem Winding.moves
    {capacity : Nat}
    (execution :
      Machine.Execution (machine workers Value State Frame))
    {id : Fin workers}
    (workerFair : execution.Fair (Label.isOf id))
    (requestersFair :
      ∀ channel, execution.Fair (Label.isRequester channel))
    {time : Nat}
    (winding : Winding capacity (execution.states time))
    (notOut :
      ((execution.states time).scheduler.positions id).isOut = false) :
    ∃ later, time ≤ later ∧
      (execution.labels later).isOf id = true := by
  let place := standing (execution.states time) id
  let channel := ((place.2.map ActorCell.position).bind
    LoopPosition.replyChannel?).getD 0
  -- as long as the worker takes no step, it waits for one requester at most
  have waitsFor
      {pool : ActorPool workers Value State Frame}
      (same : standing pool id = place)
      (can : pool.runtime.CanReplyOn channel) :
      FreeToReply id pool := by
    intro cell on found replying
    have only : channel = on := by
      simp only [channel, ← same, found, Option.map_some, Option.bind_some,
        replying, Option.getD_some]
    exact only ▸ can
  refine workerFair.helped (requestersFair channel)
    (fun pool => Winding capacity pool ∧ standing pool id = place)
    (FreeToReply id)
    (fun {before label after events} waiting step other => ?_)
    (fun {pool} waiting free => ?_)
    (fun {pool} waiting notFree => ?_)
    (fun {before label after events} waiting step requester => ?_)
    ⟨winding, rfl⟩
  · exact ⟨⟨waiting.1.step step,
      (waiting.1.unmoved step other).trans waiting.2⟩,
      waiting.1.freeToReply step other⟩
  · refine waiting.1.enabled ?_ free
    have same := congrArg Prod.fst waiting.2
    rw [show pool.scheduler.positions id = _ from same]
    exact notOut
  · exact requester_enabled fun can => notFree (waitsFor waiting.2 can)
  · have other : label.isOf id = false := not_own_of_requester requester
    exact waitsFor ((waiting.1.unmoved step other).trans waiting.2)
      (canReplyOn_of_requester step requester)

/-! ## The workers are joined -/

/-- The `shutdown` call has come that far, past the clearing of the senders. -/
structure Joining
    (capacity : Nat)
    (phase : ShutdownPhase)
    (pool : ActorPool workers Value State Frame) : Prop where
  reached :
    ∃ log,
      Machine.Run (machine workers Value State Frame)
        (withConfig workers Value State Frame capacity) log pool
  ending : Ending pool.runtime
  phase : pool.runtime.shutdownPhase = phase

namespace Joining

variable {capacity : Nat} {phase : ShutdownPhase}
  {pool : ActorPool workers Value State Frame}

/-- It stays there until it takes its next step. -/
theorem step
    (joining : Joining capacity phase before)
    (step :
      (machine workers Value State Frame).step? before label =
        some (after, events))
    (other : label.isShutdown = false) :
    Joining capacity phase after := by
  obtain ⟨log, run⟩ := joining.reached
  have same := step_shutdownPhase step other
  refine ⟨⟨log ++ events, run.snoc label step⟩,
    ⟨?_, joining.ending.terminates_step run step⟩, same.trans joining.phase⟩
  rw [Runtime.PastSenders, same]
  exact joining.ending.past

/-- The senders cleared, the other registry can be. -/
theorem clear_enabled
    (joining : Joining capacity .sendersCleared pool) :
    pool.runtime.shutdownPhase ≠ .idle ∧
      (machine workers Value State Frame).Enabled pool Label.isShutdown := by
  refine ⟨by simp [joining.phase], .shutdown,
    { pool with
      runtime :=
        { pool.runtime with actors := ∅, shutdownPhase := .actorsCleared } },
    [.actorsCleared], rfl, ?_⟩
  simp [machine, joining.phase, inRuntime, Runtime.machine,
    Runtime.shutdownStep?]

/-- The senders cleared, the next step of the call clears the other registry. -/
theorem clears
    (joining : Joining capacity .sendersCleared before)
    (step :
      (machine workers Value State Frame).step? before label =
        some (after, events))
    (own : label.isShutdown = true) :
    Joining capacity .actorsCleared after := by
  obtain ⟨log, run⟩ := joining.reached
  obtain ⟨-, phase⟩ | ⟨phase, -⟩ :=
    step_shutdown_cases step own joining.ending.past
  · exact ⟨⟨log ++ events, run.snoc label step⟩,
      ⟨.inr phase, joining.ending.terminates_step run step⟩, phase⟩
  · rw [joining.phase] at phase
    cases phase

/-- The workers can be told to stop. -/
theorem stop_enabled
    (joining : Joining capacity .actorsCleared pool) :
    (machine workers Value State Frame).Enabled pool Label.isStopWorkers := by
  refine ⟨.stopWorkers,
    { pool with scheduler := { pool.scheduler with stop := true } }, [], rfl,
    ?_⟩
  simp [machine, joining.phase, inScheduler, Scheduler.machine]

theorem winding
    (joining : Joining capacity phase pool)
    (stopping : pool.scheduler.stop = true) :
    Winding capacity pool :=
  ⟨joining.reached, stopping, .inl joining.ending⟩

/-- When all worker threads have ended, every loop has ended or was never
started. -/
theorem workersDone
    (joining : Joining capacity phase pool)
    (out : AllOut pool) :
    pool.runtime.workersDone = true := by
  obtain ⟨log, run⟩ := joining.reached
  refine List.all_eq_true.mpr fun cell member => ?_
  obtain ⟨index, here⟩ := List.mem_iff_getElem?.mp member
  by_contra started
  have opened : cell.position.isEnded = false := by
    cases position : cell.position <;> simp_all [LoopPosition.isEnded]
  have notQueued : cell.position ≠ .queued := by
    intro queued
    simp [queued] at started
  obtain ⟨id, running, -⟩ := (run_placed run).hosted here notQueued opened
  have ended := out id
  rw [running] at ended
  cases ended

/-- When all worker threads have ended, the last step can be taken. -/
theorem shutdown_enabled
    (joining : Joining capacity .actorsCleared pool)
    (stopping : pool.scheduler.stop = true)
    (out : AllOut pool) :
    pool.runtime.shutdownPhase ≠ .idle ∧
      (machine workers Value State Frame).Enabled pool Label.isShutdown := by
  obtain ⟨log, run⟩ := joining.reached
  have cleared := Runtime.run_cleared (run_inRuntime run) (.inr joining.phase)
  have blocked := (Runtime.sendersFree_iff.mp cleared.free).1
  have joined := workersJoined_iff.mpr ⟨stopping, out⟩
  refine ⟨by simp [joining.phase], .shutdown,
    { pool with
      runtime := { pool.runtime with joined := true, shutdownPhase := .idle } },
    [.shutDown], rfl, ?_⟩
  simp [machine, joining.phase, joined, inRuntime, Runtime.machine,
    Runtime.shutdownStep?, joining.workersDone out, blocked]

/-- What the last step says. -/
theorem returns
    (joining : Joining capacity .actorsCleared before)
    (step :
      (machine workers Value State Frame).step? before label =
        some (after, events))
    (own : label.isShutdown = true) :
    events = [.shutDown] ∧
      AllOut before ∧
      ∀ cell ∈ before.runtime.cells,
        cell.position = .queued ∨ cell.position = .ended := by
  obtain ⟨cleared, -⟩ | ⟨-, shown, out⟩ :=
    step_shutdown_cases step own joining.ending.past
  · rw [joining.phase] at cleared
    cases cleared
  · exact ⟨shown, out,
      Runtime.still_of_workersDone (joining.workersDone out)⟩

end Joining

theorem workersStop_of_step
    (step :
      (machine workers Value State Frame).step? before label =
        some (after, events))
    (stops : label.isStopWorkers = true) :
    after.scheduler.stop = true := by
  cases label with
  | stopWorkers =>
      simp only [machine] at step
      split at step
      · cases step
        rfl
      · cases step
  | _ => cases stops

/--
Once `Runtime::shutdown` has cleared the senders it gets past the join of the
workers, if no handler runs for ever and no thread is left alone for ever: not
those of the workers, nor its own, nor a requester who keeps an actor waiting
with an unread reply.  Handlers may panic.  By then all worker threads have
ended, and every loop has ended or was never started.
-/
theorem shutdown_joins_workers
    {capacity : Nat}
    {log : List (RuntimeEvent Value)}
    (execution :
      Machine.Execution (machine workers Value State Frame))
    (reached :
      Machine.Run (machine workers Value State Frame)
        (withConfig workers Value State Frame capacity) log
        (execution.states 0))
    (past : (execution.states 0).runtime.PastSenders)
    (terminates :
      ∀ cell ∈ (execution.states 0).runtime.cells, cell.actor.Terminates)
    (workersFair : ∀ id, execution.Fair (Label.isOf id))
    (shutdownFair :
      execution.FairWhile
        (fun pool => pool.runtime.shutdownPhase ≠ .idle) Label.isShutdown)
    (stopFair : execution.Fair Label.isStopWorkers)
    (requestersFair :
      ∀ channel, execution.Fair (Label.isRequester channel)) :
    ∃ time,
      execution.events time = [.shutDown] ∧
        AllOut (execution.states time) ∧
        ∀ cell ∈ (execution.states time).runtime.cells,
          cell.position = .queued ∨ cell.position = .ended := by
  have begun : Ending (execution.states 0).runtime :=
    ⟨past, fun index cell here => terminates cell (List.mem_of_getElem? here)⟩
  obtain ⟨start, joining⟩ :
      ∃ start, Joining capacity .actorsCleared (execution.states start) := by
    rcases past with phase | phase
    · obtain ⟨clearing, -, own, joining⟩ :=
        shutdownFair.taken (Joining capacity .sendersCleared)
          (fun joining step other => joining.step step other)
          (fun joining => joining.clear_enabled)
          ⟨⟨log, reached⟩, begun, phase⟩
      exact ⟨clearing + 1, joining.clears (execution.valid clearing) own⟩
    · exact ⟨0, ⟨log, reached⟩, begun, phase⟩
  -- as long as the call is not past the join, it stays where it is
  have returns :
      ∃ time, start ≤ time ∧
        (execution.labels time).isShutdown = true := by
    by_contra never
    have idle (moment : Nat) (since : start ≤ moment) :
        (execution.labels moment).isShutdown = false :=
      Bool.eq_false_iff.mpr fun own => never ⟨moment, since, own⟩
    have stays (later : Nat) (since : start ≤ later) :
        Joining capacity .actorsCleared (execution.states later) :=
      Machine.Execution.kept_until (Joining capacity .actorsCleared)
        (fun joining step other => joining.step step other) since joining
        fun moment after _ => idle moment after
    obtain ⟨stopped, since, stops⟩ := stopFair start fun later since =>
      (stays later since).stop_enabled
    have afterStop := since.trans (Nat.le_succ stopped)
    have winding : Winding capacity (execution.states (stopped + 1)) :=
      (stays (stopped + 1) afterStop).winding
        (workersStop_of_step (execution.valid stopped) stops)
    obtain ⟨joined, notBefore, out⟩ :=
      (windingThreads workers Value State Frame capacity).eventually_ended
        execution
        (fun id time winding notOut =>
          Winding.moves execution (workersFair id) requestersFair winding
            notOut)
        (stopped + 1) winding
    obtain ⟨moment, later, own⟩ := shutdownFair joined fun later since => by
      have atThen := notBefore.trans since
      have windingThen :=
        execution.invariant (Winding capacity)
          (fun winding step => winding.step step) atThen winding
      have outThen : AllOut (execution.states later) :=
        execution.invariant AllOut (fun out step => out.step step) since out
      exact (stays later (afterStop.trans atThen)).shutdown_enabled
        windingThen.stopping outThen
    have started := (afterStop.trans notBefore).trans later
    rw [idle moment started] at own
    cases own
  obtain ⟨time, -, own, joining⟩ :=
    Machine.Execution.taken_with (Joining capacity .actorsCleared)
      (fun joining step other => joining.step step other) joining returns
  exact ⟨time, joining.returns (execution.valid time) own⟩

/-- One worker is inside of the loop of an actor with a message, and `shutdown`
has cleared the senders. -/
def clearedInLoop (only : Fin 1) : List (Label 1 Unit Unit Unit) :=
  [.spawn Runtime.idle (), .push 0, .client (.send ⟨1⟩ ⟨0, ()⟩),
    .worker only, .worker only, .loop only 0, .shutdown, .shutdown]

/-- The loop handles its message and ends, and so does its worker, which the
call joins. -/
def comesToRest (only : Fin 1) : List (Label 1 Unit Unit Unit) :=
  [.loop only 0, .loop only 0, .loop only 0, .loop only 0, .shutdown,
    .loop only 0, .loop only 0, .stopWorkers, .worker only, .shutdown]

theorem shutdown_joins_workers_clearedInLoop :
    ∃ cleared log,
      ∃ execution : Machine.Execution (machine 1 Unit Unit Unit),
        (machine 1 Unit Unit Unit).run? (withConfig 1 Unit Unit Unit 10)
            (clearedInLoop 0) = some (cleared, log) ∧
          execution.states 0 = cleared ∧
          ∃ time, execution.events time = [.shutDown] := by
  obtain ⟨cleared, log, final, later, executed, phase, actors, onward, idles,
      out, rest, replies⟩ :
      ∃ cleared log final later,
        (machine 1 Unit Unit Unit).run? (withConfig 1 Unit Unit Unit 10)
            (clearedInLoop 0) = some (cleared, log) ∧
          cleared.runtime.shutdownPhase = .sendersCleared ∧
          cleared.runtime.cells.map ActorCell.actor = [Runtime.idle] ∧
          (machine 1 Unit Unit Unit).run? cleared (comesToRest 0) =
            some (final, later) ∧
          (machine 1 Unit Unit Unit).step? final
              (.client (.send ⟨1⟩ ⟨0, ()⟩)) =
            some (final, [.answered (.error (.actorNotFound ⟨1⟩))]) ∧
          (final.scheduler.positions 0).isOut = true ∧
          final.runtime.shutdownPhase = .idle ∧
          final.runtime.replies = [] :=
    ⟨_, _, _, _, rfl, rfl, rfl, rfl, rfl, rfl, rfl, rfl⟩
  obtain ⟨execution, rfl, fair⟩ :=
    Machine.Execution.exists_of_run? (comesToRest 0) onward _ idles
  have terminates : Actor.Terminates Runtime.idle := fun state message =>
    .intro _ fun next goes => by cases goes <;> contradiction
  have returns :=
    shutdown_joins_workers execution (Machine.run?_sound _ executed)
      (.inl phase)
      (fun cell member => by
        have listed :
            cell.actor ∈ (execution.states 0).runtime.cells.map
              ActorCell.actor :=
          List.mem_map_of_mem member
        rw [actors, List.mem_singleton] at listed
        exact listed ▸ terminates)
      (fun id => (fair _ _ fun enabled => by
        obtain ⟨-, label, after, events, own, step⟩ := enabled
        obtain rfl : id = 0 := Subsingleton.elim id 0
        rw [not_own_of_isOut out step] at own
        cases own).fair)
      (fair _ _ fun enabled => enabled.1 rest)
      (fair _ _ fun enabled => by
        obtain ⟨-, label, after, events, own, step⟩ := enabled
        cases label with
        | stopWorkers => simp [machine, rest] at step
        | _ => cases own).fair
      (fun channel => (fair _ _ fun enabled => by
        obtain ⟨-, label, after, events, own, step⟩ := enabled
        cases label with
        | client asked =>
            cases asked with
            | receiveReply | dropHandle =>
                simp [machine, isClient, inRuntime, Runtime.machine,
                  replies] at step
            | _ => cases own
        | _ => cases own).fair)
  obtain ⟨time, shown, -⟩ := returns
  exact ⟨_, log, execution, executed, rfl, time, shown⟩

end ActorPool

end Runact
