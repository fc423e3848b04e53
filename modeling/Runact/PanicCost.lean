import Runact.PoolThreads

namespace Runact

/-!
# What a panic costs

A panic in a handler is caught nowhere: it unwinds the actor's loop, and with it
the worker that runs the loop.  So every panic costs one worker for good, no more
actors can ever panic than there are workers, and when that many have, no other
handler is called any more.
-/

universe u

variable {Value State Frame : Type u}

/-- A handler has panicked, and its closure is still to be dropped. -/
def LoopPosition.isUnwinding : LoopPosition Value Frame → Bool
  | .unwinding => true
  | _ => false

/-- The event of a panic. -/
def isPanicked : RuntimeEvent Value → Bool
  | .panicked _ => true
  | _ => false

/-- What waits in a queue is not started. -/
theorem Scheduler.mem_unstartedTasks
    {workers : Nat}
    {Task : Type u}
    {scheduler : Scheduler workers Task}
    (id : Fin workers)
    {task : Task}
    (queued : task ∈ scheduler.queues id) :
    task ∈ scheduler.unstartedTasks := by
  refine Multiset.mem_add.mpr (.inr (Multiset.mem_add.mpr (.inl ?_)))
  exact Multiset.mem_sum.mpr ⟨id, Finset.mem_univ id, queued⟩

namespace Runtime

/-- A loop shows a panic with the step that makes it unwind. -/
theorem LoopEffect.countP_isPanicked
    {before after : Runtime Value State Frame}
    {index : Nat}
    {cell : ActorCell Value State Frame}
    {events : List (RuntimeEvent Value)}
    (effect : LoopEffect before index cell after events)
    (here : before.cells[index]? = some cell) :
    ∃ position,
      after.loopAt index = some position ∧
        events.countP isPanicked = position.isUnwinding.toNat := by
  have moved
      {next : LoopPosition Value Frame}
      {runtime : Runtime Value State Frame}
      {there : ActorCell Value State Frame}
      (found : runtime.cells[index]? = some there)
      (counted : events.countP isPanicked = next.isUnwinding.toNat) :
      ∃ position,
        (runtime.moveTo index next).loopAt index = some position ∧
          events.countP isPanicked = position.isUnwinding.toNat :=
    ⟨next, by rw [loopAt, moveTo, modifyCell_here _ found]; rfl, counted⟩
  have replaced
      {change : ActorCell Value State Frame → ActorCell Value State Frame}
      (counted :
        events.countP isPanicked =
          (change cell).position.isUnwinding.toNat) :
      ∃ position,
        (before.modifyCell index change).loopAt index = some position ∧
          events.countP isPanicked = position.isUnwinding.toNat :=
    ⟨(change cell).position, by rw [loopAt, modifyCell_here _ here]; rfl,
      counted⟩
  cases effect with
  | checked shape =>
      refine moved here ?_
      cases before.stop <;> rfl
  | skipped draining envelope rest reductions yields shape queue typed shown =>
      refine replaced ?_
      rcases shown with rfl | rfl <;> rfl
  | returned draining frame state reductions yields shape action shown =>
      refine replaced ?_
      rcases shown with rfl | rfl <;> rfl
  | sent draining channel envelope resume sent shape accepted =>
      obtain ⟨extra, there, -⟩ := OnlyExtended.offered accepted here
      exact moved there rfl
  | replied draining channel message resume shape empty =>
      have there :
          (before.setReply channel
            { buffer := some message, handleAlive := true }).cells[index]? =
            some cell := here
      exact moved there rfl
  | timedOut | called | dropped => exact replaced rfl
  | _ => exact moved here rfl

/-- The last step of a loop drops it. -/
theorem LoopEffect.events_of_ending
    {before after : Runtime Value State Frame}
    {index : Nat}
    {cell : ActorCell Value State Frame}
    {events : List (RuntimeEvent Value)}
    (effect : LoopEffect before index cell after events)
    (ending : cell.position = .leaving ∨ cell.position = .unwinding) :
    events = [.dropped index] := by
  cases effect with
  | dropped shape => rfl
  | called draining _ _ _ shape | skipped draining _ _ _ _ shape =>
      cases draining <;> rcases ending with place | place <;>
        · rw [shape] at place
          cases place
  | _ =>
      rcases ending with place | place <;> simp_all

end Runtime

namespace ActorPool

variable {workers : Nat} [NeZero workers]
  {before after : ActorPool workers Value State Frame}
  {label : Label workers Value State Frame}
  {events : List (RuntimeEvent Value)}

/-- The worker thread is unwound by a panic, or about to be. -/
def lost
    (pool : ActorPool workers Value State Frame)
    (id : Fin workers) : Bool :=
  match pool.scheduler.positions id with
  | .unwound => true
  | .running index => (pool.runtime.loopAt index).any LoopPosition.isUnwinding
  | _ => false

/-- How many workers were lost to panics. -/
def lostWorkers (pool : ActorPool workers Value State Frame) : Nat :=
  ∑ id, (pool.lost id).toNat

omit [NeZero workers] in
theorem lostWorkers_le (pool : ActorPool workers Value State Frame) :
    pool.lostWorkers ≤ workers := by
  have each := Finset.sum_le_card_nsmul Finset.univ
    (fun id => (pool.lost id).toNat) 1 fun id _ => Bool.toNat_le _
  simpa [lostWorkers] using each

omit [NeZero workers] in
/-- With all workers lost, everyone is. -/
theorem lost_of_lostWorkers
    {pool : ActorPool workers Value State Frame}
    (all : pool.lostWorkers = workers)
    (id : Fin workers) :
    pool.lost id = true := by
  by_contra alive
  have less : pool.lostWorkers < ∑ _ : Fin workers, 1 :=
    Finset.sum_lt_sum (fun other _ => Bool.toNat_le _)
      ⟨id, Finset.mem_univ id, by simp [Bool.eq_false_iff.mpr alive]⟩
  rw [all] at less
  simp at less

/-- The steps of others neither lose a worker nor bring it back. -/
theorem Placed.lost_other
    (placed : Placed before)
    {id : Fin workers}
    (step :
      (machine workers Value State Frame).step? before label =
        some (after, events))
    (other : label.isOf id = false) :
    after.lost id = before.lost id := by
  have same := step_positions_other step other
  unfold lost
  rw [same]
  split
  · rfl
  · rename_i index running
    have taken := step_inRuntime step
    cases seen : label.inRuntime? before with
    | none =>
        rw [seen] at taken
        rw [taken.1]
    | some own =>
        rw [seen] at taken
        have notOwn (answer : Nat) : own ≠ .loop index answer := by
          rintro rfl
          obtain ⟨somebody, isOf, again⟩ := inRuntime?_eq_loop seen
          obtain rfl : somebody = id :=
            Scheduler.running_unique placed.once again running
          rw [isOf] at other
          cases other
        by_cases spawns : ∃ actor state, own = .spawn actor state
        · obtain ⟨actor, state, rfl⟩ := spawns
          obtain ⟨cell, here, -⟩ := placed.running running
          have inside := (List.getElem?_eq_some_iff.mp here).1
          rw [Runtime.spawn_loopAt taken, if_neg inside.ne]
        · rw [Runtime.step_loopAt taken
            (fun actor state same => spawns ⟨actor, state, same⟩) notOwn]
  · rfl

/-- A panic in the loop of a worker loses the worker. -/
theorem Placed.lost_own
    (placed : Placed before)
    {id : Fin workers}
    (step :
      (machine workers Value State Frame).step? before label =
        some (after, events))
    (own : label.isOf id = true) :
    (after.lost id).toNat =
      (before.lost id).toNat + events.countP isPanicked := by
  cases label with
  | worker other =>
      obtain rfl : other = id := eq_of_beq own
      obtain ⟨scheduler, shown, moved, rfl, rfl⟩ := step_worker step
      cases moved with
      | start task rest position queue =>
          have waits : task ∈ before.scheduler.unstartedTasks :=
            Scheduler.mem_unstartedTasks other (by simp [queue])
          have queued := placed.unstarted task waits
          simp [lost, position, queued, LoopPosition.isUnwinding]
      | exit position | goOn position | empty position | yield position
      | refused target targets position
      | steal target targets batch rest position | pushed position
      | repush task batch position =>
          simp [lost, position]
  | loop other answer =>
      obtain rfl : other = id := eq_of_beq own
      obtain ⟨index, cell, running, here, moved, leaves⟩ := step_loop step
      obtain ⟨same, found, effect⟩ := Runtime.loopStep_cases moved
      obtain rfl : cell = same := Option.some.inj (here.symm.trans found)
      obtain ⟨position, there, counted⟩ := effect.countP_isPanicked here
      have lostBefore : before.lost other = cell.position.isUnwinding := by
        simp [lost, running, Runtime.loopAt, here]
      generalize place : cell.position = stood at leaves
      generalize next : after.scheduler = scheduler at leaves
      cases leaves with
      | stays notLeaving notUnwinding =>
          have lostAfter : after.lost other = position.isUnwinding := by
            simp [lost, next, running, there]
          have notBefore : cell.position.isUnwinding = false := by
            rw [place]
            cases stood <;> first | rfl | exact absurd rfl notUnwinding
          rw [lostAfter, lostBefore, notBefore, counted]
          exact (Nat.zero_add _).symm
      | returns =>
          have silent := effect.events_of_ending (.inl place)
          simp [lost, next, running, here, Runtime.loopAt, place, silent,
            isPanicked, LoopPosition.isUnwinding]
      | unwinds =>
          have silent := effect.events_of_ending (.inr place)
          simp [lost, next, running, here, Runtime.loopAt, place, silent,
            isPanicked, LoopPosition.isUnwinding]
  | _ => cases own

/-- A lost worker does not come back. -/
theorem Placed.lost_stays
    (placed : Placed before)
    {id : Fin workers}
    (step :
      (machine workers Value State Frame).step? before label =
        some (after, events))
    (lost : before.lost id = true) :
    after.lost id = true := by
  cases own : label.isOf id with
  | false => exact (placed.lost_other step own).trans lost
  | true =>
      have counted := placed.lost_own step own
      rw [lost, Bool.toNat_true] at counted
      cases now : after.lost id with
      | true => rfl
      | false =>
          rw [now, Bool.toNat_false] at counted
          exact absurd counted (Nat.ne_of_lt (Nat.lt_add_right _ Nat.one_pos))

/-- Panics are counted in lost workers. -/
theorem Placed.step_lostWorkers
    (placed : Placed before)
    (step :
      (machine workers Value State Frame).step? before label =
        some (after, events)) :
    after.lostWorkers = before.lostWorkers + events.countP isPanicked := by
  by_cases somebody : ∃ id, label.isOf id = true
  · obtain ⟨id, own⟩ := somebody
    have others : after.lost = Function.update before.lost id (after.lost id) := by
      funext other
      by_cases same : other = id
      · rw [same, Function.update_self]
      · rw [Function.update_of_ne same]
        refine placed.lost_other step (Bool.eq_false_iff.mpr fun isOf => ?_)
        exact same (label.isOf_unique isOf own)
    have balance :=
      Scheduler.sum_update_add before.lost Bool.toNat id (after.lost id)
    rw [← others, placed.lost_own step own] at balance
    change after.lostWorkers + _ = before.lostWorkers + _ at balance
    omega
  · have nobody (id : Fin workers) : label.isOf id = false :=
      Bool.eq_false_iff.mpr fun isOf => somebody ⟨id, isOf⟩
    have same : after.lostWorkers = before.lostWorkers :=
      Finset.sum_congr rfl fun id _ => by
        rw [placed.lost_other step (nobody id)]
    have silent : events.countP isPanicked = 0 := by
      refine List.countP_eq_zero.mpr fun event shown panicked => ?_
      cases event with
      | panicked index =>
          obtain ⟨id, isOf, -⟩ := shown_by_worker step shown rfl
          rw [nobody id] at isOf
          cases isOf
      | _ => cases panicked
    rw [same, silent, Nat.add_zero]

/-- A lost worker does no more than drop the loop it was inside of. -/
theorem lost_step
    {id : Fin workers}
    (step :
      (machine workers Value State Frame).step? before label =
        some (after, events))
    (own : label.isOf id = true)
    (lost : before.lost id = true) :
    ∃ index, events = [.dropped index] := by
  cases label with
  | worker other =>
      obtain rfl : other = id := eq_of_beq own
      obtain ⟨scheduler, shown, moved, -, -⟩ := step_worker step
      cases moved <;> simp_all [ActorPool.lost]
  | loop other answer =>
      obtain rfl : other = id := eq_of_beq own
      obtain ⟨index, cell, running, here, moved, -⟩ := step_loop step
      obtain ⟨same, found, effect⟩ := Runtime.loopStep_cases moved
      obtain rfl : cell = same := Option.some.inj (here.symm.trans found)
      have unwinding : cell.position = .unwinding := by
        cases position : cell.position <;>
          simp_all [ActorPool.lost, Runtime.loopAt, LoopPosition.isUnwinding]
      exact ⟨index, effect.events_of_ending (.inr unwinding)⟩
  | _ => cases own

/-- In every reachable pool as many workers are lost as handlers have panicked. -/
theorem run_lostWorkers
    {capacity : Nat}
    {log : List (RuntimeEvent Value)}
    {pool : ActorPool workers Value State Frame}
    (run :
      Machine.Run (machine workers Value State Frame)
        (withConfig workers Value State Frame capacity) log pool) :
    pool.lostWorkers = log.countP isPanicked := by
  have counted :=
    (run.balance Placed isPanicked lostWorkers
      (fun placed step =>
        ⟨placed.step (effect_of_step step), placed.step_lostWorkers step⟩)
      (placed_withConfig capacity)).2
  have none : (withConfig workers Value State Frame capacity).lostWorkers =
      0 := by
    simp [lostWorkers, lost, withConfig, Scheduler.new]
  rw [none, Nat.zero_add] at counted
  exact counted

/--
Every panic costs one worker for good: no more handlers can ever panic than there
are workers, and when that many have, no loop does anything any more but drop its
mailbox.
-/
theorem panics_cost_workers
    {capacity : Nat}
    {log : List (RuntimeEvent Value)}
    {pool : ActorPool workers Value State Frame}
    (run :
      Machine.Run (machine workers Value State Frame)
        (withConfig workers Value State Frame capacity) log pool) :
    log.countP isPanicked = pool.lostWorkers ∧
      pool.lostWorkers ≤ workers ∧
      (log.countP isPanicked = workers →
        ∀ later final,
          Machine.Run (machine workers Value State Frame) pool later final →
          ∀ event ∈ later, ∀ index,
            Runtime.shownBy event = some index → event = .dropped index) := by
  have counted := run_lostWorkers run
  refine ⟨counted.symm, lostWorkers_le pool, fun all later final onward => ?_⟩
  suffices quiet :
      (Placed final ∧ ∀ id, final.lost id = true) ∧
        ∀ event ∈ later, ∀ index,
          Runtime.shownBy event = some index → event = .dropped index from
    quiet.2
  refine onward.history
    (fun log final =>
      (Placed final ∧ ∀ id, final.lost id = true) ∧
        ∀ event ∈ log, ∀ index,
          Runtime.shownBy event = some index → event = .dropped index)
    (fun {log before label after events} earlier step => ?_)
    ⟨⟨run_placed run, lost_of_lostWorkers (counted.trans all)⟩, by simp⟩
  obtain ⟨⟨placed, allLost⟩, quiet⟩ := earlier
  refine ⟨⟨placed.step (effect_of_step step),
    fun id => placed.lost_stays step (allLost id)⟩,
    fun event member index shown => ?_⟩
  rcases List.mem_append.mp member with older | newest
  · exact quiet event older index shown
  · obtain ⟨id, own, -⟩ := shown_by_worker step newest shown
    obtain ⟨other, rfl⟩ := lost_step step own (allLost id)
    obtain rfl : event = .dropped other := by simpa using newest
    obtain rfl : other = index := by simpa [Runtime.shownBy] using shown
    rfl

/-- An actor that panics on every message. -/
def fragile : Actor Unit Unit Unit where
  messageType := 0
  handle _ _ := ()
  next _ := .panics

/-- The only worker is lost to a panic, and another actor is still queued. -/
def lastWorkerLost (only : Fin 1) : List (Label 1 Unit Unit Unit) :=
  [.spawn fragile (), .push 0, .client (.send ⟨1⟩ ⟨0, ()⟩),
    .worker only, .worker only, .spawn Runtime.idle (), .push 0,
    .client (.send ⟨2⟩ ⟨0, ()⟩),
    .loop only 0, .loop only 0, .loop only 0, .loop only 0]

theorem panics_cost_workers_lastWorkerLost :
    ∃ pool log,
      (machine 1 Unit Unit Unit).run? (withConfig 1 Unit Unit Unit 10)
          (lastWorkerLost 0) = some (pool, log) ∧
        pool.lostWorkers = 1 ∧
        ∀ later final,
          Machine.Run (machine 1 Unit Unit Unit) pool later final →
          ∀ message, .called 1 message ∉ later := by
  obtain ⟨pool, log, executed, panicked⟩ :
      ∃ pool log,
        (machine 1 Unit Unit Unit).run? (withConfig 1 Unit Unit Unit 10)
            (lastWorkerLost 0) = some (pool, log) ∧
          log.countP isPanicked = 1 :=
    ⟨_, _, rfl, rfl⟩
  obtain ⟨counted, -, quiet⟩ :=
    panics_cost_workers (Machine.run?_sound _ executed)
  refine ⟨pool, log, executed, counted.symm.trans panicked,
    fun later final onward message called => ?_⟩
  have dropped := quiet panicked later final onward _ called 1 rfl
  cases dropped

end ActorPool

end Runact
