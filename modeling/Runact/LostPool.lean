import Runact.PanicCost

namespace Runact

/-!
# A pool without workers

A panic ends the worker that runs the actor, and an actor that was not started by
then may never be.  Its mailbox fills up, and whoever sends into it with
`sender.send`, as the timer service does, waits inside of the senders lock for
ever.  `Runtime::shutdown` waits for that lock, and no deadline ends the wait.
-/

universe u

variable {Value State Frame : Type u}

namespace Runtime

/-- A send waits for room in the full mailbox of a loop that was never started. -/
structure Jammed
    (waiting : BlockedSend Value)
    (runtime : Runtime Value State Frame) : Prop where
  waits : waiting ∈ runtime.blocked
  full :
    ∃ cell,
      runtime.cells[waiting.channel]? = some cell ∧
        cell.position = .queued ∧
        runtime.mailboxCapacity ≤ cell.mailbox.length

namespace Jammed

variable {waiting : BlockedSend Value}
  {before after : Runtime Value State Frame}
  {label : Label Value State Frame} {events : List (RuntimeEvent Value)}

/-- The send does not return. -/
theorem offer_full
    (jammed : Jammed waiting before)
    (positive : 0 < before.mailboxCapacity)
    (envelope : MessageEnvelope Value) :
    before.offer true waiting.channel envelope = .full := by
  refine (offer_full_iff positive).mpr fun ready => ?_
  obtain ⟨cell, here, queued, full⟩ := jammed.full
  rcases ready cell here with ended | room
  · rw [queued] at ended
    cases ended
  · exact absurd full (Nat.not_le.mpr room)

/-- The sender holds the senders. -/
theorem notFree (jammed : Jammed waiting before) :
    before.sendersFree = false := by
  refine Bool.eq_false_iff.mpr fun free => ?_
  have nobody := (sendersFree_iff.mp free).1
  have waits := jammed.waits
  rw [nobody] at waits
  cases waits

/-- Another send that returns leaves this one waiting. -/
theorem waits_eraseIdx
    (jammed : Jammed waiting before)
    (positive : 0 < before.mailboxCapacity)
    {index : Nat}
    {other : BlockedSend Value}
    (found : before.blocked[index]? = some other)
    (returns : before.offer true other.channel other.envelope ≠ .full) :
    waiting ∈ before.blocked.eraseIdx index := by
  obtain ⟨own, here⟩ := List.mem_iff_getElem?.mp jammed.waits
  refine List.mem_eraseIdx_iff_getElem?.mpr ⟨own, ?_, here⟩
  rintro rfl
  obtain rfl : waiting = other := Option.some.inj (here.symm.trans found)
  exact returns (jammed.offer_full positive waiting.envelope)

/-- While the mailbox is full the send waits. -/
theorem step_waits
    (jammed : Jammed waiting before)
    (positive : 0 < before.mailboxCapacity)
    (step :
      (machine Value State Frame).step? before label = some (after, events)) :
    waiting ∈ after.blocked := by
  have waits := jammed.waits
  cases effect_of_step step with
  | sent target channel message sent found accepted =>
      obtain ⟨cell, -, -, -, rfl⟩ := offer_eq_accepted accepted
      exact waits
  | requested call requestId target channel message sent claimed found
      accepted =>
      obtain ⟨cell, -, -, -, rfl⟩ := offer_eq_accepted accepted
      exact waits
  | blocked target channel message fromTimer found =>
      exact List.mem_append_left _ waits
  | unblocked index other sent found accepted =>
      exact jammed.waits_eraseIdx positive found (by simp [accepted])
  | unblockedInVain index other found disconnected =>
      exact jammed.waits_eraseIdx positive found (by simp [disconnected])
  | looped own answer cell after events here step effect =>
      rw [(loopStep_onlyLoops step).same]
      exact waits
  | _ => exact waits

/-- Unless the loop is started the mailbox stays full. -/
theorem step
    (jammed : Jammed waiting before)
    (positive : 0 < before.mailboxCapacity)
    (step :
      (machine Value State Frame).step? before label = some (after, events))
    (notOwn : ∀ answer, label ≠ .loop waiting.channel answer) :
    Jammed waiting after := by
  refine ⟨jammed.step_waits positive step, ?_⟩
  obtain ⟨cell, here, queued, full⟩ := jammed.full
  obtain ⟨extra, there, -⟩ := step_others step here notOwn
  refine ⟨_, there, queued, ?_⟩
  rw [step_mailboxCapacity step, List.length_append]
  exact Nat.le_add_right_of_le full

end Jammed

end Runtime

namespace ActorPool

variable {workers : Nat} [NeZero workers]
  {before after : ActorPool workers Value State Frame}
  {label : Label workers Value State Frame}
  {events : List (RuntimeEvent Value)}

omit [NeZero workers] in
/-- Without workers nobody starts the loop. -/
theorem not_started
    (allLost : ∀ id, before.lost id = true)
    {index answer : Nat}
    (queued : before.runtime.loopAt index = some .queued) :
    label.inRuntime? before ≠ some (.loop index answer) := by
  intro own
  obtain ⟨id, -, running⟩ := inRuntime?_eq_loop own
  have lost := allLost id
  simp [ActorPool.lost, running, queued, LoopPosition.isUnwinding] at lost

/-- What is known of a pool that has lost all its workers, with a send into the
full mailbox of an actor it never started. -/
structure Wedged
    (waiting : BlockedSend Value)
    (pool : ActorPool workers Value State Frame) : Prop where
  placed : Placed pool
  allLost : ∀ id, pool.lost id = true
  positive : 0 < pool.runtime.mailboxCapacity
  jammed : Runtime.Jammed waiting pool.runtime
  phase : Runtime.BeforeSenders pool.runtime

/-- Whatever is done, the send waits, and `shutdown` waits for it. -/
theorem Wedged.step
    {waiting : BlockedSend Value}
    (wedged : Wedged waiting before)
    (step :
      (machine workers Value State Frame).step? before label =
        some (after, events)) :
    Wedged waiting after ∧
      ∀ event ∈ events, Runtime.needsSenders event = false := by
  obtain ⟨placed, allLost, positive, jammed, phase⟩ := wedged
  have placedNow := placed.step (effect_of_step step)
  have lostNow (id : Fin workers) := placed.lost_stays step (allLost id)
  have taken := step_inRuntime step
  cases seen : label.inRuntime? before with
  | none =>
      rw [seen] at taken
      obtain ⟨same, rfl⟩ := taken
      refine ⟨⟨placedNow, lostNow, ?_, ?_, ?_⟩, by simp⟩ <;> rw [same]
      · exact positive
      · exact jammed
      · exact phase
  | some own =>
      rw [seen] at taken
      obtain ⟨phaseNow, quiet⟩ :=
        Runtime.step_notFree jammed.notFree phase taken
      refine ⟨⟨placedNow, lostNow, ?_, ?_, phaseNow⟩, quiet⟩
      · rw [Runtime.step_mailboxCapacity taken]
        exact positive
      · refine jammed.step positive taken fun answer same => ?_
        obtain ⟨cell, here, queued, -⟩ := jammed.full
        refine not_started allLost ?_ (seen.trans (congrArg some same))
        rw [Runtime.loopAt, here, ← queued]
        rfl

/--
When every worker was lost to a panic, a send into the full mailbox of an actor
that was never started keeps `shutdown` from returning, whatever its deadline and
whatever anyone does: the send never returns, and as it holds the senders, they
are never cleared and no actor is ever spawned again.
-/
theorem lost_pool_blocks_shutdown
    {capacity : Nat}
    {waiting : BlockedSend Value}
    {log continuation : List (RuntimeEvent Value)}
    {pool final : ActorPool workers Value State Frame}
    (positive : 0 < capacity)
    (run :
      Machine.Run (machine workers Value State Frame)
        (withConfig workers Value State Frame capacity) log pool)
    (panicked : log.countP isPanicked = workers)
    (jammed : Runtime.Jammed waiting pool.runtime)
    (onward :
      Machine.Run (machine workers Value State Frame) pool continuation
        final) :
    waiting ∈ final.runtime.blocked ∧
      Runtime.BeforeSenders final.runtime ∧
      ∀ event ∈ continuation, Runtime.needsSenders event = false := by
  have ran := run_inRuntime run
  have wedged : Wedged waiting pool :=
    { placed := run_placed run
      allLost := lost_of_lostWorkers ((run_lostWorkers run).trans panicked)
      positive := by
        rw [Runtime.run_mailboxCapacity ran]
        exact positive
      jammed := jammed
      phase := Runtime.beforeSenders_of_notFree ran jammed.notFree }
  suffices kept :
      Wedged waiting final ∧
        ∀ event ∈ continuation, Runtime.needsSenders event = false from
    ⟨kept.1.jammed.waits, kept.1.phase, kept.2⟩
  refine onward.history
    (fun log final =>
      Wedged waiting final ∧
        ∀ event ∈ log, Runtime.needsSenders event = false)
    (fun {log before label after events} earlier step => ?_)
    ⟨wedged, by simp⟩
  obtain ⟨still, newest⟩ := earlier.1.step step
  exact ⟨still, fun event shown =>
    (List.mem_append.mp shown).elim (earlier.2 event) (newest event)⟩

/-- A fired timer waits for room in the mailbox of the queued actor when
`shutdown` is called. -/
theorem lost_pool_blocks_shutdown_timer :
    ∃ pool log,
      (machine 1 Unit Unit Unit).run? (withConfig 1 Unit Unit Unit 1)
          (lastWorkerLost 0 ++
            [.client (.deliverTimer ⟨2⟩ ⟨0, ()⟩), .shutdown]) =
          some (pool, log) ∧
        pool.runtime.stop = true ∧
        ∀ continuation final,
          Machine.Run (machine 1 Unit Unit Unit) pool continuation final →
          .shutDown ∉ continuation := by
  obtain ⟨pool, log, executed, stopping, panicked, waits, cell, here, queued,
      full⟩ :
      ∃ pool log,
        (machine 1 Unit Unit Unit).run? (withConfig 1 Unit Unit Unit 1)
            (lastWorkerLost 0 ++
              [.client (.deliverTimer ⟨2⟩ ⟨0, ()⟩), .shutdown]) =
            some (pool, log) ∧
          pool.runtime.stop = true ∧
          log.countP isPanicked = 1 ∧
          pool.runtime.blocked = [⟨1, .message ⟨0, ()⟩, true⟩] ∧
          ∃ cell,
            pool.runtime.cells[1]? = some cell ∧
              cell.position = .queued ∧
              pool.runtime.mailboxCapacity ≤ cell.mailbox.length :=
    ⟨_, _, rfl, rfl, rfl, rfl, _, rfl, rfl, Nat.le_refl 1⟩
  refine ⟨pool, log, executed, stopping, fun continuation final onward
    returned => ?_⟩
  have waiting : (⟨1, .message ⟨0, ()⟩, true⟩ : BlockedSend Unit) ∈
      pool.runtime.blocked := by
    rw [waits]
    exact List.mem_cons_self
  have never :=
    (lost_pool_blocks_shutdown Nat.one_pos (Machine.run?_sound _ executed)
      panicked ⟨waiting, cell, here, queued, full⟩ onward).2.2 _ returned
  cases never

end ActorPool

end Runact
