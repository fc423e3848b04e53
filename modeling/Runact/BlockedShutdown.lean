import Runact.AfterShutdown
import Runact.SendTo
import Runact.TaskPlacement

namespace Runact

/-!
# Sends and the shutdown

`Runtime::shutdown` waits for whoever is inside of a send, and then clears the
senders.  The wait need not end: actors that wait for each other's full mailboxes
keep it waiting for ever.  Past it nothing is put into a mailbox until the next
actor is spawned.
-/

universe u

namespace Runtime

variable {Value State Frame : Type u}

/-! ## The senders are cleared -/

/-- Nothing is put into any mailbox until the next actor is spawned. -/
structure Cleared (runtime : Runtime Value State Frame) : Prop where
  senders : runtime.senders = ∅
  free : runtime.sendersFree = true
  unwaited : runtime.writerWaits = false

/-- Nobody is inside of a send. -/
theorem sendersFree_iff {runtime : Runtime Value State Frame} :
    runtime.sendersFree = true ↔
      runtime.blocked = [] ∧
        ∀ index position,
          runtime.loopAt index = some position →
          position.holdsSenders = false := by
  simp only [sendersFree, Bool.and_eq_true, List.isEmpty_iff, List.all_eq_true,
    Bool.not_eq_true']
  refine and_congr_right fun _ => ⟨fun free index position here => ?_,
    fun free cell member => ?_⟩
  · obtain ⟨cell, found, rfl⟩ := Option.map_eq_some_iff.mp here
    exact free cell (List.mem_of_getElem? found)
  · obtain ⟨index, found⟩ := List.mem_iff_getElem?.mp member
    exact free index cell.position (by rw [loopAt, found]; rfl)

/-- A writer waits only for senders that are locked. -/
theorem step_unwaited
    {before after : Runtime Value State Frame}
    {label : Label Value State Frame}
    {events : List (RuntimeEvent Value)}
    (step :
      (machine Value State Frame).step? before label = some (after, events))
    (free : before.sendersFree = true)
    (unwaited : before.writerWaits = false) :
    after.writerWaits = false := by
  cases label with
  | loop index answer =>
      rw [(loopStep_onlyLoops step).same]
      exact unwaited
  | awaitSenders waits =>
      simp only [machine, free, Option.ite_none_right_eq_some,
        Option.some.injEq, Prod.mk.injEq] at step
      obtain ⟨⟨-, held⟩, rfl, -⟩ := step
      simpa using held.symm
  | _ =>
      simp only [machine, spawn, spawnSupervisor, send, sendBlocking,
        deliverTimer, unblock?, request, shutdownStep?] at step
      grind [setReply]

namespace Cleared

variable {before after : Runtime Value State Frame}
  {label : Label Value State Frame} {events : List (RuntimeEvent Value)}

/-- A loop that has no target to send to is not inside of a send. -/
theorem own_loop
    {index : Nat}
    {cell : ActorCell Value State Frame}
    (cleared : Cleared before)
    (here : before.cells[index]? = some cell)
    (effect : LoopEffect before index cell after events) :
    (∃ position,
      after.loopAt index = some position ∧ position.holdsSenders = false) ∧
      after.senders = before.senders ∧
      after.blocked = before.blocked ∧
      ∀ other, other ≠ index → after.cells[other]? = before.cells[other]? := by
  have nobody : cell.position.holdsSenders = false :=
    (sendersFree_iff.mp cleared.free).2 index cell.position
      (by rw [loopAt, here]; rfl)
  have changed
      {change : ActorCell Value State Frame → ActorCell Value State Frame}
      (outside : (change cell).position.holdsSenders = false) :
      (∃ position,
        (before.modifyCell index change).loopAt index = some position ∧
          position.holdsSenders = false) ∧
        (before.modifyCell index change).senders = before.senders ∧
        (before.modifyCell index change).blocked = before.blocked ∧
        ∀ other, other ≠ index →
          (before.modifyCell index change).cells[other]? =
            before.cells[other]? := by
    refine ⟨⟨(change cell).position, ?_, outside⟩, rfl, rfl,
      fun other different => ?_⟩
    · rw [loopAt, modifyCell_here _ here]
      rfl
    · rw [modifyCell_cells, if_neg different.symm]
  cases effect with
  | checked shape =>
      refine changed ?_
      cases before.stop <;> rfl
  | sendStarted draining frame target message resume channel shape action
      found =>
      rw [lookup_of_empty cleared.senders] at found
      cases found
  | sent draining channel envelope resume sent shape accepted =>
      rw [shape] at nobody
      cases nobody
  | _ =>
      refine changed ?_
      rfl

/-- Only loops move, and only by their own steps. -/
theorem frame
    (cleared : Cleared before)
    (step :
      (machine Value State Frame).step? before label = some (after, events))
    (notSpawn : ∀ actor state, label ≠ .spawn actor state) :
    after.senders = ∅ ∧
      after.blocked = [] ∧
      ∀ index,
        (∀ answer, label ≠ .loop index answer) →
        after.cells[index]? = before.cells[index]? := by
  have blocked := (sendersFree_iff.mp cleared.free).1
  have unrouted (target : ActorId) := lookup_of_empty cleared.senders target
  cases label with
  | spawn actor state => exact absurd rfl (notSpawn actor state)
  | loop moved answer =>
      obtain ⟨cell, here, effect⟩ := loopStep_cases step
      obtain ⟨-, senders, stillBlocked, others⟩ :=
        cleared.own_loop here effect
      refine ⟨senders.trans cleared.senders, stillBlocked.trans blocked,
        fun index notOwn => others index ?_⟩
      rintro rfl
      exact notOwn answer rfl
  | awaitSenders waits =>
      simp only [machine, Option.ite_none_right_eq_some, Option.some.injEq,
        Prod.mk.injEq] at step
      obtain ⟨-, rfl, -⟩ := step
      exact ⟨cleared.senders, blocked, fun _ _ => rfl⟩
  | send target message =>
      simp only [machine, send, unrouted, Option.ite_none_left_eq_some,
        Option.some.injEq, Prod.mk.injEq] at step
      obtain ⟨-, rfl, -⟩ := step
      exact ⟨cleared.senders, blocked, fun _ _ => rfl⟩
  | sendBlocking target message =>
      simp only [machine, sendBlocking, unrouted, Option.ite_none_left_eq_some,
        Option.some.injEq, Prod.mk.injEq] at step
      obtain ⟨-, rfl, -⟩ := step
      exact ⟨cleared.senders, blocked, fun _ _ => rfl⟩
  | deliverTimer target message =>
      simp only [machine, deliverTimer, unrouted,
        Option.ite_none_left_eq_some, Option.some.injEq,
        Prod.mk.injEq] at step
      obtain ⟨-, rfl, -⟩ := step
      exact ⟨cleared.senders, blocked, fun _ _ => rfl⟩
  | unblock index => simp [machine, unblock?, blocked] at step
  | request call target message =>
      simp only [machine] at step
      split at step
      · cases step
      · simp only [request, unrouted, Option.ite_none_left_eq_some,
          Option.some.injEq, Prod.mk.injEq] at step
        obtain ⟨-, rfl, -⟩ := step
        exact ⟨cleared.senders, blocked, fun _ _ => rfl⟩
  | shutdown =>
      cases phase : before.shutdownPhase with
      | stopping =>
          simp only [machine, shutdownStep?, phase, cleared.free, ↓reduceIte,
            Option.some.injEq, Prod.mk.injEq] at step
          obtain ⟨rfl, -⟩ := step
          exact ⟨rfl, blocked, fun _ _ => rfl⟩
      | actorsCleared =>
          simp only [machine, shutdownStep?, phase,
            Option.ite_none_right_eq_some, Option.some.injEq,
            Prod.mk.injEq] at step
          obtain ⟨-, rfl, -⟩ := step
          exact ⟨cleared.senders, blocked, fun _ _ => rfl⟩
      | _ =>
          simp only [machine, shutdownStep?, phase, Option.some.injEq,
            Prod.mk.injEq] at step
          obtain ⟨rfl, -⟩ := step
          exact ⟨cleared.senders, blocked, fun _ _ => rfl⟩
  | spawnSupervisor | claimRequest =>
      cases step
      exact ⟨cleared.senders, blocked, fun _ _ => rfl⟩
  | receiveReply channel | dropHandle channel =>
      simp only [machine] at step
      split at step
      · cases step
        exact ⟨cleared.senders, blocked, fun _ _ => rfl⟩
      · cases step

/-- The senders stay cleared until the next actor is spawned. -/
theorem step
    (cleared : Cleared before)
    (step :
      (machine Value State Frame).step? before label = some (after, events))
    (notSpawn : ∀ actor state, label ≠ .spawn actor state) :
    Cleared after := by
  obtain ⟨senders, blocked, others⟩ := cleared.frame step notSpawn
  refine ⟨senders,
    sendersFree_iff.mpr ⟨blocked, fun index position there => ?_⟩,
    step_unwaited step cleared.free cleared.unwaited⟩
  by_cases own : ∃ answer, label = .loop index answer
  · obtain ⟨answer, rfl⟩ := own
    obtain ⟨cell, here, effect⟩ := loopStep_cases step
    obtain ⟨⟨moved, found, outside⟩, -⟩ := cleared.own_loop here effect
    obtain rfl : position = moved :=
      Option.some.inj (there.symm.trans found)
    exact outside
  · rw [loopAt, others index fun answer same => own ⟨answer, same⟩] at there
    exact (sendersFree_iff.mp cleared.free).2 index position there

end Cleared

/-- The `shutdown` call is past the clearing of the senders. -/
def PastSenders (runtime : Runtime Value State Frame) : Prop :=
  runtime.shutdownPhase = .sendersCleared ∨
    runtime.shutdownPhase = .actorsCleared

/-- Only `shutdown` changes how far it has come, and the flags it sets. -/
theorem step_shutdownPhase
    {before after : Runtime Value State Frame}
    {label : Label Value State Frame}
    {events : List (RuntimeEvent Value)}
    (step :
      (machine Value State Frame).step? before label = some (after, events))
    (notShutdown : label ≠ .shutdown) :
    after.shutdownPhase = before.shutdownPhase ∧
      after.joined = before.joined ∧
      after.stop = before.stop := by
  cases label with
  | loop index answer =>
      rw [(loopStep_onlyLoops step).same]
      exact ⟨rfl, rfl, rfl⟩
  | shutdown => exact absurd rfl notShutdown
  | _ =>
      simp only [machine, spawn, spawnSupervisor, send, sendBlocking,
        deliverTimer, unblock?, request] at step
      grind [setReply]

/-- In every reachable runtime, past the clearing nobody is inside of a send. -/
theorem run_cleared
    {mailboxCapacity : Nat}
    {log : List (RuntimeEvent Value)}
    {runtime : Runtime Value State Frame}
    (run :
      Machine.Run (machine Value State Frame)
        (withConfig Value State Frame mailboxCapacity) log runtime)
    (past : PastSenders runtime) :
    Cleared runtime := by
  refine run.invariant (fun runtime => PastSenders runtime → Cleared runtime)
    (fun {before label after events} cleared step past => ?_) ?_ past
  · by_cases shutdown : label = .shutdown
    · subst shutdown
      cases phase : before.shutdownPhase with
      | idle =>
          simp only [machine, shutdownStep?, phase, Option.some.injEq,
            Prod.mk.injEq] at step
          obtain ⟨rfl, -⟩ := step
          simp [PastSenders] at past
      | stopping =>
          simp only [machine, shutdownStep?, phase,
            Option.ite_none_right_eq_some, Option.some.injEq,
            Prod.mk.injEq] at step
          obtain ⟨free, rfl, -⟩ := step
          exact ⟨rfl, free, rfl⟩
      | sendersCleared => exact (cleared (.inl phase)).step step (by simp)
      | actorsCleared => exact (cleared (.inr phase)).step step (by simp)
    · rw [PastSenders, (step_shutdownPhase step shutdown).1] at past
      refine (cleared past).step step fun actor state same => ?_
      subst same
      simp only [machine, Option.ite_none_right_eq_some] at step
      rcases past with phase | phase <;>
        · rw [step.1.1] at phase
          cases phase
  · rintro (phase | phase) <;> cases phase

/-! ## Actors that wait for each other -/

/-- Someone who waits for room in a mailbox holds the senders. -/
theorem WaitEachOther.notFree
    {waiting : Nat → Prop}
    {runtime : Runtime Value State Frame}
    {index : Nat}
    (wait : WaitEachOther waiting runtime)
    (member : waiting index) :
    runtime.sendersFree = false := by
  obtain ⟨cell, draining, channel, envelope, resume, here, shape, -⟩ :=
    wait index member
  refine Bool.eq_false_iff.mpr fun free => ?_
  have outside :=
    (sendersFree_iff.mp free).2 index cell.position
      (by rw [loopAt, here]; rfl)
  rw [shape] at outside
  cases outside

/-- The `shutdown` call, if there is one, is before the clearing of the senders. -/
def BeforeSenders (runtime : Runtime Value State Frame) : Prop :=
  runtime.shutdownPhase = .idle ∨ runtime.shutdownPhase = .stopping

/-- An actor is spawned, a registry is cleared, or `shutdown` returns. -/
def needsSenders : RuntimeEvent Value → Bool
  | .spawned _ _ => true
  | .sendersCleared => true
  | .actorsCleared => true
  | .shutDown => true
  | _ => false

/-- A loop does nothing that needs the senders for itself. -/
theorem loopStep_needsSenders
    {runtime after : Runtime Value State Frame}
    {loop answer : Nat}
    {events : List (RuntimeEvent Value)}
    (step : runtime.loopStep? loop answer = some (after, events)) :
    ∀ event ∈ events, needsSenders event = false := by
  intro event shown
  rcases loopStep_shows step event shown with
    ⟨byLoop, -⟩ | ⟨channel, envelope, rfl, -⟩
  · cases event with
    | spawned | sendersCleared | actorsCleared | shutDown => cases byLoop
    | _ => rfl
  · rfl

/-- Nothing is spawned, cleared or shut down, and the loops of these actors show
nothing. -/
def BlockedEvent
    (waiting : Nat → Prop)
    (event : RuntimeEvent Value) : Prop :=
  needsSenders event = false ∧
    ∀ index, waiting index → shownBy event ≠ some index

/-- Before its clearing of the senders, `shutdown` waits for who holds them. -/
theorem beforeSenders_of_notFree
    {mailboxCapacity : Nat}
    {log : List (RuntimeEvent Value)}
    {runtime : Runtime Value State Frame}
    (run :
      Machine.Run (machine Value State Frame)
        (withConfig Value State Frame mailboxCapacity) log runtime)
    (notFree : runtime.sendersFree = false) :
    BeforeSenders runtime := by
  cases reached : runtime.shutdownPhase with
  | idle => exact .inl reached
  | stopping => exact .inr reached
  | sendersCleared | actorsCleared =>
      have free := (run_cleared run (by simp [PastSenders, reached])).free
      rw [notFree] at free
      cases free

/-- While somebody holds the senders the registries are not cleared. -/
theorem step_notFree
    {before after : Runtime Value State Frame}
    {label : Label Value State Frame}
    {events : List (RuntimeEvent Value)}
    (notFree : before.sendersFree = false)
    (phase : BeforeSenders before)
    (step :
      (machine Value State Frame).step? before label = some (after, events)) :
    BeforeSenders after ∧ ∀ event ∈ events, needsSenders event = false := by
  have quiet
      (samePhase : after.shutdownPhase = before.shutdownPhase)
      (others : ∀ event ∈ events, needsSenders event = false) :
      BeforeSenders after ∧ ∀ event ∈ events, needsSenders event = false := by
    refine ⟨?_, others⟩
    rw [BeforeSenders, samePhase]
    exact phase
  cases effect_of_step step with
  | spawned actor state idle free =>
      rw [notFree] at free
      cases free
  | stopped idle =>
      exact ⟨.inr rfl, by simp⟩
  | sendersCleared stopping free =>
      rw [notFree] at free
      cases free
  | actorsCleared cleared | shutDown cleared done =>
      rcases phase with phase | phase <;> rw [phase] at cleared <;>
        cases cleared
  | sent target channel message sent found accepted =>
      obtain ⟨cell, -, -, -, rfl⟩ := offer_eq_accepted accepted
      exact quiet rfl (by simp [needsSenders])
  | unblocked index waiting sent found accepted =>
      obtain ⟨cell, -, -, -, rfl⟩ := offer_eq_accepted accepted
      exact quiet rfl (by simp [needsSenders])
  | requested call requestId target channel message sent claimed found
      accepted =>
      obtain ⟨cell, -, -, -, rfl⟩ := offer_eq_accepted accepted
      exact quiet rfl (by simp [needsSenders])
  | looped own answer cell after events here step effect =>
      refine quiet ?_ (loopStep_needsSenders step)
      rw [(loopStep_onlyLoops step).same]
  | _ => exact quiet rfl (by simp [needsSenders])

/-- Actors that wait for each other show nothing, and nothing is cleared. -/
theorem WaitEachOther.step_blocked
    {waiting : Nat → Prop}
    {before after : Runtime Value State Frame}
    {label : Label Value State Frame}
    {events : List (RuntimeEvent Value)}
    {index : Nat}
    (positive : 0 < before.mailboxCapacity)
    (wait : WaitEachOther waiting before)
    (member : waiting index)
    (phase : BeforeSenders before)
    (step :
      (machine Value State Frame).step? before label = some (after, events)) :
    BeforeSenders after ∧ ∀ event ∈ events, BlockedEvent waiting event := by
  obtain ⟨phaseNow, quiet⟩ := step_notFree (wait.notFree member) phase step
  refine ⟨phaseNow, fun event shown =>
    ⟨quiet event shown, fun somebody waits => ?_⟩⟩
  refine notShown_of_notOwn step (fun answer same => ?_) event shown
  subst same
  have stuck := wait.stuck positive waits answer
  simp [machine, stuck] at step

/--
Actors that wait for each other's full mailboxes keep `shutdown` from returning,
whatever its deadline and whatever anyone does: the registries are never
cleared, no actor is ever spawned again, and none of these actors is seen again.
-/
theorem waiting_blocks_shutdown
    {mailboxCapacity index : Nat}
    {waiting : Nat → Prop}
    {log continuation : List (RuntimeEvent Value)}
    {runtime final : Runtime Value State Frame}
    (positive : 0 < mailboxCapacity)
    (run :
      Machine.Run (machine Value State Frame)
        (withConfig Value State Frame mailboxCapacity) log runtime)
    (wait : WaitEachOther waiting runtime)
    (member : waiting index)
    (onward :
      Machine.Run (machine Value State Frame) runtime continuation final) :
    BeforeSenders final ∧
      ∀ event ∈ continuation, BlockedEvent waiting event := by
  have capacity : 0 < runtime.mailboxCapacity := by
    rw [run_mailboxCapacity run]
    exact positive
  have phase := beforeSenders_of_notFree run (wait.notFree member)
  suffices kept :
      (0 < final.mailboxCapacity ∧ WaitEachOther waiting final) ∧
        BeforeSenders final ∧
        ∀ event ∈ continuation, BlockedEvent waiting event from kept.2
  refine onward.history
    (fun log final =>
      (0 < final.mailboxCapacity ∧ WaitEachOther waiting final) ∧
        BeforeSenders final ∧ ∀ event ∈ log, BlockedEvent waiting event)
    (fun {log before label after events} ⟨⟨room, waits⟩, phase, earlier⟩
      step => ?_)
    ⟨⟨capacity, wait⟩, phase, by simp⟩
  obtain ⟨phaseNow, newest⟩ :=
    waits.step_blocked room member phase step
  refine ⟨⟨?_, waits.step room step⟩, phaseNow, fun event shown => ?_⟩
  · rw [step_mailboxCapacity step]
    exact room
  · exact (List.mem_append.mp shown).elim (earlier event) (newest event)

/-- An actor waits for room in its own mailbox when `shutdown` is called. -/
theorem waiting_blocks_shutdown_secondSend :
    ∃ runtime log,
      (machine _ _ _).run? (withConfig _ _ _ 1)
          (secondSend ++ [.loop 0 0, .shutdown]) = some (runtime, log) ∧
        runtime.stop = true ∧
        ∀ continuation final,
          Machine.Run (machine _ _ _) runtime continuation final →
          ∀ event ∈ continuation, BlockedEvent (· = 0) event := by
  obtain ⟨runtime, log, cell, executed, stopping, here, shape, full,
      capacity⟩ :
      ∃ runtime log cell,
        (machine _ _ _).run? (withConfig _ _ _ 1)
            (secondSend ++ [.loop 0 0, .shutdown]) = some (runtime, log) ∧
          runtime.stop = true ∧
          runtime.cells[0]? = some cell ∧
          cell.position =
            .sending false 0 (.message ⟨0, 2⟩) (fun _ => []) ∧
          cell.mailbox.length = 1 ∧
          runtime.mailboxCapacity = 1 :=
    ⟨_, _, _, rfl, rfl, rfl, rfl, rfl, rfl⟩
  have wait : WaitEachOther (· = 0) runtime := by
    rintro index rfl
    exact ⟨cell, _, _, _, _, here, shape, rfl,
      (capacity.trans full.symm).le⟩
  exact ⟨runtime, log, executed, stopping, fun continuation final onward =>
    (waiting_blocks_shutdown (by decide) (Machine.run?_sound _ executed)
      wait rfl onward).2⟩

end Runtime

end Runact
