import Runact.Registries

namespace Runact.Runtime

/-!
# After a shutdown

When `shutdown` has returned, nobody is registered and no loop runs.  The calls
that send find no target then; `spawn` does not look at the stop flag, and enters
an actor that no worker will ever run.
-/

universe u

variable {Value State Frame : Type u}

/-- Nobody is routed to, and no loop goes on. -/
structure Quiet (runtime : Runtime Value State Frame) : Prop where
  senders : runtime.senders = ∅
  blocked : runtime.blocked = []
  joined : runtime.joined = true
  still :
    ∀ cell ∈ runtime.cells,
      cell.position = .queued ∨ cell.position = .ended

/-- The call behind an event reports success for an actor or a message. -/
def reportsSuccess : RuntimeEvent Value → Bool
  | .spawned _ _ => true
  | .accepted _ _ => true
  | .answered (.ok _) => true
  | .requestAnswered _ (.ok _) => true
  | _ => false

/-- `spawn` has returned an actor. -/
def isSpawned : RuntimeEvent Value → Bool
  | .spawned _ _ => true
  | _ => false

/-- While `shutdown` runs, no blocking send begins once `senders` is cleared. -/
structure Unblocked (runtime : Runtime Value State Frame) : Prop where
  senders :
    runtime.shutdownPhase = .sendersCleared ∨
        runtime.shutdownPhase = .actorsCleared →
      runtime.senders = ∅ ∧ runtime.blocked = []

theorem lookup_of_empty
    {runtime : Runtime Value State Frame}
    (none : runtime.senders = ∅)
    (target : ActorId) :
    runtime.senders.lookup target = Option.none := by
  rw [none]
  exact AList.lookup_empty target

/-- Every step keeps the senders cleared until `shutdown` returns. -/
theorem Unblocked.step
    {before after : Runtime Value State Frame}
    {events : List (RuntimeEvent Value)}
    (unblocked : Unblocked before)
    (effect : Effect before after events) :
    Unblocked after := by
  have kept
      (samePhase : after.shutdownPhase = before.shutdownPhase)
      (sameSenders : after.senders = before.senders)
      (sameBlocked : after.blocked = before.blocked) :
      Unblocked after := by
    constructor
    rw [samePhase, sameSenders, sameBlocked]
    exact unblocked.senders
  cases effect with
  | spawned actor state idle free =>
      constructor
      have phase : (before.spawn actor state).1.shutdownPhase = .idle := idle
      simp [phase]
  | sent target channel message sent found accepted =>
      obtain ⟨cell, -, -, -, rfl⟩ := offer_eq_accepted accepted
      exact kept rfl rfl rfl
  | blocked target channel message fromTimer found =>
      refine ⟨fun cleared => ?_⟩
      have none := lookup_of_empty (unblocked.senders cleared).1 target
      simp [none] at found
  | unblocked index waiting sent found accepted =>
      obtain ⟨cell, -, -, -, rfl⟩ := offer_eq_accepted accepted
      refine ⟨fun cleared => ⟨(unblocked.senders cleared).1, ?_⟩⟩
      simp [(unblocked.senders cleared).2]
  | unblockedInVain index waiting found disconnected =>
      refine ⟨fun cleared => ⟨(unblocked.senders cleared).1, ?_⟩⟩
      simp [(unblocked.senders cleared).2]
  | requested call requestId target channel message sent claimed found
      accepted =>
      obtain ⟨cell, -, -, -, rfl⟩ := offer_eq_accepted accepted
      exact kept rfl rfl rfl
  | stopped phase => exact ⟨by simp⟩
  | sendersCleared phase free =>
      refine ⟨fun _ => ⟨rfl, ?_⟩⟩
      simp only [sendersFree, Bool.and_eq_true, List.isEmpty_iff] at free
      exact free.1
  | actorsCleared phase => exact ⟨fun _ => unblocked.senders (.inl phase)⟩
  | shutDown phase done => exact ⟨by simp⟩
  | looped index answer cell after events here step effect =>
      have frame := (loopStep_onlyLoops step).same
      refine kept ?_ ?_ ?_ <;> rw [frame]
  | _ => exact kept rfl rfl rfl

/-- A step after a shutdown, unless it spawns. -/
structure QuietStep
    (before after : Runtime Value State Frame)
    (events : List (RuntimeEvent Value)) : Prop where
  quiet : Quiet after
  sameCells : after.cells = before.cells
  refused : ∀ event ∈ events, reportsSuccess event = false

/-- Nothing but `spawn` succeeds after a shutdown. -/
theorem Quiet.step
    {before after : Runtime Value State Frame}
    {events : List (RuntimeEvent Value)}
    (quiet : Quiet before)
    (effect : Effect before after events)
    (unspawned : ∀ event ∈ events, isSpawned event = false) :
    QuietStep before after events := by
  have kept
      (sameSenders : after.senders = before.senders)
      (sameBlocked : after.blocked = before.blocked)
      (sameJoined : after.joined = before.joined)
      (sameCells : after.cells = before.cells)
      (refused : ∀ event ∈ events, reportsSuccess event = false) :
      QuietStep before after events :=
    { quiet :=
        { senders := sameSenders.trans quiet.senders
          blocked := sameBlocked.trans quiet.blocked
          joined := sameJoined.trans quiet.joined
          still := sameCells ▸ quiet.still }
      sameCells := sameCells
      refused := refused }
  have unrouted (target : ActorId) := lookup_of_empty quiet.senders target
  cases effect with
  | spawned actor state idle free => simp [isSpawned] at unspawned
  | sent target channel message sent found accepted =>
      simp [unrouted] at found
  | blocked target channel message fromTimer found =>
      simp [unrouted] at found
  | requested call requestId target channel message sent claimed found
      accepted =>
      simp [unrouted] at found
  | unblocked index waiting sent found accepted =>
      simp [quiet.blocked] at found
  | unblockedInVain index waiting found disconnected =>
      simp [quiet.blocked] at found
  | sendersCleared phase free =>
      exact
        { quiet := ⟨rfl, quiet.blocked, quiet.joined, quiet.still⟩
          sameCells := rfl
          refused := by simp [reportsSuccess] }
  | shutDown phase done =>
      exact
        { quiet := ⟨quiet.senders, quiet.blocked, rfl, quiet.still⟩
          sameCells := rfl
          refused := by simp [reportsSuccess] }
  | looped index answer cell after events here step effect =>
      have position := quiet.still cell (List.mem_of_getElem? here)
      have opened := effect.opened
      rcases position with queued | ended
      · simp [loopStep?, here, queued, quiet.joined] at step
      · simp [ended, LoopPosition.isEnded] at opened
  | _ => exact kept rfl rfl rfl rfl (by simp [reportsSuccess])

/-- `shutdown` returns when every loop that was started has ended. -/
theorem Effect.returnsShutdown
    {before after : Runtime Value State Frame}
    {events : List (RuntimeEvent Value)}
    (effect : Effect before after events)
    (returned : .shutDown ∈ events) :
    events = [.shutDown] ∧
      before.shutdownPhase = .actorsCleared ∧
      before.workersDone = true ∧
      after = { before with joined := true, shutdownPhase := .idle } := by
  cases effect with
  | shutDown phase done => exact ⟨rfl, phase, done, rfl⟩
  | looped index answer cell after events here step effect =>
      rcases loopStep_shows step _ returned with
        ⟨shown, -⟩ | ⟨channel, envelope, same, -⟩
      · simp [shownBy] at shown
      · cases same
  | _ => simp at returned

theorem still_of_workersDone
    {runtime : Runtime Value State Frame}
    (done : runtime.workersDone = true) :
    ∀ cell ∈ runtime.cells,
      cell.position = .queued ∨ cell.position = .ended := by
  intro cell member
  have own := List.all_eq_true.mp done cell member
  cases shape : cell.position <;> simp_all

/-- When `shutdown` returns, everything is quiet. -/
theorem run_quiet
    {mailboxCapacity : Nat}
    {log : List (RuntimeEvent Value)}
    {runtime : Runtime Value State Frame}
    (run :
      Machine.Run (machine Value State Frame)
        (withConfig Value State Frame mailboxCapacity) log runtime) :
    Unblocked runtime ∧ (log.getLast? = some .shutDown → Quiet runtime) := by
  induction run with
  | nil => exact ⟨⟨by simp [withConfig]⟩, by simp⟩
  | @snoc log events middle final label earlier last inductionHypothesis =>
      obtain ⟨unblocked, quiet⟩ := inductionHypothesis
      have effect := effect_of_step last
      refine ⟨unblocked.step effect, fun newest => ?_⟩
      rcases List.eq_nil_or_concat events with rfl | ⟨front, event, rfl⟩
      · exact ((quiet (by simpa using newest)).step effect (by simp)).quiet
      · obtain rfl : event = .shutDown := by simpa using newest
        obtain ⟨-, phase, done, rfl⟩ := effect.returnsShutdown (by simp)
        obtain ⟨none, free⟩ := unblocked.senders (.inr phase)
        exact ⟨none, free, rfl, still_of_workersDone done⟩

/-- An actor was spawned since the registry was last cleared. -/
def SpawnedSince (log : List (RuntimeEvent Value)) : Prop :=
  SinceLast clearsActors (fun event => isSpawned event = true) log

/-- A step that does not spawn keeps the phase, or is one of `shutdown`. -/
theorem Effect.phase_of_unspawned
    {before after : Runtime Value State Frame}
    {events : List (RuntimeEvent Value)}
    (effect : Effect before after events)
    (cleared : after.shutdownPhase = .actorsCleared) :
    (∀ event ∈ events, isSpawned event = false) ∧
      (before.shutdownPhase = .actorsCleared ∨
        events = [.actorsCleared]) := by
  cases effect with
  | spawned actor state idle free =>
      have phase : (before.spawn actor state).1.shutdownPhase = .idle := idle
      simp [phase] at cleared
  | sent target channel message sent found accepted =>
      obtain ⟨cell, -, -, -, rfl⟩ := offer_eq_accepted accepted
      exact ⟨by simp [isSpawned], .inl cleared⟩
  | unblocked index waiting sent found accepted =>
      obtain ⟨cell, -, -, -, rfl⟩ := offer_eq_accepted accepted
      exact ⟨by simp [isSpawned], .inl cleared⟩
  | requested call requestId target channel message sent claimed found
      accepted =>
      obtain ⟨cell, -, -, -, rfl⟩ := offer_eq_accepted accepted
      exact ⟨by simp [isSpawned], .inl cleared⟩
  | stopped phase => cases cleared
  | sendersCleared phase free => cases cleared
  | actorsCleared phase => exact ⟨by simp [isSpawned], .inr rfl⟩
  | shutDown phase done => cases cleared
  | looped index answer cell after events here step effect =>
      rw [(loopStep_onlyLoops step).same] at cleared
      refine ⟨fun event member => ?_, .inl cleared⟩
      have silent := (loopStep_registry step).2 event member
      cases event <;> simp_all [registryCall?, isSpawned]
  | _ => exact ⟨by simp [isSpawned], .inl cleared⟩

/-- `shutdown` leaves no spawned actor registered when it returns. -/
theorem run_spawnedSince
    {mailboxCapacity : Nat}
    {log : List (RuntimeEvent Value)}
    {runtime : Runtime Value State Frame}
    (run :
      Machine.Run (machine Value State Frame)
        (withConfig Value State Frame mailboxCapacity) log runtime) :
    (runtime.shutdownPhase = .actorsCleared → ¬ SpawnedSince log) ∧
      (log.getLast? = some .shutDown → ¬ SpawnedSince log) := by
  induction run with
  | nil => exact ⟨fun _ => SinceLast.not_nil, fun _ => SinceLast.not_nil⟩
  | @snoc log events middle final label earlier last inductionHypothesis =>
      obtain ⟨whileCleared, whenDown⟩ := inductionHypothesis
      have effect := effect_of_step last
      refine ⟨fun cleared since => ?_, fun newest since => ?_⟩
      · obtain ⟨unspawned, phase | rfl⟩ := effect.phase_of_unspawned cleared
        · exact whileCleared phase
            (since.of_append fun event member => by
              simp [unspawned event member])
        · rw [SpawnedSince, SinceLast.snoc_iff] at since
          simp [isSpawned, clearsActors, registryCall?] at since
      · rcases List.eq_nil_or_concat events with rfl | ⟨front, event, rfl⟩
        · simp only [List.append_nil] at newest since
          exact whenDown newest since
        · obtain rfl : event = .shutDown := by simpa using newest
          obtain ⟨shown, phase, -, -⟩ := effect.returnsShutdown (by simp)
          rw [shown, SpawnedSince, SinceLast.snoc_iff] at since
          rcases since with spawned | ⟨-, older⟩
          · simp [isSpawned] at spawned
          · exact whileCleared phase older

/-- Every later call was refused, and left registries and mailboxes empty. -/
structure NothingAccepted
    (later : List (RuntimeEvent Value))
    (runtime : Runtime Value State Frame) : Prop where
  refused : ∀ event ∈ later, reportsSuccess event = false
  actors : runtime.actors = ∅
  senders : runtime.senders = ∅
  mailboxes : ∀ cell ∈ runtime.cells, cell.mailbox = []

/-- Without a `spawn`, everything stays quiet after a shutdown. -/
theorem Quiet.run
    {stopped runtime : Runtime Value State Frame}
    {later : List (RuntimeEvent Value)}
    (quiet : Quiet stopped)
    (run :
      Machine.Run (machine Value State Frame) stopped later runtime)
    (unspawned : ∀ event ∈ later, isSpawned event = false) :
    QuietStep stopped runtime later := by
  induction run with
  | nil => exact ⟨quiet, rfl, by simp⟩
  | @snoc log events middle final label earlier last inductionHypothesis =>
      have before :=
        inductionHypothesis fun event member =>
          unspawned event (List.mem_append_left events member)
      have now :=
        before.quiet.step (effect_of_step last) fun event member =>
          unspawned event (List.mem_append_right log member)
      refine ⟨now.quiet, now.sameCells.trans before.sameCells,
        fun event member => ?_⟩
      rcases List.mem_append.mp member with older | newest
      · exact before.refused event older
      · exact now.refused event newest

theorem keys_eq_nil_iff
    {Entry : ActorId → Type}
    (map : AList Entry) :
    map = ∅ ↔ ∀ id, id ∉ map := by
  constructor
  · rintro rfl id
    exact AList.notMem_empty id
  · intro none
    have keys : map.keys = [] :=
      List.eq_nil_iff_forall_not_mem.mpr none
    have entries : map.entries = [] := by
      simpa [AList.keys, List.keys] using keys
    exact AList.ext entries

/--
After `shutdown` has returned nothing is accepted, exactly when no actor was
spawned, no supervisor since the registry was cleared, and `shutdown` left no
envelope with a loop that no worker had started.
-/
theorem nothing_accepted_iff
    {mailboxCapacity : Nat}
    {log later : List (RuntimeEvent Value)}
    {stopped runtime : Runtime Value State Frame}
    (returned :
      Machine.Run (machine Value State Frame)
        (withConfig Value State Frame mailboxCapacity)
        (log ++ [.shutDown]) stopped)
    (run :
      Machine.Run (machine Value State Frame) stopped later runtime) :
    NothingAccepted later runtime ↔
      (∀ id cell, .spawned id cell ∉ later) ∧
        (∀ id, ¬ Supervisor (log ++ [.shutDown] ++ later) id) ∧
        ∀ cell ∈ stopped.cells, cell.mailbox = [] := by
  have quiet := (run_quiet returned).2 (by simp)
  have listed := mem_actors_iff (returned.append run)
  have quietly
      (unspawned : ∀ id cell, .spawned id cell ∉ later) :
      QuietStep stopped runtime later := by
    refine quiet.run run fun event member => ?_
    cases event with
    | spawned id cell => exact absurd member (unspawned id cell)
    | _ => rfl
  constructor
  · intro accepted
    have unspawned (id : ActorId) (cell : Nat) : .spawned id cell ∉ later := by
      intro member
      have refused := accepted.refused _ member
      simp [reportsSuccess] at refused
    refine ⟨unspawned, fun id supervises => ?_, ?_⟩
    · exact (keys_eq_nil_iff _).mp accepted.actors id
        ((listed id).mpr (registers_of_supervises supervises))
    · rw [← (quietly unspawned).sameCells]
      exact accepted.mailboxes
  · rintro ⟨unspawned, unsupervised, empty⟩
    have still := quietly unspawned
    refine
      { refused := still.refused
        actors := (keys_eq_nil_iff _).mpr fun id member => ?_
        senders := still.quiet.senders
        mailboxes := by rw [still.sameCells]; exact empty }
    obtain ⟨earlier, event, rest, split, registered, kept⟩ :=
      (listed id).mp member
    cases event with
    | supervisorSpawned other =>
        obtain rfl : other = id := by simpa [registers, registryCall?]
          using registered
        exact unsupervised other ⟨earlier, _, rest, split, rfl, kept⟩
    | spawned other cell =>
        have since : SpawnedSince (log ++ [.shutDown] ++ later) :=
          ⟨earlier, _, rest, split, rfl, kept⟩
        refine (run_spawnedSince returned).2 (by simp)
          (since.of_append fun shown shownMember => ?_)
        cases shown with
        | spawned id cell => exact absurd shownMember (unspawned id cell)
        | _ => simp [isSpawned]
    | _ => simp [registers, registryCall?] at registered

/-- An actor that never ran, and a shutdown. -/
def shutDownOnce : List (Label Unit Unit Unit) :=
  [.spawn idle (), .shutdown, .shutdown, .shutdown, .shutdown]

theorem nothing_accepted_iff_sends :
    ∃ stopped log runtime later,
      (machine Unit Unit Unit).run? (withConfig Unit Unit Unit 10)
          shutDownOnce = some (stopped, log ++ [.shutDown]) ∧
        (machine Unit Unit Unit).run? stopped
            [.send ⟨1⟩ ⟨0, ()⟩, .claimRequest, .request 0 ⟨1⟩ ⟨0, ()⟩] =
          some (runtime, later) ∧
        later =
          [.answered (.error (.actorNotFound ⟨1⟩)),
            .requestAnswered 0 (.error (.actorNotFound ⟨1⟩))] ∧
        NothingAccepted later runtime := by
  obtain ⟨stopped, runtime, log, later, down, executed, shown, full, empty⟩ :
      ∃ stopped runtime log later,
        (machine Unit Unit Unit).run? (withConfig Unit Unit Unit 10)
            shutDownOnce = some (stopped, log ++ [.shutDown]) ∧
          (machine Unit Unit Unit).run? stopped
              [.send ⟨1⟩ ⟨0, ()⟩, .claimRequest, .request 0 ⟨1⟩ ⟨0, ()⟩] =
            some (runtime, later) ∧
          later =
            [.answered (.error (.actorNotFound ⟨1⟩)),
              .requestAnswered 0 (.error (.actorNotFound ⟨1⟩))] ∧
          log = [.spawned ⟨1⟩ 0, .sendersCleared, .actorsCleared] ∧
          stopped.cells.map ActorCell.mailbox = [[]] :=
    ⟨_, _, [.spawned ⟨1⟩ 0, .sendersCleared, .actorsCleared], _,
      rfl, rfl, rfl, rfl, rfl⟩
  refine ⟨stopped, log, runtime, later, down, executed, shown,
    (nothing_accepted_iff (Machine.run?_sound _ down)
      (Machine.run?_sound _ executed)).mpr
      ⟨by simp [shown], fun id supervises => ?_, fun cell member => ?_⟩⟩
  · obtain ⟨earlier, event, rest, split, rfl, -⟩ := supervises
    have member : .supervisorSpawned id ∈ log ++ [.shutDown] ++ later := by
      rw [split]
      simp
    simp [full, shown] at member
  · have listed : cell.mailbox ∈ stopped.cells.map ActorCell.mailbox :=
      List.mem_map_of_mem member
    simpa [empty] using listed

/-- After a shutdown, an actor is spawned and a message to it accepted. -/
theorem accepted_after_shutdown :
    ∃ stopped log runtime later cell,
      (machine Unit Unit Unit).run? (withConfig Unit Unit Unit 10)
          shutDownOnce = some (stopped, log ++ [.shutDown]) ∧
        (machine Unit Unit Unit).run? stopped
            [.spawn idle (), .send ⟨1⟩ ⟨0, ()⟩] = some (runtime, later) ∧
        later =
          [.spawned ⟨1⟩ 1, .accepted 1 (.message ⟨0, ()⟩),
            .answered (.ok ())] ∧
        runtime.cells[1]? = some cell ∧
        cell.mailbox = [.message ⟨0, ()⟩] ∧
        runtime.loopStep? 1 0 = none ∧
        ¬ NothingAccepted later runtime := by
  obtain ⟨stopped, runtime, log, later, cell, down, executed, shown, here,
      queued, stuck⟩ :
      ∃ stopped runtime log later cell,
        (machine Unit Unit Unit).run? (withConfig Unit Unit Unit 10)
            shutDownOnce = some (stopped, log ++ [.shutDown]) ∧
          (machine Unit Unit Unit).run? stopped
              [.spawn idle (), .send ⟨1⟩ ⟨0, ()⟩] = some (runtime, later) ∧
          later =
            [.spawned ⟨1⟩ 1, .accepted 1 (.message ⟨0, ()⟩),
              .answered (.ok ())] ∧
          runtime.cells[1]? = some cell ∧
          cell.mailbox = [.message ⟨0, ()⟩] ∧
          runtime.loopStep? 1 0 = none :=
    ⟨_, _, [.spawned ⟨1⟩ 0, .sendersCleared, .actorsCleared], _, _,
      rfl, rfl, rfl, rfl, rfl, rfl⟩
  refine ⟨stopped, log, runtime, later, cell, down, executed, shown, here,
    queued, stuck, fun accepted => ?_⟩
  have refused := accepted.refused (.answered (.ok ())) (by simp [shown])
  cases refused

end Runact.Runtime
