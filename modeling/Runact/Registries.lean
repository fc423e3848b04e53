import Runact.ActorIds
import Runact.RuntimeEffect

namespace Runact.Runtime

/-!
# The two registries

`actors` is what the runtime lists, `senders` is what it routes by.  Actors are
entered into both and supervisors into the first one only; a shutdown clears
both.

`spawn` makes its entry in `actors` before it allocates the channel.  For a
capacity that crossbeam's `bounded` cannot allocate it panics in between, and
the entry stays.
-/

universe u

variable {Value State Frame : Type u}

/-- `Runtime::spawn` with a mailbox capacity for which `bounded` panics. -/
def spawnPanics
    (runtime : Runtime Value State Frame) :
    Runtime Value State Frame × List (RuntimeEvent Value) :=
  let id := runtime.nextActorId
  let info : ActorInfo := { id := id, name := none, mailboxDepth := 0 }
  ({ runtime with actors := runtime.actors.insert id info },
    [.spawnPanicked id])

/-- The runtime machine, with the capacities for which `bounded` returns. -/
def boundedMachine
    (Value State Frame : Type u)
    (allocates : Nat → Bool) :
    Machine (Runtime Value State Frame) (Label Value State Frame)
      (RuntimeEvent Value) where
  step?
    | runtime, .spawn actor state =>
        if allocates runtime.mailboxCapacity then
          (machine Value State Frame).step? runtime (.spawn actor state)
        else if runtime.shutdownPhase = .idle then
          some runtime.spawnPanics
        else
          none
    | runtime, label => (machine Value State Frame).step? runtime label

/-- Where every capacity is allocated, nothing is added. -/
theorem boundedMachine_always :
    boundedMachine Value State Frame (fun _ => true) =
      machine Value State Frame := by
  rw [boundedMachine, Machine.mk.injEq]
  funext runtime label
  cases label <;> rfl

/-- A step is one of the machine, or a `spawn` that panics. -/
theorem boundedMachine_step_cases
    {allocates : Nat → Bool}
    {before after : Runtime Value State Frame}
    {label : Label Value State Frame}
    {events : List (RuntimeEvent Value)}
    (step :
      (boundedMachine Value State Frame allocates).step? before label =
        some (after, events)) :
    (machine Value State Frame).step? before label = some (after, events) ∨
      allocates before.mailboxCapacity = false ∧
        before.spawnPanics = (after, events) := by
  cases label with
  | spawn actor state =>
      simp only [boundedMachine] at step
      split at step
      · exact .inl step
      · rename_i refused
        simp only [Option.ite_none_right_eq_some, Option.some.injEq] at step
        exact .inr ⟨Bool.eq_false_of_not_eq_true refused, step.2⟩
  | _ => exact .inl step

/-- The registry of actors is cleared. -/
def clearsActors (event : RuntimeEvent Value) : Prop :=
  registryCall? event = some .cleared

/-- The identifier is returned by `spawn` or by `spawn_supervisor`. -/
def registers (id : ActorId) (event : RuntimeEvent Value) : Prop :=
  registryCall? event = some (.registered id)

/-- The identifier is returned by `spawn_supervisor`. -/
def supervises (id : ActorId) (event : RuntimeEvent Value) : Prop :=
  event = .supervisorSpawned id

/-- A `spawn` that was to return the identifier panics. -/
def abandons (id : ActorId) (event : RuntimeEvent Value) : Prop :=
  event = .spawnPanicked id

/-- The identifier was returned, and not shut down since. -/
def Registered
    (log : List (RuntimeEvent Value))
    (id : ActorId) : Prop :=
  SinceLast clearsActors (registers id) log

/-- The identifier belongs to a supervisor that was not shut down since. -/
def Supervisor
    (log : List (RuntimeEvent Value))
    (id : ActorId) : Prop :=
  SinceLast clearsActors (supervises id) log

/-- The identifier is left over from a `spawn` that panicked, and not shut down
since. -/
def Abandoned
    (log : List (RuntimeEvent Value))
    (id : ActorId) : Prop :=
  SinceLast clearsActors (abandons id) log

/-- What the two registries hold, by the calls so far. -/
structure RegistriesSound
    (log : List (RuntimeEvent Value))
    (runtime : Runtime Value State Frame) : Prop where
  bounded : ∀ id ∈ runtime.actors.keys, id.asU64 ≤ runtime.actors.keys.length
  subset : ∀ id ∈ runtime.senders, id ∈ runtime.actors
  listed : ∀ id, id ∈ runtime.actors ↔ Registered log id ∨ Abandoned log id
  unrouted : ∀ id, Supervisor log id ∨ Abandoned log id → id ∉ runtime.senders
  routed :
    runtime.shutdownPhase ≠ .sendersCleared →
    ∀ id, Registered log id → Supervisor log id ∨ id ∈ runtime.senders
  cleared :
    runtime.shutdownPhase = .sendersCleared ∨
        runtime.shutdownPhase = .actorsCleared →
      runtime.senders = ∅

theorem registers_of_supervises
    {log : List (RuntimeEvent Value)}
    {id : ActorId}
    (supervisor : Supervisor log id) :
    Registered log id := by
  obtain ⟨earlier, event, later, rfl, rfl, kept⟩ := supervisor
  exact ⟨earlier, _, later, rfl, rfl, kept⟩

section Snoc

variable {log : List (RuntimeEvent Value)} {event : RuntimeEvent Value}
  {id : ActorId}

theorem registered_snoc :
    Registered (log ++ [event]) id ↔
      registryCall? event = some (.registered id) ∨
        registryCall? event ≠ some .cleared ∧ Registered log id :=
  SinceLast.snoc_iff

theorem supervisor_snoc :
    Supervisor (log ++ [event]) id ↔
      event = .supervisorSpawned id ∨
        registryCall? event ≠ some .cleared ∧ Supervisor log id :=
  SinceLast.snoc_iff

theorem abandoned_snoc :
    Abandoned (log ++ [event]) id ↔
      event = .spawnPanicked id ∨
        registryCall? event ≠ some .cleared ∧ Abandoned log id :=
  SinceLast.snoc_iff

end Snoc

/-- The event says nothing about the registries. -/
def OffRegistry (event : RuntimeEvent Value) : Prop :=
  registryCall? event = none ∧ ∀ id, event ≠ .spawnPanicked id

/-- No actor loop says anything about the registries. -/
theorem loopStep_offRegistry
    {runtime after : Runtime Value State Frame}
    {loop answer : Nat}
    {events : List (RuntimeEvent Value)}
    (step : runtime.loopStep? loop answer = some (after, events)) :
    ∀ event ∈ events, OffRegistry event := by
  refine fun event member =>
    ⟨(loopStep_registry step).2 event member, fun id panicked => ?_⟩
  subst panicked
  rcases loopStep_shows step _ member with
    ⟨shown, -⟩ | ⟨channel, envelope, differs, -⟩
  · simp [shownBy] at shown
  · cases differs

namespace RegistriesSound

variable {log events : List (RuntimeEvent Value)}
  {before after : Runtime Value State Frame}

/-- Steps that touch neither registry. -/
theorem others
    (sound : RegistriesSound log before)
    (sameActors : after.actors = before.actors)
    (sameSenders : after.senders = before.senders)
    (silent : ∀ event ∈ events, OffRegistry event)
    (phase :
      after.shutdownPhase = before.shutdownPhase ∨
        before.shutdownPhase ≠ .sendersCleared ∧
          after.shutdownPhase ≠ .sendersCleared ∧
          after.shutdownPhase ≠ .actorsCleared) :
    RegistriesSound (log ++ events) after := by
  have registered (id : ActorId) :
      Registered (log ++ events) id ↔ Registered log id :=
    SinceLast.append_iff fun event member => by
      simp [registers, clearsActors, (silent event member).1]
  have supervisor (id : ActorId) :
      Supervisor (log ++ events) id ↔ Supervisor log id :=
    SinceLast.append_iff fun event member => by
      refine ⟨fun supervises => ?_, ?_⟩
      · have quiet := (silent event member).1
        rw [supervises] at quiet
        cases quiet
      · simp [clearsActors, (silent event member).1]
  have abandoned (id : ActorId) :
      Abandoned (log ++ events) id ↔ Abandoned log id :=
    SinceLast.append_iff fun event member =>
      ⟨(silent event member).2 id, by
        simp [clearsActors, (silent event member).1]⟩
  constructor
  · rw [sameActors]
    exact sound.bounded
  · rw [sameActors, sameSenders]
    exact sound.subset
  · intro id
    rw [sameActors, registered, abandoned]
    exact sound.listed id
  · intro id
    rw [sameSenders, supervisor, abandoned]
    exact sound.unrouted id
  · intro open_ id
    rw [sameSenders, registered, supervisor]
    rcases phase with same | ⟨wasOpen, -⟩
    · exact sound.routed (same ▸ open_) id
    · exact sound.routed wasOpen id
  · rw [sameSenders]
    rcases phase with same | ⟨-, notSenders, notActors⟩
    · rw [same]
      exact sound.cleared
    · rintro (cleared | cleared)
      · exact absurd cleared notSenders
      · exact absurd cleared notActors

/-- The next identifier belongs to nobody. -/
theorem nextActorId_unknown
    (sound : RegistriesSound log before) :
    ¬ (Registered log before.nextActorId ∨
        Abandoned log before.nextActorId) := by
  rw [← sound.listed]
  exact nextActorId_fresh sound.bounded

/-- `spawn` enters the actor into both registries. -/
theorem spawned
    (sound : RegistriesSound log before)
    (idle : before.shutdownPhase = .idle)
    (actor : Actor Value State Frame)
    (state : State) :
    RegistriesSound
      (log ++ [.spawned before.nextActorId before.cells.length])
      (before.spawn actor state).1 := by
  have registered (id : ActorId) :
      Registered (log ++ [.spawned before.nextActorId before.cells.length])
          id ↔
        id = before.nextActorId ∨ Registered log id := by
    simp [registered_snoc, registryCall?, eq_comm]
  have supervisor (id : ActorId) :
      Supervisor (log ++ [.spawned before.nextActorId before.cells.length])
          id ↔
        Supervisor log id := by
    simp [supervisor_snoc, registryCall?]
  have abandoned (id : ActorId) :
      Abandoned (log ++ [.spawned before.nextActorId before.cells.length])
          id ↔
        Abandoned log id := by
    simp [abandoned_snoc, registryCall?]
  constructor
  · exact insert_nextActorId_bounded sound.bounded _
  · intro id member
    simp only [spawn, AList.mem_insert] at member ⊢
    exact member.imp_right (sound.subset id)
  · intro id
    simp only [spawn, AList.mem_insert, registered, abandoned, sound.listed,
      or_assoc]
  · intro id outside routed
    rw [supervisor, abandoned] at outside
    simp only [spawn, AList.mem_insert] at routed
    rcases routed with rfl | older
    · exact sound.nextActorId_unknown
        (outside.imp_left registers_of_supervises)
    · exact sound.unrouted id outside older
  · intro _ id returned
    simp only [spawn, AList.mem_insert, supervisor]
    rcases (registered id).mp returned with same | older
    · exact .inr (.inl same)
    · exact (sound.routed (by simp [idle]) id older).imp_right .inr
  · intro cleared
    have phase : (before.spawn actor state).1.shutdownPhase = .idle := idle
    simp [phase] at cleared

/-- `spawn_supervisor` enters the supervisor into one registry only. -/
theorem supervisorSpawned
    (sound : RegistriesSound log before) :
    RegistriesSound (log ++ [.supervisorSpawned before.nextActorId])
      before.spawnSupervisor.1 := by
  have registered (id : ActorId) :
      Registered (log ++ [.supervisorSpawned before.nextActorId]) id ↔
        id = before.nextActorId ∨ Registered log id := by
    simp [registered_snoc, registryCall?, eq_comm]
  have supervisor (id : ActorId) :
      Supervisor (log ++ [.supervisorSpawned before.nextActorId]) id ↔
        id = before.nextActorId ∨ Supervisor log id := by
    simp [supervisor_snoc, registryCall?, eq_comm]
  have abandoned (id : ActorId) :
      Abandoned (log ++ [.supervisorSpawned before.nextActorId]) id ↔
        Abandoned log id := by
    simp [abandoned_snoc, registryCall?]
  constructor
  · exact insert_nextActorId_bounded sound.bounded _
  · intro id member
    simp only [spawnSupervisor, AList.mem_insert] at member ⊢
    exact .inr (sound.subset id member)
  · intro id
    simp only [spawnSupervisor, AList.mem_insert, registered, abandoned,
      sound.listed, or_assoc]
  · intro id outside routed
    rw [supervisor, abandoned, or_assoc] at outside
    rcases outside with rfl | older
    · exact nextActorId_fresh sound.bounded (sound.subset _ routed)
    · exact sound.unrouted id older routed
  · intro open_ id returned
    simp only [spawnSupervisor, supervisor]
    rcases (registered id).mp returned with same | older
    · exact .inl (.inl same)
    · exact (sound.routed open_ id older).imp_left .inr
  · exact sound.cleared

/-- A `spawn` that panics has made its entry in one registry only. -/
theorem spawnPanicked
    (sound : RegistriesSound log before) :
    RegistriesSound (log ++ [.spawnPanicked before.nextActorId])
      before.spawnPanics.1 := by
  have registered (id : ActorId) :
      Registered (log ++ [.spawnPanicked before.nextActorId]) id ↔
        Registered log id := by
    simp [registered_snoc, registryCall?]
  have supervisor (id : ActorId) :
      Supervisor (log ++ [.spawnPanicked before.nextActorId]) id ↔
        Supervisor log id := by
    simp [supervisor_snoc, registryCall?]
  have abandoned (id : ActorId) :
      Abandoned (log ++ [.spawnPanicked before.nextActorId]) id ↔
        id = before.nextActorId ∨ Abandoned log id := by
    simp [abandoned_snoc, registryCall?, eq_comm]
  constructor
  · exact insert_nextActorId_bounded sound.bounded _
  · intro id member
    simp only [spawnPanics, AList.mem_insert] at member ⊢
    exact .inr (sound.subset id member)
  · intro id
    simp only [spawnPanics, AList.mem_insert, registered, abandoned,
      sound.listed, or_left_comm]
  · intro id outside routed
    rw [supervisor, abandoned, or_left_comm] at outside
    rcases outside with rfl | older
    · exact nextActorId_fresh sound.bounded (sound.subset _ routed)
    · exact sound.unrouted id older routed
  · intro open_ id
    rw [registered, supervisor]
    exact sound.routed open_ id
  · exact sound.cleared

/-- `shutdown` clears `senders` first. -/
theorem sendersCleared
    (sound : RegistriesSound log before) :
    RegistriesSound (log ++ [.sendersCleared])
      { before with
        senders := ∅
        writerWaits := false
        shutdownPhase := .sendersCleared } := by
  have registered (id : ActorId) :
      Registered (log ++ [.sendersCleared]) id ↔ Registered log id := by
    simp [registered_snoc, registryCall?]
  have abandoned (id : ActorId) :
      Abandoned (log ++ [.sendersCleared]) id ↔ Abandoned log id := by
    simp [abandoned_snoc, registryCall?]
  constructor
  · exact sound.bounded
  · intro id member
    exact absurd member (AList.notMem_empty id)
  · intro id
    rw [registered, abandoned]
    exact sound.listed id
  · intro id _
    exact AList.notMem_empty id
  · intro open_
    exact absurd rfl open_
  · exact fun _ => rfl

/-- `shutdown` then clears `actors`. -/
theorem actorsCleared
    (sound : RegistriesSound log before)
    (phase : before.shutdownPhase = .sendersCleared) :
    RegistriesSound (log ++ [.actorsCleared])
      { before with actors := ∅, shutdownPhase := .actorsCleared } := by
  have none := sound.cleared (.inl phase)
  have unregistered (id : ActorId) :
      ¬ Registered (log ++ [.actorsCleared]) id := by
    simp [registered_snoc, registryCall?]
  have unabandoned (id : ActorId) :
      ¬ Abandoned (log ++ [.actorsCleared]) id := by
    simp [abandoned_snoc, registryCall?]
  constructor
  · intro id member
    cases member
  · intro id member
    rw [none] at member
    exact absurd member (AList.notMem_empty id)
  · intro id
    simp [unregistered id, unabandoned id]
  · rintro id (supervises | panicked)
    · exact absurd (registers_of_supervises supervises) (unregistered id)
    · exact absurd panicked (unabandoned id)
  · intro _ id returned
    exact absurd returned (unregistered id)
  · exact fun _ => none

/-- Every step of the runtime keeps the registries sound. -/
theorem step
    (sound : RegistriesSound log before)
    (effect : Effect before after events) :
    RegistriesSound (log ++ events) after := by
  cases effect with
  | spawned actor state idle free => exact sound.spawned idle actor state
  | supervisorSpawned => exact sound.supervisorSpawned
  | sendersCleared phase free => exact sound.sendersCleared
  | actorsCleared phase => exact sound.actorsCleared phase
  | stopped phase =>
      exact sound.others rfl rfl (by simp) (.inr ⟨by simp [phase], by simp⟩)
  | shutDown phase done =>
      exact sound.others rfl rfl (by simp [OffRegistry, registryCall?])
        (.inr ⟨by simp [phase], by simp⟩)
  | sent target channel message sent found accepted =>
      obtain ⟨cell, -, -, -, rfl⟩ := offer_eq_accepted accepted
      exact sound.others rfl rfl (by simp [OffRegistry, registryCall?])
        (.inl rfl)
  | unblocked index waiting sent found accepted =>
      obtain ⟨cell, -, -, -, rfl⟩ := offer_eq_accepted accepted
      exact sound.others rfl rfl (by simp [OffRegistry, registryCall?])
        (.inl rfl)
  | requested call requestId target channel message sent claimed found
      accepted =>
      obtain ⟨cell, -, -, -, rfl⟩ := offer_eq_accepted accepted
      exact sound.others rfl rfl (by simp [OffRegistry, registryCall?])
        (.inl rfl)
  | looped index answer cell after events here step effect =>
      have frame := (loopStep_onlyLoops step).same
      refine sound.others ?_ ?_ (loopStep_offRegistry step) (.inl ?_) <;>
        rw [frame]
  | _ =>
      exact sound.others rfl rfl (by simp [OffRegistry, registryCall?])
        (.inl rfl)

end RegistriesSound

/-- Over every run, the registries hold what the calls so far have made them,
the calls that panicked included. -/
theorem bounded_run_registriesSound
    {allocates : Nat → Bool}
    {mailboxCapacity : Nat}
    {log : List (RuntimeEvent Value)}
    {runtime : Runtime Value State Frame}
    (run :
      Machine.Run (boundedMachine Value State Frame allocates)
        (withConfig Value State Frame mailboxCapacity) log runtime) :
    RegistriesSound log runtime := by
  induction run with
  | nil =>
      constructor
      · intro id member
        cases member
      · intro id member
        exact absurd member (AList.notMem_empty id)
      · intro id
        simp [withConfig, Registered, Abandoned, SinceLast.not_nil]
      · rintro id (supervises | panicked)
        · exact absurd supervises SinceLast.not_nil
        · exact absurd panicked SinceLast.not_nil
      · intro _ id returned
        exact absurd returned SinceLast.not_nil
      · exact fun _ => rfl
  | snoc label earlier last inductionHypothesis =>
      rcases boundedMachine_step_cases last with step | ⟨-, panicked⟩
      · exact inductionHypothesis.step (effect_of_step step)
      · obtain ⟨rfl, rfl⟩ := Prod.mk.inj panicked
        exact inductionHypothesis.spawnPanicked

/-- Every identifier that was returned and not shut down can be sent to. -/
def AllRouted
    (log : List (RuntimeEvent Value))
    (runtime : Runtime Value State Frame) : Prop :=
  ∀ id, Registered log id →
    ∀ message,
      .answered (.error (.actorNotFound id)) ∉ (runtime.send id message).2

/-- `send` finds the actor exactly when it is in `senders`. -/
theorem send_notFound_iff
    (runtime : Runtime Value State Frame)
    (id : ActorId)
    (message : AnyBox Value) :
    .answered (.error (.actorNotFound id)) ∈ (runtime.send id message).2 ↔
      id ∉ runtime.senders := by
  rw [← AList.lookup_eq_none]
  unfold send
  cases found : runtime.senders.lookup id with
  | none => simp
  | some channel =>
      simp only [reduceCtorEq, iff_false]
      split <;> simp

/-- No step of the runtime is a `spawn` that panics. -/
theorem Effect.unpanicked
    {before after : Runtime Value State Frame}
    {events : List (RuntimeEvent Value)}
    (effect : Effect before after events)
    (id : ActorId) :
    .spawnPanicked id ∉ events := by
  intro shown
  cases effect with
  | looped index answer cell after events here step effect =>
      exact (loopStep_offRegistry step _ shown).2 id rfl
  | _ => simp at shown

/-- Where the channels of a runtime are allocated, no `spawn` panics. -/
theorem not_abandoned_of_allocates
    {allocates : Nat → Bool}
    {mailboxCapacity : Nat}
    {log : List (RuntimeEvent Value)}
    {runtime : Runtime Value State Frame}
    (run :
      Machine.Run (boundedMachine Value State Frame allocates)
        (withConfig Value State Frame mailboxCapacity) log runtime)
    (allocated : allocates mailboxCapacity = true)
    (id : ActorId) :
    ¬ Abandoned log id := by
  have unpanicked :
      runtime.mailboxCapacity = mailboxCapacity ∧
        .spawnPanicked id ∉ log := by
    induction run with
    | nil => exact ⟨rfl, List.not_mem_nil⟩
    | snoc label earlier last inductionHypothesis =>
        obtain ⟨capacity, unshown⟩ := inductionHypothesis
        rcases boundedMachine_step_cases last with step | ⟨refused, -⟩
        · exact ⟨(step_mailboxCapacity step).trans capacity,
            List.not_mem_append unshown
              ((effect_of_step step).unpanicked id)⟩
        · rw [capacity, allocated] at refused
          cases refused
  rintro ⟨earlier, event, later, rfl, rfl, -⟩
  exact unpanicked.2 (by simp)

/-- Where every channel is allocated, what is listed is what was returned. -/
theorem mem_actors_iff
    {mailboxCapacity : Nat}
    {log : List (RuntimeEvent Value)}
    {runtime : Runtime Value State Frame}
    (run :
      Machine.Run (machine Value State Frame)
        (withConfig Value State Frame mailboxCapacity) log runtime)
    (id : ActorId) :
    id ∈ runtime.actors ↔ Registered log id := by
  rw [← boundedMachine_always] at run
  rw [(bounded_run_registriesSound run).listed,
    or_iff_left (not_abandoned_of_allocates run rfl id)]

/--
After every call the two registries agree exactly when no supervisor was spawned
and no `spawn` has panicked since the last shutdown, and every identifier that
was returned can be sent to exactly when no supervisor was spawned.  Only a
mailbox capacity that cannot be allocated makes `spawn` panic.
-/
theorem registries_agree_iff
    [Inhabited Value]
    {allocates : Nat → Bool}
    {mailboxCapacity : Nat}
    {log : List (RuntimeEvent Value)}
    {runtime : Runtime Value State Frame}
    (run :
      Machine.Run (boundedMachine Value State Frame allocates)
        (withConfig Value State Frame mailboxCapacity) log runtime)
    (returned : runtime.shutdownPhase = .idle) :
    ((∀ id, id ∈ runtime.actors ↔ id ∈ runtime.senders) ↔
        ∀ id, ¬ (Supervisor log id ∨ Abandoned log id)) ∧
      (AllRouted log runtime ↔ ∀ id, ¬ Supervisor log id) ∧
      (allocates mailboxCapacity = true → ∀ id, ¬ Abandoned log id) := by
  have sound := bounded_run_registriesSound run
  have routed
      (none : ∀ id, ¬ Supervisor log id)
      (id : ActorId)
      (registered : Registered log id) :
      id ∈ runtime.senders :=
    (sound.routed (by simp [returned]) id registered).resolve_left (none id)
  refine ⟨⟨fun agree id outside => ?_, fun none id => ⟨fun member => ?_,
      sound.subset id⟩⟩,
    ⟨fun all id supervises => ?_, fun none id registered message => ?_⟩,
    not_abandoned_of_allocates run⟩
  · have member :=
      (sound.listed id).mpr (outside.imp_left registers_of_supervises)
    exact sound.unrouted id outside ((agree id).mp member)
  · have registered :=
      ((sound.listed id).mp member).resolve_right fun panicked =>
        none id (.inr panicked)
    exact routed (fun other supervises => none other (.inl supervises)) id
      registered
  · exact all id (registers_of_supervises supervises) ⟨0, default⟩
      ((send_notFound_iff runtime id _).mpr
        (sound.unrouted id (.inl supervises)))
  · rw [send_notFound_iff, not_not]
    exact routed none id registered

/-- Channels of up to a million envelopes are allocated. -/
def uptoMillion (capacity : Nat) : Bool := decide (capacity ≤ 1000000)

/-- A supervisor that was shut down, and an actor spawned after it. -/
theorem registries_agree_iff_reopened :
    ∃ runtime log,
      (boundedMachine Unit Unit Unit uptoMillion).run?
          (withConfig Unit Unit Unit 10)
          [.spawnSupervisor, .shutdown, .shutdown, .shutdown, .shutdown,
            .spawn idle ()] =
          some (runtime, log) ∧
        runtime.actors.keys = [⟨1⟩] ∧
        ∀ id, id ∈ runtime.actors ↔ id ∈ runtime.senders := by
  obtain ⟨runtime, log, executed, returned, keys, shown⟩ :
      ∃ runtime log,
        (boundedMachine Unit Unit Unit uptoMillion).run?
            (withConfig Unit Unit Unit 10)
            [.spawnSupervisor, .shutdown, .shutdown, .shutdown, .shutdown,
              .spawn idle ()] =
            some (runtime, log) ∧
          runtime.shutdownPhase = .idle ∧
          runtime.actors.keys = [⟨1⟩] ∧
          log =
            [.supervisorSpawned ⟨1⟩, .sendersCleared] ++ [.actorsCleared] ++
              [.shutDown, .spawned ⟨1⟩ 0] :=
    ⟨_, _, rfl, rfl, rfl, rfl⟩
  obtain ⟨agree, -, unpanicked⟩ :=
    registries_agree_iff (Machine.run?_sound _ executed) returned
  refine ⟨runtime, log, executed, keys, agree.mpr fun id => ?_⟩
  rintro (supervised | panicked)
  · rw [shown, Supervisor, SinceLast.append_iff (by
      simp [supervises, clearsActors, registryCall?]),
      SinceLast.snoc_iff] at supervised
    simp [supervises, clearsActors, registryCall?] at supervised
  · exact unpanicked rfl id panicked

/-- A `spawn` that panics leaves an actor behind that nobody can send to. -/
example :
    ∃ runtime log,
      (boundedMachine Unit Unit Unit uptoMillion).run?
          (withConfig Unit Unit Unit (2 ^ 64 - 1)) [.spawn idle ()] =
          some (runtime, log) ∧
        runtime.actors.keys = [⟨1⟩] ∧ runtime.senders.keys = [] :=
  ⟨_, _, rfl, rfl, rfl⟩

/-- A supervisor is listed, but nobody can send to it. -/
theorem registries_disagree :
    ∃ runtime log,
      (boundedMachine Unit Unit Unit uptoMillion).run?
          (withConfig Unit Unit Unit 10)
          [.spawnSupervisor] = some (runtime, log) ∧
        runtime.shutdownPhase = .idle ∧
        log = [.supervisorSpawned ⟨1⟩] ∧
        (runtime.send ⟨1⟩ ⟨0, ()⟩).2 =
          [.answered (.error (.actorNotFound ⟨1⟩))] ∧
        ¬ ∀ id, id ∈ runtime.actors ↔ id ∈ runtime.senders := by
  obtain ⟨runtime, log, executed, returned, shown, answer, listed,
      unrouted⟩ :
      ∃ runtime log,
        (boundedMachine Unit Unit Unit uptoMillion).run?
            (withConfig Unit Unit Unit 10)
            [.spawnSupervisor] = some (runtime, log) ∧
          runtime.shutdownPhase = .idle ∧
          log = [.supervisorSpawned ⟨1⟩] ∧
          (runtime.send ⟨1⟩ ⟨0, ()⟩).2 =
            [.answered (.error (.actorNotFound ⟨1⟩))] ∧
          runtime.actors.keys = [⟨1⟩] ∧
          runtime.senders.keys = [] :=
    ⟨_, _, rfl, rfl, rfl, rfl, rfl, rfl⟩
  refine ⟨runtime, log, executed, returned, shown, answer, fun agree => ?_⟩
  have routed := (agree ⟨1⟩).mp (AList.mem_keys.mpr (by simp [listed]))
  rw [AList.mem_keys, unrouted] at routed
  cases routed

end Runact.Runtime
