import Runact.RuntimeFrame

namespace Runact.Runtime

open List

/-!
# Actor identifiers

`spawn` and `spawn_supervisor` compute the next identifier from the size of the
registry, and `shutdown` empties the registry.  Between two shutdowns the
identifiers count up from one, so they repeat exactly when a registration
precedes a shutdown and another one follows it.
-/

universe u

variable {Value State Frame : Type u}

/-- What a call does to the registry of actors. -/
inductive RegistryCall where
  /-- `spawn` or `spawn_supervisor` returned this identifier. -/
  | registered (id : ActorId)
  /-- `shutdown` cleared the registry. -/
  | cleared

/-- The registry call an event stands for, if it does. -/
def registryCall? : RuntimeEvent Value → Option RegistryCall
  | .spawned id _ => some (.registered id)
  | .supervisorSpawned id => some (.registered id)
  | .actorsCleared => some .cleared
  | _ => none

/-- The registry calls of a log, in order. -/
def registryCalls
    (log : List (RuntimeEvent Value)) : List RegistryCall :=
  log.filterMap registryCall?

/-- The identifier a call returned. -/
def RegistryCall.id? : RegistryCall → Option ActorId
  | .registered id => some id
  | .cleared => none

/-- All identifiers that were returned, in order. -/
def returnedIds (calls : List RegistryCall) : List ActorId :=
  calls.filterMap RegistryCall.id?

/-- A registration, later a shutdown, and after that another registration. -/
def RegistersAgain (calls : List RegistryCall) : Prop :=
  ∃ first second,
    [.registered first, .cleared, .registered second] <+ calls

/-- The size of the registry after some calls. -/
def registrySize : Nat → List RegistryCall → Nat
  | size, [] => size
  | size, .registered _ :: rest => registrySize (size + 1) rest
  | _, .cleared :: rest => registrySize 0 rest

/-- Every identifier returned is the size of the registry plus one. -/
def Allocated : Nat → List RegistryCall → Prop
  | _, [] => True
  | size, .registered id :: rest =>
      id = ⟨size + 1⟩ ∧ Allocated (size + 1) rest
  | _, .cleared :: rest => Allocated 0 rest

/-- The identifiers of a registry of a given size: one up to the size. -/
def idsUpTo (size : Nat) : List ActorId :=
  (List.range size).map fun index => ⟨index + 1⟩

theorem idsUpTo_succ (size : Nat) :
    idsUpTo (size + 1) = idsUpTo size ++ [⟨size + 1⟩] := by
  simp [idsUpTo, List.range_succ]

theorem nodup_idsUpTo (size : Nat) : (idsUpTo size).Nodup := by
  refine List.nodup_range.map fun first second same => ?_
  simpa using same

theorem first_mem_idsUpTo
    {size : Nat}
    (positive : 0 < size) :
    ⟨1⟩ ∈ idsUpTo size := by
  simp only [idsUpTo, List.mem_map, List.mem_range, ActorId.mk.injEq]
  exact ⟨0, positive, rfl⟩

theorem registrySize_append
    (size : Nat)
    (calls later : List RegistryCall) :
    registrySize size (calls ++ later) =
      registrySize (registrySize size calls) later := by
  induction calls generalizing size with
  | nil =>
      rfl
  | cons call rest inductionHypothesis =>
      cases call with
      | registered id =>
          exact inductionHypothesis (size + 1)
      | cleared =>
          exact inductionHypothesis 0

theorem allocated_append
    {size : Nat}
    {calls later : List RegistryCall} :
    Allocated size (calls ++ later) ↔
      Allocated size calls ∧
        Allocated (registrySize size calls) later := by
  induction calls generalizing size with
  | nil =>
      simp [Allocated, registrySize]
  | cons call rest inductionHypothesis =>
      cases call with
      | registered id =>
          simp [Allocated, registrySize, inductionHypothesis, and_assoc]
      | cleared =>
          simp [Allocated, registrySize, inductionHypothesis]

/-- After a shutdown, the first registration returns the identifier one. -/
theorem first_mem_returnedIds
    {calls : List RegistryCall}
    {id : ActorId}
    (allocated : Allocated 0 calls)
    (member : .registered id ∈ calls) :
    ⟨1⟩ ∈ returnedIds calls := by
  induction calls with
  | nil =>
      simp at member
  | cons call rest inductionHypothesis =>
      cases call with
      | registered first =>
          obtain ⟨rfl, -⟩ := allocated
          simp [returnedIds, RegistryCall.id?]
      | cleared =>
          have later : .registered id ∈ rest := by simpa using member
          have found := inductionHypothesis allocated later
          simpa [returnedIds, RegistryCall.id?] using found

/-- With a registry in use, a repetition takes a shutdown and a registration. -/
theorem nodup_append_iff
    {size : Nat}
    {calls : List RegistryCall}
    (positive : 0 < size)
    (allocated : Allocated size calls) :
    (idsUpTo size ++ returnedIds calls).Nodup ↔
      ¬ ∃ second, [.cleared, .registered second] <+ calls := by
  induction calls generalizing size with
  | nil =>
      simp [returnedIds, nodup_idsUpTo]
  | cons call rest inductionHypothesis =>
      cases call with
      | registered id =>
          obtain ⟨rfl, allocated⟩ := allocated
          have shifted :
              idsUpTo size ++
                  returnedIds (.registered ⟨size + 1⟩ :: rest) =
                idsUpTo (size + 1) ++ returnedIds rest := by
            simp [returnedIds, RegistryCall.id?, idsUpTo_succ]
          rw [shifted, inductionHypothesis (Nat.succ_pos size) allocated]
          simp [List.sublist_cons_iff]
      | cleared =>
          have sameIds :
              returnedIds (.cleared :: rest) = returnedIds rest := rfl
          rw [sameIds]
          by_cases later : ∃ id, .registered id ∈ rest
          · obtain ⟨id, member⟩ := later
            have repeated : ¬ (idsUpTo size ++ returnedIds rest).Nodup := by
              intro distinct
              exact (List.nodup_append.mp distinct).2.2 ⟨1⟩
                (first_mem_idsUpTo positive) ⟨1⟩
                (first_mem_returnedIds allocated member) rfl
            refine iff_of_false repeated (not_not.mpr ⟨id, ?_⟩)
            exact (List.singleton_sublist.mpr member).cons_cons _
          · have none : returnedIds rest = [] := by
              refine List.filterMap_eq_nil_iff.mpr fun call member => ?_
              cases call with
              | registered id =>
                  exact (later ⟨id, member⟩).elim
              | cleared =>
                  rfl
            rw [none, List.append_nil]
            refine iff_of_true (nodup_idsUpTo size) ?_
            rintro ⟨second, sublist⟩
            have member : .registered second ∈ RegistryCall.cleared :: rest :=
              sublist.subset (by simp)
            exact later ⟨second, by simpa using member⟩

/-- Counted identifiers repeat exactly when a registry is used again. -/
theorem returnedIds_nodup_iff
    {calls : List RegistryCall}
    (allocated : Allocated 0 calls) :
    (returnedIds calls).Nodup ↔ ¬ RegistersAgain calls := by
  induction calls with
  | nil =>
      simp [returnedIds, RegistersAgain]
  | cons call rest inductionHypothesis =>
      cases call with
      | registered id =>
          obtain ⟨rfl, allocated⟩ := allocated
          have single := nodup_append_iff Nat.one_pos allocated
          have sameIds :
              returnedIds (.registered ⟨0 + 1⟩ :: rest) =
                idsUpTo 1 ++ returnedIds rest := by
            simp [returnedIds, RegistryCall.id?, idsUpTo]
          rw [sameIds, single, RegistersAgain, not_iff_not]
          constructor
          · rintro ⟨second, sublist⟩
            exact ⟨_, second, sublist.cons_cons _⟩
          · rintro ⟨first, second, sublist⟩
            refine ⟨second, ?_⟩
            rcases List.sublist_cons_iff.mp sublist with deeper | ⟨_, same, tail⟩
            · exact (List.sublist_cons_self _ _).trans deeper
            · obtain ⟨-, rfl⟩ := List.cons.inj same
              exact tail
      | cleared =>
          have sameIds :
              returnedIds (.cleared :: rest) = returnedIds rest := rfl
          rw [sameIds, inductionHypothesis allocated, RegistersAgain,
            RegistersAgain]
          simp [List.sublist_cons_iff]

/-- The registry is as the calls so far have made it. -/
structure RegistrySound
    (log : List (RuntimeEvent Value))
    (runtime : Runtime Value State Frame) : Prop where
  size : runtime.actors.keys.length = registrySize 0 (registryCalls log)
  bounded : ∀ id ∈ runtime.actors.keys, id.asU64 ≤ runtime.actors.keys.length
  allocated : Allocated 0 (registryCalls log)

/-- Where identifiers are counted, the next one is not in use. -/
theorem nextActorId_fresh
    {runtime : Runtime Value State Frame}
    (bounded :
      ∀ id ∈ runtime.actors.keys, id.asU64 ≤ runtime.actors.keys.length) :
    runtime.nextActorId ∉ runtime.actors.keys := by
  intro member
  have small := bounded _ member
  simp [nextActorId] at small

/-- An entry under the next identifier makes the registry longer by one. -/
theorem keys_insert_nextActorId
    {runtime : Runtime Value State Frame}
    (bounded :
      ∀ id ∈ runtime.actors.keys, id.asU64 ≤ runtime.actors.keys.length)
    (info : ActorInfo) :
    (runtime.actors.insert runtime.nextActorId info).keys =
      runtime.nextActorId :: runtime.actors.keys := by
  rw [AList.keys_insert, List.erase_of_not_mem (nextActorId_fresh bounded)]

/-- An entry under the next identifier keeps the identifiers counted. -/
theorem insert_nextActorId_bounded
    {runtime : Runtime Value State Frame}
    (bounded :
      ∀ id ∈ runtime.actors.keys, id.asU64 ≤ runtime.actors.keys.length)
    (info : ActorInfo) :
    ∀ id ∈ (runtime.actors.insert runtime.nextActorId info).keys,
      id.asU64 ≤
        (runtime.actors.insert runtime.nextActorId info).keys.length := by
  rw [keys_insert_nextActorId bounded]
  intro id member
  rcases List.mem_cons.mp member with rfl | older
  · simp [nextActorId]
  · have small := bounded id older
    simp only [List.length_cons]
    omega

/-- Registering under the next identifier adds an entry. -/
theorem RegistrySound.register
    {log : List (RuntimeEvent Value)}
    {runtime after : Runtime Value State Frame}
    {event : RuntimeEvent Value}
    {info : ActorInfo}
    (sound : RegistrySound log runtime)
    (inserted :
      after.actors = runtime.actors.insert runtime.nextActorId info)
    (shown :
      registryCall? event = some (.registered runtime.nextActorId)) :
    RegistrySound (log ++ [event]) after := by
  have calls :
      registryCalls (log ++ [event]) =
        registryCalls log ++ [.registered runtime.nextActorId] := by
    simp [registryCalls, shown]
  refine { size := ?_, bounded := ?_, allocated := ?_ }
  · rw [inserted, keys_insert_nextActorId sound.bounded, calls,
      registrySize_append, ← sound.size]
    rfl
  · rw [inserted]
    exact insert_nextActorId_bounded sound.bounded info
  · rw [calls, allocated_append, ← sound.size]
    exact ⟨sound.allocated, rfl, trivial⟩

/-- Clearing the registry starts the count again. -/
theorem RegistrySound.clear
    {log : List (RuntimeEvent Value)}
    {runtime after : Runtime Value State Frame}
    (sound : RegistrySound log runtime)
    (cleared : after.actors = ∅) :
    RegistrySound (log ++ [.actorsCleared]) after := by
  have calls :
      registryCalls (log ++ [.actorsCleared]) =
        registryCalls log ++ [.cleared] := by
    simp [registryCalls, registryCall?]
  have keys : after.actors.keys = [] := by
    rw [cleared]
    rfl
  refine { size := ?_, bounded := ?_, allocated := ?_ }
  · rw [keys, calls, registrySize_append]
    rfl
  · rw [keys]
    simp
  · rw [calls, allocated_append]
    exact ⟨sound.allocated, trivial⟩

/-- Other steps show no registry call and leave the registry as it is. -/
theorem RegistrySound.others
    {log events : List (RuntimeEvent Value)}
    {runtime after : Runtime Value State Frame}
    (sound : RegistrySound log runtime)
    (same : after.actors = runtime.actors)
    (silent : ∀ event ∈ events, registryCall? event = none) :
    RegistrySound (log ++ events) after := by
  have calls : registryCalls (log ++ events) = registryCalls log := by
    rw [registryCalls, List.filterMap_append,
      List.filterMap_eq_nil_iff.mpr silent, List.append_nil]
    rfl
  refine { size := ?_, bounded := ?_, allocated := ?_ }
  · rw [same, calls]
    exact sound.size
  · rw [same]
    exact sound.bounded
  · rw [calls]
    exact sound.allocated

/-- No actor loop touches the registry. -/
theorem loopStep_registry
    {runtime after : Runtime Value State Frame}
    {loop answer : Nat}
    {events : List (RuntimeEvent Value)}
    (step : runtime.loopStep? loop answer = some (after, events)) :
    after.actors = runtime.actors ∧
      ∀ event ∈ events, registryCall? event = none := by
  constructor
  · rw [(loopStep_onlyLoops step).same]
  · intro event member
    rcases loopStep_shows step event member with
      ⟨shown, -⟩ | ⟨channel, envelope, rfl, -⟩
    · cases event <;> simp_all [shownBy, registryCall?]
    · rfl

/-- The calls through `&self` and the loops, `spawn_supervisor` apart. -/
def Label.isShared : Label Value State Frame → Bool
  | .spawn _ _ => false
  | .awaitSenders _ => false
  | .spawnSupervisor => false
  | .shutdown => false
  | _ => true

/-- Only `spawn`, `spawn_supervisor` and `shutdown` touch the registry. -/
theorem shared_registry
    {runtime after : Runtime Value State Frame}
    {label : Label Value State Frame}
    {events : List (RuntimeEvent Value)}
    (shared : label.isShared = true)
    (step :
      (machine Value State Frame).step? runtime label = some (after, events)) :
    after.actors = runtime.actors ∧
      ∀ event ∈ events, registryCall? event = none := by
  cases label with
  | spawn actor state => cases shared
  | awaitSenders waits => cases shared
  | spawnSupervisor => cases shared
  | shutdown => cases shared
  | loop moved answer => exact loopStep_registry step
  | request call target message =>
      simp only [machine] at step
      cases claimed : runtime.claimedRequests[call]? with
      | none =>
          simp [claimed] at step
      | some requestId =>
          simp only [claimed, request] at step
          constructor
          · split at step
            · grind
            · split at step <;> grind
          · split at step
            · grind [registryCall?]
            · split at step <;> grind [registryCall?]
  | _ =>
      simp only [machine, send, sendBlocking, deliverTimer, unblock?] at step
      constructor
      · grind [setReply]
      · grind [registryCall?]

/-- Every step keeps the registry sound. -/
theorem RegistrySound.step
    {log events : List (RuntimeEvent Value)}
    {runtime after : Runtime Value State Frame}
    {label : Label Value State Frame}
    (sound : RegistrySound log runtime)
    (step :
      (machine Value State Frame).step? runtime label = some (after, events)) :
    RegistrySound (log ++ events) after := by
  cases label with
  | spawn actor state =>
      simp only [machine, spawn, Option.ite_none_right_eq_some,
        Option.some.injEq, Prod.mk.injEq] at step
      obtain ⟨-, rfl, rfl⟩ := step
      exact sound.register rfl rfl
  | awaitSenders waits =>
      simp only [machine, Option.ite_none_right_eq_some, Option.some.injEq,
        Prod.mk.injEq] at step
      obtain ⟨-, rfl, rfl⟩ := step
      exact sound.others rfl (by simp)
  | spawnSupervisor =>
      simp only [machine, spawnSupervisor, Option.some.injEq,
        Prod.mk.injEq] at step
      obtain ⟨rfl, rfl⟩ := step
      exact sound.register rfl rfl
  | shutdown =>
      simp only [machine, shutdownStep?] at step
      split at step
      · simp only [Option.some.injEq, Prod.mk.injEq] at step
        obtain ⟨rfl, rfl⟩ := step
        exact sound.others rfl (by simp)
      · split at step
        · simp only [Option.some.injEq, Prod.mk.injEq] at step
          obtain ⟨rfl, rfl⟩ := step
          exact sound.others rfl (List.forall_mem_singleton.mpr rfl)
        · cases step
      · simp only [Option.some.injEq, Prod.mk.injEq] at step
        obtain ⟨rfl, rfl⟩ := step
        exact sound.clear rfl
      · split at step
        · simp only [Option.some.injEq, Prod.mk.injEq] at step
          obtain ⟨rfl, rfl⟩ := step
          exact sound.others rfl (List.forall_mem_singleton.mpr rfl)
        · cases step
  | _ =>
      obtain ⟨same, silent⟩ := shared_registry rfl step
      exact sound.others same silent

/-- Over every run the registry is as its calls have made it. -/
theorem run_registrySound
    {mailboxCapacity : Nat}
    {log : List (RuntimeEvent Value)}
    {runtime : Runtime Value State Frame}
    (run :
      Machine.Run (machine Value State Frame)
        (withConfig Value State Frame mailboxCapacity) log runtime) :
    RegistrySound log runtime :=
  run.history RegistrySound (fun sound step => sound.step step)
    { size := rfl
      bounded := by
        intro id member
        cases member
      allocated := trivial }

/--
The identifiers returned over a run are pairwise distinct exactly when no
shutdown clears the registry between two registrations.
-/
theorem returnedIds_distinct_iff
    {mailboxCapacity : Nat}
    {log : List (RuntimeEvent Value)}
    {runtime : Runtime Value State Frame}
    (run :
      Machine.Run (machine Value State Frame)
        (withConfig Value State Frame mailboxCapacity) log runtime) :
    (returnedIds (registryCalls log)).Nodup ↔
      ¬ RegistersAgain (registryCalls log) :=
  returnedIds_nodup_iff (run_registrySound run).allocated

/-- An actor without messages of its own. -/
def idle : Actor Unit Unit Unit where
  messageType := 0
  handle := fun _ _ => ()
  next := fun _ => .returns ()

/-- Two actors and a supervisor, and a shutdown with the loops ended. -/
def oneLife : List (Label Unit Unit Unit) :=
  [.spawn idle (), .spawnSupervisor, .spawn idle (), .shutdown,
    .loop 0 0, .loop 0 0, .loop 0 0, .loop 0 0,
    .loop 1 0, .loop 1 0, .loop 1 0, .loop 1 0,
    .shutdown, .shutdown, .shutdown]

theorem returnedIds_distinct_iff_oneLife :
    ∃ runtime log,
      (machine Unit Unit Unit).run? (withConfig Unit Unit Unit 10) oneLife =
          some (runtime, log) ∧
        returnedIds (registryCalls log) = [⟨1⟩, ⟨2⟩, ⟨3⟩] ∧
        ((returnedIds (registryCalls log)).Nodup ↔
          ¬ RegistersAgain (registryCalls log)) := by
  obtain ⟨runtime, log, executed, ids⟩ :
      ∃ runtime log,
        (machine Unit Unit Unit).run? (withConfig Unit Unit Unit 10) oneLife =
            some (runtime, log) ∧
          returnedIds (registryCalls log) = [⟨1⟩, ⟨2⟩, ⟨3⟩] :=
    ⟨_, _, rfl, rfl⟩
  exact ⟨runtime, log, executed, ids,
    returnedIds_distinct_iff (Machine.run?_sound _ executed)⟩

/-- After a whole shutdown, the next `spawn` returns an identifier again. -/
theorem returnedIds_repeat :
    ∃ runtime log,
      (machine Unit Unit Unit).run? (withConfig Unit Unit Unit 10)
          (oneLife ++ [.spawn idle ()]) = some (runtime, log) ∧
        returnedIds (registryCalls log) = [⟨1⟩, ⟨2⟩, ⟨3⟩, ⟨1⟩] ∧
        ¬ (returnedIds (registryCalls log)).Nodup := by
  refine ⟨_, _, rfl, rfl, ?_⟩
  decide

end Runact.Runtime
