import Runact.Registries

namespace Runact.Runtime

/-!
# Introspection

`list_actors` and `inspect_actor` clone what the registry holds.  The depth
stored there is the one `spawn` has put in, and no enqueue or dequeue updates
it, so what is reported is true of empty mailboxes only.  Until a shutdown
clears the registry both calls report every actor that was spawned.
-/

universe u

variable {Value State Frame : Type u}

/-- `Runtime::list_actors`; the registry lock is never poisoned. -/
def listActors
    (runtime : Runtime Value State Frame) :
    Except RuntimeError (List ActorInfo) :=
  .ok (runtime.actors.entries.map Sigma.snd)

/-- `Runtime::inspect_actor`. -/
def inspectActor
    (runtime : Runtime Value State Frame)
    (id : ActorId) : Except RuntimeError (Option ActorInfo) :=
  .ok (runtime.actors.lookup id)

/-- The registry entry of every actor names it, with the depth it was
registered with. -/
def Untouched (runtime : Runtime Value State Frame) : Prop :=
  ∀ id info,
    runtime.actors.lookup id = some info →
    info.id = id ∧ info.mailboxDepth = 0

namespace Untouched

variable {runtime : Runtime Value State Frame}

/-- A new entry is as it should be, and the others stay. -/
theorem insert
    {id : ActorId}
    {info : ActorInfo}
    (untouched : Untouched runtime)
    (named : info.id = id)
    (empty : info.mailboxDepth = 0) :
    ∀ other known,
      (runtime.actors.insert id info).lookup other = some known →
      known.id = other ∧ known.mailboxDepth = 0 := by
  intro other known registered
  by_cases same : other = id
  · subst same
    rw [AList.lookup_insert, Option.some.injEq] at registered
    subst registered
    exact ⟨named, empty⟩
  · rw [AList.lookup_insert_ne same] at registered
    exact untouched other known registered

/-- A step of an actor loop leaves the registry alone. -/
theorem looped
    {after : Runtime Value State Frame}
    {index answer : Nat}
    {events : List (RuntimeEvent Value)}
    (untouched : Untouched runtime)
    (step : runtime.loopStep? index answer = some (after, events)) :
    Untouched after := by
  rw [(loopStep_onlyLoops step).same]
  exact untouched

/-- No step updates a depth. -/
theorem step
    {after : Runtime Value State Frame}
    {events : List (RuntimeEvent Value)}
    (untouched : Untouched runtime)
    (effect : Effect runtime after events) :
    Untouched after := by
  cases effect with
  | spawned actor state idle free => exact untouched.insert rfl rfl
  | supervisorSpawned => exact untouched.insert rfl rfl
  | sent target channel message _ found accepted =>
      rw [(onlyLoops_of_offer accepted).same]
      exact untouched
  | unblocked index waiting sent found accepted =>
      rw [(onlyLoops_of_offer accepted).same]
      exact untouched
  | requested call requestId target channel message sent claimed found
      accepted =>
      rw [(onlyLoops_of_offer accepted).same]
      exact untouched
  | actorsCleared phase =>
      intro id info registered
      simp at registered
  | looped index answer cell _ _ here step effect =>
      exact untouched.looped step
  | _ => exact untouched

end Untouched

/-- Over every run, the registry is as it was written at the spawns. -/
theorem run_untouched
    {mailboxCapacity : Nat}
    {log : List (RuntimeEvent Value)}
    {runtime : Runtime Value State Frame}
    (run :
      Machine.Run (machine Value State Frame)
        (withConfig Value State Frame mailboxCapacity) log runtime) :
    Untouched runtime :=
  run.invariant Untouched
    (fun untouched step => untouched.step (effect_of_step step))
    fun id info registered => by simp [withConfig] at registered

/-- What one of the two calls reports for the actor. -/
def Reports
    (runtime : Runtime Value State Frame)
    (id : ActorId)
    (info : ActorInfo) : Prop :=
  runtime.inspectActor id = .ok (some info) ∨
    ∃ infos, runtime.listActors = .ok infos ∧ info ∈ infos ∧ info.id = id

theorem depth_of_reports
    {runtime : Runtime Value State Frame}
    {id : ActorId}
    {info : ActorInfo}
    (untouched : Untouched runtime)
    (reports : Reports runtime id info) :
    info.mailboxDepth = 0 := by
  rcases reports with inspected | ⟨infos, listed, member, -⟩
  · simp only [inspectActor, Except.ok.injEq] at inspected
    exact (untouched id info inspected).2
  · simp only [listActors, Except.ok.injEq] at listed
    subst listed
    obtain ⟨entry, inside, rfl⟩ := List.mem_map.mp member
    exact (untouched entry.1 entry.2 (AList.mem_lookup_iff.mpr inside)).2

/-- A loop keeps the id it was spawned with. -/
theorem LoopEffect.sameId
    {runtime after : Runtime Value State Frame}
    {index : Nat}
    {cell : ActorCell Value State Frame}
    {events : List (RuntimeEvent Value)}
    (effect : LoopEffect runtime index cell after events)
    (here : runtime.cells[index]? = some cell) :
    ∃ moved, after.cells[index]? = some moved ∧ moved.id = cell.id := by
  cases effect with
  | sent draining channel envelope resume _ position accepted =>
      obtain ⟨target, there, -, -, rfl⟩ := offer_eq_accepted accepted
      by_cases self : channel = index <;>
        simp [moveTo, modifyCell, here, self]
  | _ =>
      simp [moveTo, modifyCell, setReply, ActorCell.drop, here]

/-- A loop spawns nobody. -/
theorem LoopEffect.notSpawned
    {runtime after : Runtime Value State Frame}
    {index channel : Nat}
    {id : ActorId}
    {cell : ActorCell Value State Frame}
    {events : List (RuntimeEvent Value)}
    (effect : LoopEffect runtime index cell after events) :
    .spawned id channel ∉ events := by
  cases effect with
  | skipped draining envelope rest reductions yields position queue foreign
      shown =>
      rcases shown with rfl | rfl <;> simp
  | returned draining frame state reductions yields position action shown =>
      rcases shown with rfl | rfl <;> simp
  | _ => simp

/-- Over every run, the loop of a spawned actor is there under its id. -/
theorem run_spawned
    {mailboxCapacity : Nat}
    {log : List (RuntimeEvent Value)}
    {runtime : Runtime Value State Frame}
    (run :
      Machine.Run (machine Value State Frame)
        (withConfig Value State Frame mailboxCapacity) log runtime)
    {id : ActorId}
    {channel : Nat}
    (spawned : .spawned id channel ∈ log) :
    ∃ cell, runtime.cells[channel]? = some cell ∧ cell.id = id := by
  induction run with
  | nil => cases spawned
  | @snoc log events middle final label earlier last inductionHypothesis =>
      rcases List.mem_append.mp spawned with older | newest
      · obtain ⟨cell, here, named⟩ := inductionHypothesis older
        by_cases mine : ∃ answer, label = .loop channel answer
        · obtain ⟨answer, rfl⟩ := mine
          obtain ⟨same, shape, effect⟩ := loopStep_cases last
          obtain rfl : cell = same := by simpa [here] using shape
          obtain ⟨moved, found, kept⟩ := effect.sameId here
          exact ⟨moved, found, kept.trans named⟩
        · obtain ⟨extra, found, -⟩ :=
            step_others last here fun answer same => mine ⟨answer, same⟩
          exact ⟨_, found, named⟩
      · cases effect_of_step last with
        | spawned actor state idle free =>
            have shape := List.mem_singleton.mp newest
            simp only [RuntimeEvent.spawned.injEq] at shape
            obtain ⟨rfl, rfl⟩ := shape
            exact ⟨.new middle.nextActorId actor state, by simp [spawn], rfl⟩
        | looped index answer cell _ _ here step effect =>
            exact (effect.notSpawned newest).elim
        | _ => simp at newest

/-- The actor was spawned, and the registry was not cleared since. -/
def Listed
    (log : List (RuntimeEvent Value))
    (id : ActorId)
    (channel : Nat) : Prop :=
  SinceLast clearsActors (· = .spawned id channel) log

theorem registered_of_listed
    {log : List (RuntimeEvent Value)}
    {id : ActorId}
    {channel : Nat}
    (listed : Listed log id channel) :
    Registered log id := by
  obtain ⟨earlier, event, later, rfl, rfl, kept⟩ := listed
  exact ⟨earlier, _, later, rfl, rfl, kept⟩

/-- Both calls report the actor, with the same entry. -/
def ReportedBoth
    (runtime : Runtime Value State Frame)
    (id : ActorId) : Prop :=
  ∃ info infos,
    runtime.inspectActor id = .ok (some info) ∧
      runtime.listActors = .ok infos ∧ info ∈ infos ∧ info.id = id

/-- What the registry holds is reported. -/
theorem reportedBoth_of_mem
    {runtime : Runtime Value State Frame}
    {id : ActorId}
    (untouched : Untouched runtime)
    (member : id ∈ runtime.actors) :
    ReportedBoth runtime id := by
  obtain ⟨info, found⟩ :=
    Option.isSome_iff_exists.mp (AList.lookup_isSome.mpr member)
  refine ⟨info, _, congrArg Except.ok found, rfl, ?_,
    (untouched id info found).1⟩
  exact List.mem_map.mpr ⟨⟨id, info⟩, AList.mem_lookup_iff.mp found, rfl⟩

/--
In every state of every run, the depth that is reported for a spawned actor is
the number of envelopes in its mailbox exactly when the mailbox is empty; and
both calls report the actor until the registry is cleared.
-/
theorem depth_truthful_iff
    {mailboxCapacity : Nat}
    {log : List (RuntimeEvent Value)}
    {runtime : Runtime Value State Frame}
    (run :
      Machine.Run (machine Value State Frame)
        (withConfig Value State Frame mailboxCapacity) log runtime)
    {id : ActorId}
    {channel : Nat}
    (spawned : .spawned id channel ∈ log) :
    ∃ cell,
      runtime.cells[channel]? = some cell ∧ cell.id = id ∧
        (Listed log id channel → ReportedBoth runtime id) ∧
        ∀ info, Reports runtime id info →
          (info.mailboxDepth = cell.mailbox.length ↔ cell.mailbox = []) := by
  have untouched := run_untouched run
  obtain ⟨cell, here, named⟩ := run_spawned run spawned
  refine ⟨cell, here, named, fun listed => ?_, fun info reports => ?_⟩
  · exact reportedBoth_of_mem untouched
      ((mem_actors_iff run id).mpr (registered_of_listed listed))
  · rw [depth_of_reports untouched reports, eq_comm,
      List.length_eq_zero_iff]

/-- An actor without code that sends or replies. -/
def silentActor : Actor Nat Unit Unit where
  messageType := 0
  handle _ _ := ()
  next _ := .returns ()

/-- An actor is spawned, a message is sent to it, and its loop takes the
message: both calls report the depth of the mailbox it has left. -/
theorem depth_truthful_iff_taken :
    ∃ runtime log cell info infos,
      (machine Nat Unit Unit).run? (withConfig Nat Unit Unit 10)
          [.spawn silentActor (), .send ⟨1⟩ ⟨0, 7⟩, .loop 0 0, .loop 0 0,
            .loop 0 0] = some (runtime, log) ∧
        log =
          [.spawned ⟨1⟩ 0, .accepted 0 (.message ⟨0, 7⟩),
            .answered (.ok ()), .taken 0 (.message ⟨0, 7⟩), .called 0 7] ∧
        runtime.cells[0]? = some cell ∧
        runtime.inspectActor ⟨1⟩ = .ok (some info) ∧
        runtime.listActors = .ok infos ∧
        info ∈ infos ∧
        info.mailboxDepth = cell.mailbox.length := by
  obtain ⟨runtime, log, executed, shown, emptied⟩ :
      ∃ runtime log,
        (machine Nat Unit Unit).run? (withConfig Nat Unit Unit 10)
            [.spawn silentActor (), .send ⟨1⟩ ⟨0, 7⟩, .loop 0 0, .loop 0 0,
              .loop 0 0] = some (runtime, log) ∧
          log =
            [.spawned ⟨1⟩ 0, .accepted 0 (.message ⟨0, 7⟩),
              .answered (.ok ()), .taken 0 (.message ⟨0, 7⟩), .called 0 7] ∧
          runtime.cells[0]?.map (·.mailbox) = some [] :=
    ⟨_, _, rfl, rfl, rfl⟩
  have spawned : .spawned ⟨1⟩ 0 ∈ log := by simp [shown]
  have listed : Listed log ⟨1⟩ 0 := by
    rw [shown]
    exact ⟨[], _, _, rfl, rfl, by simp [clearsActors, registryCall?]⟩
  obtain ⟨cell, here, -, both, truthful⟩ :=
    depth_truthful_iff (Machine.run?_sound _ executed) spawned
  obtain ⟨info, infos, inspected, listing, member, -⟩ := both listed
  have empty : cell.mailbox = [] := by simpa [here] using emptied
  exact ⟨runtime, log, cell, info, infos, executed, shown, here, inspected,
    listing, member, (truthful info (.inl inspected)).mpr empty⟩

/-- An actor is spawned and one message is sent to it: one envelope is queued,
and a depth of zero is reported. -/
theorem depth_not_reported :
    ∃ runtime log cell info,
      (machine Nat Unit Unit).run? (withConfig Nat Unit Unit 10)
          [.spawn silentActor (), .send ⟨1⟩ ⟨0, 7⟩] =
          some (runtime, log) ∧
        runtime.cells[0]? = some cell ∧
        cell.id = ⟨1⟩ ∧
        cell.mailbox = [.message ⟨0, 7⟩] ∧
        runtime.inspectActor ⟨1⟩ = .ok (some info) ∧
        runtime.listActors = .ok [info] ∧
        info.mailboxDepth = 0 :=
  ⟨_, _, _, _, rfl, rfl, rfl, rfl, rfl, rfl, rfl⟩

end Runact.Runtime
