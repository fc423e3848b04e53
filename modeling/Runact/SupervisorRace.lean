import Runact.Registries

namespace Runact.Runtime

open List

/-!
# Supervisors spawned by several threads

`spawn_supervisor` reads the size of the registry in one lock section and enters
the supervisor in another one.  Here any number of calls are in flight between
the two, among whatever else threads do through a shared reference; `spawn` and
`shutdown` need the runtime for themselves.  Neither lock section can panic, so
every call that gets to its second one returns an identifier.
-/

universe u

variable {Value State Frame : Type u}

/-- `RuntimeStats`. -/
structure RuntimeStats where
  actorCount : Nat
  requestCount : Nat
  deriving DecidableEq, Repr

/-- `Runtime::stats`. -/
def stats (runtime : Runtime Value State Frame) : RuntimeStats where
  actorCount := runtime.actors.keys.length
  requestCount := runtime.requestCounter

/-- The registry entry of a supervisor. -/
def supervisorInfo (id : ActorId) : ActorInfo where
  id := id
  name := some "supervisor"
  mailboxDepth := 0

/-- The write section of `spawn_supervisor`: `actors.insert(id, info)`. -/
def insertSupervisor
    (runtime : Runtime Value State Frame)
    (id : ActorId) : Runtime Value State Frame :=
  { runtime with actors := runtime.actors.insert id (supervisorInfo id) }

/-- How far a call of `spawn_supervisor` has come. -/
inductive SupervisorCall where
  /-- It has computed its identifier from the size of the registry. -/
  | chosen (id : ActorId)
  | returned
  deriving DecidableEq

/-- A runtime that threads share, with their calls of `spawn_supervisor`. -/
structure SharedRuntime (Value State Frame : Type u) where
  runtime : Runtime Value State Frame
  calls : List SupervisorCall

/-- The call has computed this identifier and not inserted it yet. -/
def SharedRuntime.InFlight
    (shared : SharedRuntime Value State Frame)
    (call : Nat)
    (id : ActorId) : Prop :=
  shared.calls[call]? = some (.chosen id)

/-- Scheduling choices of a shared runtime. -/
inductive SharedLabel (Value State Frame : Type u) where
  /-- A thread enters `spawn_supervisor` and reads the size of the registry. -/
  | readLength
  /-- One of the calls in flight inserts its entry and returns. -/
  | insertEntry (call : Nat)
  | other (label : Label Value State Frame)

/-- What a shared runtime shows. -/
inductive SharedEvent (Value : Type u) where
  | lengthRead (call : Nat)
  /-- The call returns this identifier. -/
  | inserted (call : Nat) (id : ActorId)
  | other (event : RuntimeEvent Value)

/-- The machine of a shared runtime. -/
def sharedMachine (Value State Frame : Type u) :
    Machine (SharedRuntime Value State Frame)
      (SharedLabel Value State Frame) (SharedEvent Value) where
  step?
    | shared, .readLength =>
        some
          ({ shared with
              calls := shared.calls ++ [.chosen shared.runtime.nextActorId] },
            [.lengthRead shared.calls.length])
    | shared, .insertEntry call =>
        match shared.calls[call]? with
        | some (.chosen id) =>
            some
              ({ runtime := shared.runtime.insertSupervisor id
                 calls := shared.calls.set call .returned },
                [.inserted call id])
        | _ => none
    | shared, .other label =>
        if label.isShared then
          ((machine Value State Frame).step? shared.runtime label).map
            fun outcome =>
              ({ shared with runtime := outcome.1 },
                outcome.2.map SharedEvent.other)
        else
          none

/-- What a step of a shared runtime does. -/
inductive SharedEffect
    (before : SharedRuntime Value State Frame) :
    SharedRuntime Value State Frame → List (SharedEvent Value) → Prop where
  | lengthRead :
      SharedEffect before
        { before with
          calls := before.calls ++ [.chosen before.runtime.nextActorId] }
        [.lengthRead before.calls.length]
  | inserted (call : Nat) (id : ActorId) :
      before.calls[call]? = some (.chosen id) →
      SharedEffect before
        { runtime := before.runtime.insertSupervisor id
          calls := before.calls.set call .returned }
        [.inserted call id]
  | other
      (after : Runtime Value State Frame)
      (events : List (RuntimeEvent Value)) :
      after.actors = before.runtime.actors →
      SharedEffect before { before with runtime := after }
        (events.map SharedEvent.other)

theorem sharedEffect_of_step
    {before after : SharedRuntime Value State Frame}
    {label : SharedLabel Value State Frame}
    {events : List (SharedEvent Value)}
    (step :
      (sharedMachine Value State Frame).step? before label =
        some (after, events)) :
    SharedEffect before after events := by
  cases label with
  | readLength =>
      simp only [sharedMachine, Option.some.injEq, Prod.mk.injEq] at step
      obtain ⟨rfl, rfl⟩ := step
      exact .lengthRead
  | insertEntry call =>
      simp only [sharedMachine] at step
      split at step
      case h_1 id pending =>
        simp only [Option.some.injEq, Prod.mk.injEq] at step
        obtain ⟨rfl, rfl⟩ := step
        exact .inserted call id pending
      case h_2 =>
        cases step
  | other label =>
      simp only [sharedMachine, Option.ite_none_right_eq_some,
        Option.map_eq_some_iff, Prod.exists, Prod.mk.injEq] at step
      obtain ⟨shared, runtime, shown, stepped, rfl, rfl⟩ := step
      exact .other runtime shown (shared_registry shared stepped).1

/-- The identifiers `spawn_supervisor` returned. -/
def insertedIds (log : List (SharedEvent Value)) : List ActorId :=
  log.filterMap fun event =>
    match event with
    | .inserted _ id => some id
    | _ => none

/-- Some call inserted its entry after this one had read the size. -/
def Crossed (log : List (SharedEvent Value)) (call : Nat) : Prop :=
  ∃ other otherId,
    [.lengthRead call, .inserted other otherId] <+ log

/-- Some call inserted between the two lock sections of another one. -/
def Overlapped (log : List (SharedEvent Value)) : Prop :=
  ∃ call other otherId id,
    [.lengthRead call, .inserted other otherId, .inserted call id] <+ log

/-- Every identifier is new, and every returned call has added its entry. -/
structure RegistrationsKept
    (initial : Runtime Value State Frame)
    (log : List (SharedEvent Value))
    (final : Runtime Value State Frame) : Prop where
  distinct : (insertedIds log).Nodup
  fresh : ∀ id ∈ insertedIds log, id ∉ initial.actors
  added :
    ∀ id ∈ insertedIds log,
      final.actors.lookup id = some (supervisorInfo id)
  kept :
    ∀ id info, initial.actors.lookup id = some info →
      final.actors.lookup id = some info
  counted :
    final.stats.actorCount =
      initial.stats.actorCount + (insertedIds log).length

theorem crossed_snoc
    {log : List (SharedEvent Value)}
    {event : SharedEvent Value}
    {call : Nat} :
    Crossed (log ++ [event]) call ↔
      Crossed log call ∨
        ∃ other otherId,
          event = .inserted other otherId ∧ .lengthRead call ∈ log := by
  have split (other : Nat) (otherId : ActorId) :
      [.lengthRead call, .inserted other otherId] <+ log ++ [event] ↔
        [.lengthRead call, .inserted other otherId] <+ log ∨
          event = .inserted other otherId ∧ .lengthRead call ∈ log := by
    rw [← List.singleton_sublist]
    rw [show event = SharedEvent.inserted other otherId ↔
      SharedEvent.inserted other otherId = event from eq_comm]
    exact sublist_snoc_iff [SharedEvent.lengthRead call] _
  simp only [Crossed, split, exists_or]

theorem overlapped_snoc
    {log : List (SharedEvent Value)}
    {event : SharedEvent Value} :
    Overlapped (log ++ [event]) ↔
      Overlapped log ∨
        ∃ call id, event = .inserted call id ∧ Crossed log call := by
  have split (call other : Nat) (otherId id : ActorId) :
      [.lengthRead call, .inserted other otherId, .inserted call id] <+
          log ++ [event] ↔
        [.lengthRead call, .inserted other otherId, .inserted call id] <+
            log ∨
          .inserted call id = event ∧
            [.lengthRead call, .inserted other otherId] <+ log :=
    sublist_snoc_iff
      [SharedEvent.lengthRead call, SharedEvent.inserted other otherId] _
  constructor
  · rintro ⟨call, other, otherId, id, sublist⟩
    rcases (split call other otherId id).mp sublist with
      older | ⟨rfl, crossed⟩
    · exact .inl ⟨call, other, otherId, id, older⟩
    · exact .inr ⟨call, id, rfl, other, otherId, crossed⟩
  · rintro (⟨call, other, otherId, id, older⟩ |
      ⟨call, id, rfl, other, otherId, crossed⟩)
    · exact ⟨call, other, otherId, id,
        (split call other otherId id).mpr (.inl older)⟩
    · exact ⟨call, other, otherId, id,
        (split call other otherId id).mpr (.inr ⟨rfl, crossed⟩)⟩

/-- The registry holds the identifiers from one up to its size. -/
def Dense (runtime : Runtime Value State Frame) : Prop :=
  ∀ id, id ∈ runtime.actors ↔
    1 ≤ id.asU64 ∧ id.asU64 ≤ runtime.actors.keys.length

namespace Dense

variable {runtime : Runtime Value State Frame}

/-- Inserting under a new identifier makes the registry larger by one. -/
theorem length_insert
    {id : ActorId}
    (fresh : id ∉ runtime.actors)
    (info : ActorInfo) :
    (runtime.actors.insert id info).keys.length =
      runtime.actors.keys.length + 1 := by
  rw [AList.keys_insert, List.length_cons, List.erase_of_not_mem fresh]

/-- An entry under an identifier up to the next one leaves no gap. -/
theorem insert
    {after : Runtime Value State Frame}
    {id : ActorId}
    {info : ActorInfo}
    (dense : Dense runtime)
    (positive : 1 ≤ id.asU64)
    (small : id.asU64 ≤ runtime.actors.keys.length + 1)
    (inserted : after.actors = runtime.actors.insert id info) :
    Dense after := by
  intro other
  rw [inserted, AList.mem_insert]
  by_cases older : id ∈ runtime.actors
  · have length :
        (runtime.actors.insert id info).keys.length =
          runtime.actors.keys.length := by
      have positiveLength := List.length_pos_of_mem older
      rw [AList.keys_insert, List.length_cons, List.length_erase_of_mem older]
      omega
    rw [length, ← dense]
    exact or_iff_right_of_imp fun same => same ▸ older
  · have next : id.asU64 = runtime.actors.keys.length + 1 := by
      rw [dense] at older
      omega
    have same :
        other = id ↔ other.asU64 = runtime.actors.keys.length + 1 := by
      rw [← next]
      cases other
      cases id
      simp
    rw [length_insert older, dense, same]
    omega

theorem insert_next
    {after : Runtime Value State Frame}
    {info : ActorInfo}
    (dense : Dense runtime)
    (inserted :
      after.actors = runtime.actors.insert runtime.nextActorId info) :
    Dense after :=
  dense.insert (by simp [nextActorId]) (by simp [nextActorId]) inserted

end Dense

/-- In every reachable runtime the identifiers count up from one. -/
theorem run_dense
    {mailboxCapacity : Nat}
    {log : List (RuntimeEvent Value)}
    {runtime : Runtime Value State Frame}
    (run :
      Machine.Run (machine Value State Frame)
        (withConfig Value State Frame mailboxCapacity) log runtime) :
    Dense runtime := by
  refine run.invariant Dense ?_ ?_
  · intro before label after events dense step
    have same (unchanged : after.actors = before.actors) : Dense after := by
      intro id
      rw [unchanged]
      exact dense id
    cases effect_of_step step with
    | spawned actor state phase free => exact dense.insert_next rfl
    | supervisorSpawned => exact dense.insert_next rfl
    | actorsCleared phase =>
        intro id
        simp [AList.keys_empty]
        omega
    | sent target channel message sent found accepted =>
        obtain ⟨cell, -, -, -, rfl⟩ := offer_eq_accepted accepted
        exact same rfl
    | unblocked index waiting sent found accepted =>
        obtain ⟨cell, -, -, -, rfl⟩ := offer_eq_accepted accepted
        exact same rfl
    | requested call requestId target channel message sent claimed found
        accepted =>
        obtain ⟨cell, -, -, -, rfl⟩ := offer_eq_accepted accepted
        exact same rfl
    | looped index answer cell after events here step effect =>
        exact same (loopStep_registry step).1
    | _ => exact same rfl
  · intro id
    simp [withConfig, AList.keys_empty]
    omega

theorem crossed_append_other
    {log : List (SharedEvent Value)}
    {call : Nat}
    (events : List (RuntimeEvent Value)) :
    Crossed (log ++ events.map SharedEvent.other) call ↔ Crossed log call := by
  induction events generalizing log with
  | nil => simp
  | cons event rest inductionHypothesis =>
      rw [List.map_cons, List.append_cons, inductionHypothesis, crossed_snoc]
      simp

theorem overlapped_append_other
    {log : List (SharedEvent Value)}
    (events : List (RuntimeEvent Value)) :
    Overlapped (log ++ events.map SharedEvent.other) ↔ Overlapped log := by
  induction events generalizing log with
  | nil => simp
  | cons event rest inductionHypothesis =>
      rw [List.map_cons, List.append_cons, inductionHypothesis, overlapped_snoc]
      simp

theorem insertedIds_append_other
    {log : List (SharedEvent Value)}
    (events : List (RuntimeEvent Value)) :
    insertedIds (log ++ events.map SharedEvent.other) = insertedIds log := by
  have silent : insertedIds (events.map SharedEvent.other) = [] := by
    simp [insertedIds]
  rw [insertedIds, List.filterMap_append, ← insertedIds, ← insertedIds, silent,
    List.append_nil]

theorem insertedIds_snoc
    (log : List (SharedEvent Value))
    (call : Nat)
    (id : ActorId) :
    insertedIds (log ++ [.inserted call id]) = insertedIds log ++ [id] := by
  simp [insertedIds]

theorem insertedIds_lengthRead
    (log : List (SharedEvent Value))
    (call : Nat) :
    insertedIds (log ++ [.lengthRead call]) = insertedIds log := by
  simp [insertedIds]

theorem lengthRead_of_crossed
    {log : List (SharedEvent Value)}
    {call : Nat}
    (crossed : Crossed log call) :
    .lengthRead call ∈ log := by
  obtain ⟨other, otherId, sublist⟩ := crossed
  exact sublist.subset List.mem_cons_self

/-- What holds of the calls in flight and of the registry they share. -/
structure SharedSound
    (initial : Runtime Value State Frame)
    (log : List (SharedEvent Value))
    (shared : SharedRuntime Value State Frame) : Prop where
  dense : Dense shared.runtime
  held :
    ∀ id, id ∈ shared.runtime.actors ↔
      id ∈ initial.actors ∨ id ∈ insertedIds log
  numbered : ∀ call, .lengthRead call ∈ log → call < shared.calls.length
  read :
    ∀ call id, shared.InFlight call id →
      .lengthRead call ∈ log
  small :
    ∀ call id, shared.InFlight call id →
      1 ≤ id.asU64 ∧ id.asU64 ≤ shared.runtime.actors.keys.length + 1
  /-- Without a crossing the size is still the one the call has read. -/
  uncrossed :
    ∀ call id, shared.InFlight call id →
      ¬ Crossed log call → id = shared.runtime.nextActorId

/-- The calls in flight once another call has read the size. -/
theorem inFlight_read
    {before : SharedRuntime Value State Frame}
    {call : Nat}
    {id : ActorId}
    (found :
      SharedRuntime.InFlight
        { before with
          calls := before.calls ++ [.chosen before.runtime.nextActorId] }
        call id) :
    before.InFlight call id ∨
      call = before.calls.length ∧ id = before.runtime.nextActorId := by
  unfold SharedRuntime.InFlight at found
  rcases Nat.lt_trichotomy call before.calls.length with
    less | rfl | beyond
  · rw [List.getElem?_append_left less] at found
    exact .inl found
  · exact .inr ⟨rfl, by simpa [eq_comm] using found⟩
  · rw [List.getElem?_eq_none (by simpa using beyond)] at found
    cases found

/-- A call in flight after another one has returned. -/
theorem inFlight_of_returned
    {before : SharedRuntime Value State Frame}
    {runtime : Runtime Value State Frame}
    {call other : Nat}
    {id : ActorId}
    (found :
      SharedRuntime.InFlight
        { runtime := runtime, calls := before.calls.set call .returned }
        other id) :
    before.InFlight other id := by
  unfold SharedRuntime.InFlight at found
  rw [List.getElem?_set] at found
  split at found
  · split at found <;> cases found
  · exact found

namespace SharedSound

variable {initial : Runtime Value State Frame}
  {log events : List (SharedEvent Value)}
  {before after : SharedRuntime Value State Frame}

/-- A call reads the size of the registry. -/
theorem lengthRead
    (sound : SharedSound initial log before) :
    SharedSound initial (log ++ [.lengthRead before.calls.length])
      { before with
        calls := before.calls ++ [.chosen before.runtime.nextActorId] } := by
  constructor
  · exact sound.dense
  · intro id
    rw [insertedIds_lengthRead]
    exact sound.held id
  · intro call member
    rw [List.length_append, List.length_singleton]
    rcases List.mem_append.mp member with older | newest
    · have less := sound.numbered call older
      omega
    · have same : call = before.calls.length := by simpa using newest
      omega
  · intro call id found
    rcases inFlight_read found with older | ⟨rfl, -⟩
    · exact List.mem_append_left _ (sound.read call id older)
    · simp
  · intro call id found
    rcases inFlight_read found with older | ⟨-, rfl⟩
    · exact sound.small call id older
    · simp [nextActorId]
  · intro call id found uncrossed
    rcases inFlight_read found with older | ⟨-, rfl⟩
    · exact sound.uncrossed call id older fun crossed =>
        uncrossed (crossed_snoc.mpr (.inl crossed))
    · rfl

/-- A call inserts the entry under the identifier it has computed. -/
theorem inserted
    {call : Nat}
    {id : ActorId}
    (sound : SharedSound initial log before)
    (chosen : before.InFlight call id) :
    SharedSound initial (log ++ [.inserted call id])
      { runtime := before.runtime.insertSupervisor id
        calls := before.calls.set call .returned } := by
  obtain ⟨positive, small⟩ := sound.small call id chosen
  have larger :
      before.runtime.actors.keys.length ≤
        (before.runtime.insertSupervisor id).actors.keys.length := by
    simp only [insertSupervisor, AList.keys_insert, List.length_cons]
    have erased :
        before.runtime.actors.keys.length - 1 ≤
          (before.runtime.actors.keys.erase id).length :=
      List.le_length_erase
    omega
  constructor
  · exact sound.dense.insert positive small rfl
  · intro other
    rw [insertedIds_snoc, List.mem_append, List.mem_singleton]
    simp only [insertSupervisor, AList.mem_insert, sound.held]
    tauto
  · intro other member
    rw [List.length_set]
    exact sound.numbered other (by simpa using member)
  · intro other otherId found
    exact List.mem_append_left _ (sound.read other otherId (inFlight_of_returned found))
  · intro other otherId found
    obtain ⟨otherPositive, otherSmall⟩ :=
      sound.small other otherId (inFlight_of_returned found)
    exact ⟨otherPositive, otherSmall.trans (Nat.succ_le_succ larger)⟩
  · intro other otherId found uncrossed
    exact absurd
      (crossed_snoc.mpr
        (.inr ⟨call, id, rfl, sound.read other otherId (inFlight_of_returned found)⟩))
      uncrossed

/-- Every step keeps the shared runtime sound. -/
theorem step
    (sound : SharedSound initial log before)
    (effect : SharedEffect before after events) :
    SharedSound initial (log ++ events) after := by
  cases effect with
  | lengthRead => exact sound.lengthRead
  | inserted call id chosen => exact sound.inserted chosen
  | other runtime shown same =>
      constructor
      · intro id
        rw [same]
        exact sound.dense id
      · intro id
        rw [same, insertedIds_append_other]
        exact sound.held id
      · intro call member
        exact sound.numbered call (by simpa using member)
      · intro call id found
        exact List.mem_append_left _ (sound.read call id found)
      · intro call id found
        rw [same]
        exact sound.small call id found
      · intro call id found uncrossed
        rw [crossed_append_other] at uncrossed
        rw [nextActorId, same]
        exact sound.uncrossed call id found uncrossed

end SharedSound

section

variable {mailboxCapacity : Nat}
  {initial : Runtime Value State Frame}
  {log : List (SharedEvent Value)}
  {shared : SharedRuntime Value State Frame}

/-- Over every run from a reachable runtime, the shared runtime is sound. -/
theorem run_sharedSound
    (reachable :
      Machine.Reachable (machine Value State Frame)
        (withConfig Value State Frame mailboxCapacity) initial)
    (run :
      Machine.Run (sharedMachine Value State Frame)
        { runtime := initial, calls := [] } log shared) :
    SharedSound initial log shared := by
  obtain ⟨_, reached⟩ := reachable
  refine run.history (SharedSound initial)
    (fun sound step => sound.step (sharedEffect_of_step step)) ?_
  constructor
  · exact run_dense reached
  · simp [insertedIds]
  · simp
  · simp [SharedRuntime.InFlight]
  · simp [SharedRuntime.InFlight]
  · simp [SharedRuntime.InFlight]

/-- A new identifier adds its entry and changes no other one. -/
theorem RegistrationsKept.inserted
    {final : Runtime Value State Frame}
    {call : Nat}
    {id : ActorId}
    (keeps : RegistrationsKept initial log final)
    (held :
      ∀ other, other ∈ final.actors ↔
        other ∈ initial.actors ∨ other ∈ insertedIds log)
    (unused : id ∉ final.actors) :
    RegistrationsKept initial (log ++ [.inserted call id])
      (final.insertSupervisor id) := by
  have others (other : ActorId) (present : other ∈ final.actors) :
      (final.insertSupervisor id).actors.lookup other =
        final.actors.lookup other :=
    AList.lookup_insert_ne fun same => unused (same ▸ present)
  rw [held, not_or] at unused
  constructor
  · rw [insertedIds_snoc, List.nodup_append]
    refine ⟨keeps.distinct, List.nodup_singleton id, ?_⟩
    rintro other member newest isNewest rfl
    rw [List.mem_singleton] at isNewest
    exact unused.2 (isNewest ▸ member)
  · intro other member
    rw [insertedIds_snoc, List.mem_append, List.mem_singleton] at member
    rcases member with older | rfl
    · exact keeps.fresh other older
    · exact unused.1
  · intro other member
    rw [insertedIds_snoc, List.mem_append, List.mem_singleton] at member
    rcases member with older | rfl
    · rw [others other ((held other).mpr (.inr older))]
      exact keeps.added other older
    · exact AList.lookup_insert _
  · intro other info found
    have present : other ∈ initial.actors :=
      AList.lookup_isSome.mp (by simp [found])
    rw [others other ((held other).mpr (.inl present))]
    exact keeps.kept other info found
  · have grows :
        (final.insertSupervisor id).stats.actorCount =
          final.stats.actorCount + 1 :=
      Dense.length_insert (by rw [held, not_or]; exact unused)
        (supervisorInfo id)
    rw [grows, keeps.counted, insertedIds_snoc, List.length_append]
    rfl

/-- While no call is overlapped, every registration is kept. -/
theorem run_registrationsKept
    (reachable :
      Machine.Reachable (machine Value State Frame)
        (withConfig Value State Frame mailboxCapacity) initial)
    (run :
      Machine.Run (sharedMachine Value State Frame)
        { runtime := initial, calls := [] } log shared)
    (apart : ¬ Overlapped log) :
    RegistrationsKept initial log shared.runtime := by
  induction run with
  | nil =>
      constructor <;> simp [insertedIds]
  | @snoc log events before after label earlier last inductionHypothesis =>
      have sound := run_sharedSound reachable earlier
      cases sharedEffect_of_step last with
      | lengthRead =>
          rw [overlapped_snoc] at apart
          have kept := inductionHypothesis fun older => apart (.inl older)
          have same := insertedIds_lengthRead log before.calls.length
          exact
            { distinct := by rw [same]; exact kept.distinct
              fresh := by rw [same]; exact kept.fresh
              added := by rw [same]; exact kept.added
              kept := kept.kept
              counted := by rw [same]; exact kept.counted }
      | inserted call id chosen =>
          rw [overlapped_snoc, not_or] at apart
          have kept := inductionHypothesis apart.1
          have next : id = before.runtime.nextActorId :=
            sound.uncrossed call id chosen fun crossed =>
              apart.2 ⟨call, id, rfl, crossed⟩
          refine kept.inserted sound.held ?_
          rw [sound.dense, next]
          simp [nextActorId]
      | other runtime shown same =>
          rw [overlapped_append_other] at apart
          have kept := inductionHypothesis apart
          have sameIds :
              insertedIds (log ++ shown.map SharedEvent.other) =
                insertedIds log :=
            insertedIds_append_other shown
          exact
            { distinct := by rw [sameIds]; exact kept.distinct
              fresh := by rw [sameIds]; exact kept.fresh
              added := by rw [same, sameIds]; exact kept.added
              kept := by rw [same]; exact kept.kept
              counted := by
                rw [sameIds, stats, same]
                exact kept.counted }

/-- While all identifiers are new, a crossed call has chosen a used one. -/
theorem run_apart
    (reachable :
      Machine.Reachable (machine Value State Frame)
        (withConfig Value State Frame mailboxCapacity) initial)
    (run :
      Machine.Run (sharedMachine Value State Frame)
        { runtime := initial, calls := [] } log shared)
    (distinct : (insertedIds log).Nodup)
    (fresh : ∀ id ∈ insertedIds log, id ∉ initial.actors) :
    ¬ Overlapped log ∧
      ∀ call id, shared.InFlight call id → Crossed log call →
        id ∈ shared.runtime.actors := by
  induction run with
  | nil =>
      refine ⟨?_, fun call id found => by simp [SharedRuntime.InFlight] at found⟩
      rintro ⟨call, other, otherId, id, sublist⟩
      simp at sublist
  | @snoc log events before after label earlier last inductionHypothesis =>
      have sound := run_sharedSound reachable earlier
      cases sharedEffect_of_step last with
      | lengthRead =>
          rw [insertedIds_lengthRead] at distinct fresh
          obtain ⟨apart, chosen⟩ := inductionHypothesis distinct fresh
          refine ⟨by simpa [overlapped_snoc] using apart, ?_⟩
          intro call id found crossed
          have older : Crossed log call := by
            simpa [crossed_snoc] using crossed
          rcases inFlight_read found with pending | ⟨rfl, -⟩
          · exact chosen call id pending older
          · have less := sound.numbered _ (lengthRead_of_crossed older)
            omega
      | inserted call id pending =>
          rw [insertedIds_snoc] at distinct fresh
          have unused : id ∉ before.runtime.actors := by
            rw [sound.held, not_or]
            exact ⟨fresh id (by simp), fun used =>
              (List.nodup_append.mp distinct).2.2 id used id (by simp) rfl⟩
          obtain ⟨apart, chosen⟩ :=
            inductionHypothesis (List.nodup_append.mp distinct).1
              fun other member => fresh other (List.mem_append_left _ member)
          refine ⟨?_, ?_⟩
          · rw [overlapped_snoc, not_or]
            refine ⟨apart, ?_⟩
            rintro ⟨_, _, ⟨⟩, crossed⟩
            exact unused (chosen call id pending crossed)
          · intro other otherId found _
            have waiting := inFlight_of_returned found
            rw [insertSupervisor, AList.mem_insert]
            by_cases crossed : Crossed log other
            · exact .inr (chosen other otherId waiting crossed)
            · refine .inl ?_
              have read := sound.uncrossed other otherId waiting crossed
              obtain ⟨positive, small⟩ := sound.small call id pending
              rw [sound.dense] at unused
              cases id
              simp only [read, nextActorId, ActorId.mk.injEq] at *
              omega
      | other runtime shown same =>
          rw [insertedIds_append_other] at distinct fresh
          obtain ⟨apart, chosen⟩ := inductionHypothesis distinct fresh
          rw [overlapped_append_other]
          refine ⟨apart, fun call id found crossed => ?_⟩
          rw [same]
          rw [crossed_append_other] at crossed
          exact chosen call id found crossed

/--
Whatever threads do at the same time, every `spawn_supervisor` adds an entry of
its own, exactly when no call inserts between the two lock sections of another.
-/
theorem registrations_kept_iff
    (reachable :
      Machine.Reachable (machine Value State Frame)
        (withConfig Value State Frame mailboxCapacity) initial)
    (run :
      Machine.Run (sharedMachine Value State Frame)
        { runtime := initial, calls := [] } log shared) :
    RegistrationsKept initial log shared.runtime ↔ ¬ Overlapped log := by
  refine ⟨fun kept => ?_, run_registrationsKept reachable run⟩
  exact (run_apart reachable run kept.distinct kept.fresh).1

end

/-- Two threads, one after the other. -/
def oneAfterOther : List (SharedLabel Unit Unit Unit) :=
  [.readLength, .insertEntry 0, .readLength, .insertEntry 1]

theorem registrations_kept_iff_oneAfterOther :
    ∃ shared log,
      (sharedMachine Unit Unit Unit).run?
          { runtime := withConfig Unit Unit Unit 10, calls := [] }
          oneAfterOther = some (shared, log) ∧
        insertedIds log = [⟨1⟩, ⟨2⟩] ∧
        (RegistrationsKept (withConfig Unit Unit Unit 10) log
            shared.runtime ↔
          ¬ Overlapped log) := by
  obtain ⟨shared, log, executed, ids⟩ :
      ∃ shared log,
        (sharedMachine Unit Unit Unit).run?
            { runtime := withConfig Unit Unit Unit 10, calls := [] }
            oneAfterOther = some (shared, log) ∧
          insertedIds log = [⟨1⟩, ⟨2⟩] :=
    ⟨_, _, rfl, rfl⟩
  exact ⟨shared, log, executed, ids,
    registrations_kept_iff ⟨_, .nil⟩ (Machine.run?_sound _ executed)⟩

/-- Two threads read the size zero, and both return the identifier one. -/
theorem registration_lost :
    ∃ shared log,
      (sharedMachine Unit Unit Unit).run?
          { runtime := withConfig Unit Unit Unit 10, calls := [] }
          [.readLength, .readLength, .insertEntry 0, .insertEntry 1] =
        some (shared, log) ∧
        insertedIds log = [⟨1⟩, ⟨1⟩] ∧
        shared.runtime.stats.actorCount = 1 ∧
        ¬ RegistrationsKept (withConfig Unit Unit Unit 10) log
          shared.runtime := by
  refine ⟨_, _, rfl, rfl, rfl, fun kept => ?_⟩
  exact absurd kept.distinct (by decide)

end Runact.Runtime
