import Runact.RestartBudget

namespace Runact

/-!
# What the supervisor records of its messages

Seen from the messages, whatever the clock says, the entry of a child is its
last `ChildStarted` and the number of its crashes since then.  The clock decides
only whether a crashed child is alive, and without a base backoff not even that.
-/

/-- The name a child was last started under, and its crashes since then. -/
structure ChildRecord where
  name : String
  crashes : Nat
  deriving DecidableEq, Repr

namespace SupervisorMessage

/-- What a message changes about the record of one child. -/
def record
    (childId : ActorId)
    (known : Option ChildRecord) : SupervisorMessage → Option ChildRecord
  | .childStarted started name =>
      if started = childId then some { name := name, crashes := 0 } else known
  | .childCrashed crashed _ =>
      if crashed = childId then
        known.map fun record => { record with crashes := record.crashes + 1 }
      else
        known
  | .getStatus => known

/-- The record of one child after some messages. -/
def recorded
    (childId : ActorId)
    (messages : List SupervisorMessage) : Option ChildRecord :=
  messages.foldl (record childId) none

theorem recorded_snoc
    (childId : ActorId)
    (messages : List SupervisorMessage)
    (message : SupervisorMessage) :
    recorded childId (messages ++ [message]) =
      record childId (recorded childId messages) message := by
  simp [recorded]

end SupervisorMessage

namespace Supervised

/-- The entry of a child agrees with its record. -/
structure EntryTells
    (strategy : RestartStrategy)
    (record : ChildRecord)
    (entry : ChildEntry) : Prop where
  name : entry.name = record.name
  restartCount : entry.restartCount = record.crashes
  uncrashed : record.crashes = 0 → entry.alive = true
  exhausted : strategy.maxRestarts < record.crashes → entry.alive = false
  /-- Without a base backoff no restart is deferred. -/
  undelayed :
    strategy.baseBackoff = 0 →
      entry.alive = decide (record.crashes ≤ strategy.maxRestarts)

/-- The supervisor after some messages, whatever the clock readings. -/
structure Records
    (strategy : RestartStrategy)
    (messages : List SupervisorMessage)
    (state : Supervised) : Prop where
  sameStrategy : state.supervisor.strategy = strategy
  absent :
    ∀ childId,
      SupervisorMessage.recorded childId messages = none →
      state.supervisor.children.lookup childId = none
  present :
    ∀ childId record,
      SupervisorMessage.recorded childId messages = some record →
      ∃ entry,
        state.supervisor.children.lookup childId = some entry ∧
          EntryTells strategy record entry

theorem records_new (strategy : RestartStrategy) (now : Nat) :
    Records strategy [] (new strategy now) where
  sameStrategy := rfl
  absent childId none := by simp [new, SupervisorActor.new]
  present childId record some := by cases some

section Records

variable {strategy : RestartStrategy} {messages : List SupervisorMessage}
  {before after : Supervised} {message : SupervisorMessage}

/-- A message that records nothing, and leaves the children alone. -/
theorem Records.idle
    (records : Records strategy messages before)
    (unrecorded :
      ∀ childId,
        SupervisorMessage.recorded childId (messages ++ [message]) =
          SupervisorMessage.recorded childId messages)
    (same : after.supervisor = before.supervisor) :
    Records strategy (messages ++ [message]) after where
  sameStrategy := by
    rw [same]
    exact records.sameStrategy
  absent childId none := by
    rw [unrecorded] at none
    rw [same]
    exact records.absent childId none
  present childId record some := by
    rw [unrecorded] at some
    rw [same]
    exact records.present childId record some

/-- A message about one child that replaces its entry. -/
theorem Records.replaced
    (records : Records strategy messages before)
    {childId : ActorId}
    {entry : ChildEntry}
    (record : ChildRecord)
    (here :
      SupervisorMessage.recorded childId (messages ++ [message]) =
        some record)
    (others :
      ∀ other,
        other ≠ childId →
        SupervisorMessage.recorded other (messages ++ [message]) =
          SupervisorMessage.recorded other messages)
    (tells : EntryTells strategy record entry)
    (shape :
      after.supervisor = before.supervisor.setEntry childId entry) :
    Records strategy (messages ++ [message]) after where
  sameStrategy := by
    rw [shape]
    exact records.sameStrategy
  absent other none := by
    by_cases same : other = childId
    · subst same
      rw [here] at none
      cases none
    · rw [others other same] at none
      rw [shape, lookup_setEntry_of_ne _ _ same]
      exact records.absent other none
  present other known some := by
    by_cases same : other = childId
    · subst same
      rw [here] at some
      obtain rfl := Option.some.inj some
      rw [shape]
      exact ⟨entry, lookup_setEntry_self _ _ _, tells⟩
    · rw [others other same] at some
      rw [shape, lookup_setEntry_of_ne _ _ same]
      exact records.present other known some

/-- Without a base backoff every delay is zero. -/
theorem delay_eq_zero
    {supervisor : SupervisorActor}
    {count delay : Nat}
    (noBackoff : supervisor.baseBackoff = 0)
    (computed : supervisor.backoffDelay? count = some delay) :
    delay = 0 := by
  simp only [SupervisorActor.backoffDelay?, noBackoff, mulDuration,
    Nat.zero_mul, Nat.zero_le, ↓reduceIte, Option.map_some,
    Option.some.injEq] at computed
  simpa using computed.symm

/-- Every handled message is recorded. -/
theorem Records.step
    {delivery : Delivery}
    {events : List SupervisorEvent}
    (records : Records strategy messages before)
    (step : machine.step? before delivery = some (after, events)) :
    Records strategy (messages ++ [delivery.message]) after := by
  obtain ⟨-, -, handles⟩ := step_cases step
  obtain ⟨supervisor, now⟩ := after
  -- a crash of a registered child: what is known of it, and of its new record
  have crash
      {childId : ActorId} (reason : String) {entry : ChildEntry}
      (registered :
        before.supervisor.children.lookup childId = some entry) :
      ∃ record,
        EntryTells strategy record entry ∧
          SupervisorMessage.recorded childId
              (messages ++ [.childCrashed childId reason]) =
            some { record with crashes := record.crashes + 1 } := by
    cases known : SupervisorMessage.recorded childId messages with
    | none =>
        rw [records.absent childId known] at registered
        cases registered
    | some record =>
        obtain ⟨same, there, tells⟩ := records.present childId record known
        obtain rfl : same = entry := by simpa [registered] using there.symm
        refine ⟨record, tells, ?_⟩
        rw [SupervisorMessage.recorded_snoc, known]
        simp [SupervisorMessage.record]
  have others {childId other : ActorId} {reason : String}
      (different : other ≠ childId) :
      SupervisorMessage.recorded other
          (messages ++ [.childCrashed childId reason]) =
        SupervisorMessage.recorded other messages := by
    rw [SupervisorMessage.recorded_snoc]
    simp [SupervisorMessage.record, different.symm]
  have limit : before.supervisor.maxRestarts = strategy.maxRestarts := by
    rw [SupervisorActor.maxRestarts, records.sameStrategy]
  have base : before.supervisor.baseBackoff = strategy.baseBackoff := by
    rw [SupervisorActor.baseBackoff, records.sameStrategy]
  generalize delivery.message = message at handles ⊢
  generalize delivery.readings = readings at handles
  cases handles with
  | started childId name =>
      refine records.replaced { name := name, crashes := 0 } ?_ ?_ ?_ rfl
      · rw [SupervisorMessage.recorded_snoc]
        simp [SupervisorMessage.record]
      · intro other different
        rw [SupervisorMessage.recorded_snoc]
        simp [SupervisorMessage.record, different.symm]
      · constructor <;> simp
  | replied =>
      refine records.idle (fun childId => ?_) rfl
      rw [SupervisorMessage.recorded_snoc]
      rfl
  | ignored child reason unregistered =>
      refine records.idle (fun childId => ?_) rfl
      by_cases same : childId = child
      · subst same
        rw [SupervisorMessage.recorded_snoc]
        cases known : SupervisorMessage.recorded childId messages with
        | none => simp [SupervisorMessage.record]
        | some record =>
            obtain ⟨entry, there, -⟩ := records.present childId record known
            rw [unregistered] at there
            cases there
      · exact others same
  | granted childId reason entry delay registered computed below elapsed =>
      obtain ⟨record, tells, recorded⟩ := crash reason registered
      have counted := tells.restartCount
      rw [limit] at below
      refine records.replaced _ recorded (fun other different => others different)
        ?_ rfl
      constructor <;> simp [tells.name, counted] <;> omega
  | deferred childId reason entry delay registered computed below early =>
      obtain ⟨record, tells, recorded⟩ := crash reason registered
      have counted := tells.restartCount
      refine records.replaced _ recorded (fun other different => others different)
        ⟨?_, ?_, ?_, ?_, fun noBackoff => ?_⟩ rfl
      · exact tells.name
      · simp [counted]
      · simp
      · simp
      · -- with a delay of zero nothing is pending
        obtain rfl := delay_eq_zero (base.trans noBackoff) computed
        cases stamped : entry.lastRestartAt <;>
          simp [stamped, SupervisorActor.backoffPending] at early
  | gaveUp childId reason entry delay registered computed above =>
      obtain ⟨record, tells, recorded⟩ := crash reason registered
      have counted := tells.restartCount
      rw [limit] at above
      refine records.replaced _ recorded (fun other different => others different)
        ?_ rfl
      constructor <;> simp [tells.name, counted]
      omega

end Records

/-- The messages of some steps, in order. -/
def deliveredMessages
    (steps : List (Supervised × Delivery)) : List SupervisorMessage :=
  steps.map fun step => step.2.message

/-- Over every trace, what is recorded follows from the messages. -/
theorem trace_records
    {strategy : RestartStrategy}
    {now : Nat}
    {steps : List (Supervised × Delivery)}
    {log : List SupervisorEvent}
    {final : Supervised}
    (trace : Machine.Trace machine (new strategy now) steps log final) :
    Records strategy (deliveredMessages steps) final := by
  induction trace with
  | nil => exact records_new strategy now
  | snoc delivery earlier last inductionHypothesis =>
      rw [deliveredMessages, List.map_append]
      exact inductionHypothesis.step last

/-- A list of statuses tells of every child what its messages record, once. -/
structure StatusesTell
    (strategy : RestartStrategy)
    (messages : List SupervisorMessage)
    (statuses : List ChildStatus) : Prop where
  once : (statuses.map ChildStatus.id).Nodup
  all :
    ∀ childId,
      (∃ status ∈ statuses, status.id = childId) ↔
        (SupervisorMessage.recorded childId messages).isSome = true
  told :
    ∀ status ∈ statuses,
      ∃ record,
        SupervisorMessage.recorded status.id messages = some record ∧
          status.name = record.name ∧
          status.restartCount = record.crashes ∧
          (record.crashes = 0 → status.alive = true) ∧
          (strategy.maxRestarts < record.crashes → status.alive = false) ∧
          (strategy.baseBackoff = 0 →
            status.alive = decide (record.crashes ≤ strategy.maxRestarts))

theorem mem_statuses_iff
    {supervisor : SupervisorActor}
    {status : ChildStatus} :
    status ∈ supervisor.statuses ↔
      ∃ entry,
        supervisor.children.lookup status.id = some entry ∧
          status.name = entry.name ∧
          status.restartCount = entry.restartCount ∧
          status.alive = entry.alive := by
  obtain ⟨id, name, restartCount, alive⟩ := status
  simp only [SupervisorActor.statuses, List.mem_map, Sigma.exists,
    ChildStatus.mk.injEq, ← AList.mem_lookup_iff, Option.mem_def]
  constructor
  · rintro ⟨childId, entry, there, rfl, rfl, rfl, rfl⟩
    exact ⟨entry, there, rfl, rfl, rfl⟩
  · rintro ⟨entry, there, rfl, rfl, rfl⟩
    exact ⟨id, entry, there, rfl, rfl, rfl, rfl⟩

/-- What is recorded is what `GetStatus` tells. -/
theorem Records.statusesTell
    {strategy : RestartStrategy}
    {messages : List SupervisorMessage}
    {state : Supervised}
    (records : Records strategy messages state) :
    StatusesTell strategy messages state.supervisor.statuses where
  once := by
    have keys := state.supervisor.children.keys_nodup
    have same :
        state.supervisor.statuses.map ChildStatus.id =
          state.supervisor.children.keys := by
      simp [SupervisorActor.statuses, AList.keys, List.keys]
    rw [same]
    exact keys
  all childId := by
    cases known : SupervisorMessage.recorded childId messages with
    | none =>
        have absent := records.absent childId known
        constructor
        · rintro ⟨status, member, rfl⟩
          obtain ⟨entry, there, -⟩ := mem_statuses_iff.mp member
          rw [absent] at there
          cases there
        · simp
    | some record =>
        obtain ⟨entry, there, -⟩ := records.present childId record known
        refine ⟨fun _ => rfl, fun _ => ?_⟩
        exact ⟨⟨childId, entry.name, entry.restartCount, entry.alive⟩,
          mem_statuses_iff.mpr ⟨entry, there, rfl, rfl, rfl⟩, rfl⟩
  told status member := by
    obtain ⟨entry, there, name, restartCount, alive⟩ :=
      mem_statuses_iff.mp member
    cases known : SupervisorMessage.recorded status.id messages with
    | none =>
        rw [records.absent status.id known] at there
        cases there
    | some record =>
        obtain ⟨same, registered, tells⟩ :=
          records.present status.id record known
        obtain rfl : same = entry := by simpa [there] using registered.symm
        rw [name, restartCount, alive]
        exact ⟨record, rfl, tells.name, tells.restartCount, tells.uncrashed,
          tells.exhausted, tells.undelayed⟩

end Supervised

end Runact
