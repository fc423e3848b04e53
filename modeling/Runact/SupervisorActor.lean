import Runact.Basic

namespace Runact

/-!
# The supervisor actor

`SupervisorActor::handle` keeps one entry per child and decides on every crash
whether the child is restarted.  Durations and clock readings are counted in
nanoseconds.  A handler that panics answers `none`: `Duration * u32` panics
beyond the largest duration, and `restart_count + 1` beyond the largest `usize`.
-/

/-- `Duration::MAX`, in nanoseconds. -/
def maxDuration : Nat := 2 ^ 64 * 10 ^ 9 - 1

/-- `Duration * u32`. -/
def mulDuration (duration multiplier : Nat) : Option Nat :=
  if duration * multiplier ≤ maxDuration then
    some (duration * multiplier)
  else
    none

/-- `usize + 1` on a 64-bit target. -/
def incrementUsize (count : Nat) : Option Nat :=
  if count + 1 < 2 ^ 64 then some (count + 1) else none

/-- `Duration::from_secs`. -/
def fromSecs (seconds : Nat) : Nat :=
  seconds * 10 ^ 9

/-- `RestartStrategy`. -/
inductive RestartStrategy where
  | oneForOne (maxRestarts within baseBackoff : Nat)
  deriving DecidableEq, Repr

namespace RestartStrategy

/-- The limit on restarts. -/
def maxRestarts : RestartStrategy → Nat
  | .oneForOne maxRestarts _ _ => maxRestarts

/-- The time window for counting restarts; no code reads it. -/
def within : RestartStrategy → Nat
  | .oneForOne _ within _ => within

/-- The backoff before the first repetition. -/
def baseBackoff : RestartStrategy → Nat
  | .oneForOne _ _ baseBackoff => baseBackoff

end RestartStrategy

/-- `SupervisorMessage`. -/
inductive SupervisorMessage where
  | childStarted (childId : ActorId) (name : String)
  | childCrashed (childId : ActorId) (reason : String)
  | getStatus
  deriving DecidableEq

/-- `ChildStatus`. -/
structure ChildStatus where
  id : ActorId
  name : String
  restartCount : Nat
  alive : Bool
  deriving DecidableEq, Repr

/-- `ChildEntry`. -/
structure ChildEntry where
  name : String
  restartCount : Nat
  alive : Bool
  lastRestartAt : Option Nat
  deriving DecidableEq, Repr

/-- `SupervisorActor`. -/
structure SupervisorActor where
  children : AList (fun _ : ActorId => ChildEntry)
  strategy : RestartStrategy

/-- The clock readings of one handler call: a crash reads the clock once to see
how long ago the last restart was, and once more to stamp a new one. -/
structure Readings where
  first : Nat
  second : Nat
  ordered : first ≤ second

/-- What a handler call decides. -/
inductive SupervisorEvent where
  | started (childId : ActorId) (time : Nat)
  /-- `child crashed, restarting`. -/
  | granted (childId : ActorId) (time : Nat)
  /-- `child crashed, backoff not elapsed, staying dead`. -/
  | deferred (childId : ActorId) (time : Nat)
  /-- `child exceeded max restarts, giving up`. -/
  | gaveUp (childId : ActorId) (time : Nat)
  /-- A crash of a child that is not registered. -/
  | ignored (childId : ActorId)
  /-- The reply to `GetStatus`. -/
  | replied (statuses : List ChildStatus)
  deriving DecidableEq

namespace SupervisorActor

/-- `SupervisorActor::new`. -/
def new (strategy : RestartStrategy) : SupervisorActor where
  children := ∅
  strategy := strategy

/-- `SupervisorActor::max_restarts`. -/
def maxRestarts (supervisor : SupervisorActor) : Nat :=
  supervisor.strategy.maxRestarts

/-- `SupervisorActor::base_backoff`. -/
def baseBackoff (supervisor : SupervisorActor) : Nat :=
  supervisor.strategy.baseBackoff

/-- `SupervisorActor::backoff_delay`; `restart_count as u32` truncates, and the
subtraction saturates. -/
def backoffDelay?
    (supervisor : SupervisorActor)
    (restartCount : Nat) : Option Nat :=
  let shift := min (restartCount % 2 ^ 32 - 1) 30
  let multiplier := 2 ^ shift
  (mulDuration supervisor.baseBackoff multiplier).map fun delay =>
    min delay (fromSecs 30)

/-- Replace the entry of a child. -/
def setEntry
    (supervisor : SupervisorActor)
    (childId : ActorId)
    (entry : ChildEntry) : SupervisorActor :=
  { supervisor with children := supervisor.children.insert childId entry }

/-- What `GetStatus` replies. -/
def statuses (supervisor : SupervisorActor) : List ChildStatus :=
  supervisor.children.entries.map fun child =>
    { id := child.1
      name := child.2.name
      restartCount := child.2.restartCount
      alive := child.2.alive }

/-- The backoff since the last restart has not elapsed. -/
def backoffPending
    (lastRestartAt : Option Nat)
    (now delay : Nat) : Bool :=
  match lastRestartAt with
  | none => false
  | some last => decide (now - last < delay)

/-- The handling of a crash, once the new count and the delay are computed. -/
def crashed
    (supervisor : SupervisorActor)
    (childId : ActorId)
    (entry : ChildEntry)
    (newRestartCount delay : Nat)
    (readings : Readings) : SupervisorActor × List SupervisorEvent :=
  if newRestartCount ≤ supervisor.maxRestarts then
    if backoffPending entry.lastRestartAt readings.first delay then
      (supervisor.setEntry childId
          { entry with restartCount := newRestartCount, alive := false },
        [.deferred childId readings.first])
    else
      (supervisor.setEntry childId
          { entry with
            restartCount := newRestartCount
            alive := true
            lastRestartAt := some readings.second },
        [.granted childId readings.second])
  else
    (supervisor.setEntry childId
        { entry with restartCount := newRestartCount, alive := false },
      [.gaveUp childId readings.first])

/-- `SupervisorActor::handle`. -/
def handle?
    (supervisor : SupervisorActor)
    (message : SupervisorMessage)
    (readings : Readings) :
    Option (SupervisorActor × List SupervisorEvent) :=
  match message with
  | .childStarted childId name =>
      some (supervisor.setEntry childId
          { name := name
            restartCount := 0
            alive := true
            lastRestartAt := none },
        [.started childId readings.second])
  | .childCrashed childId _ =>
      match supervisor.children.lookup childId with
      | none =>
          -- the count of an unknown child is zero, and its delay is computed
          match supervisor.backoffDelay? 0 with
          | none => none
          | some _ => some (supervisor, [.ignored childId])
      | some entry =>
          match incrementUsize entry.restartCount with
          | none => none
          | some newRestartCount =>
              match supervisor.backoffDelay? newRestartCount with
              | none => none
              | some delay =>
                  some (supervisor.crashed childId entry newRestartCount
                    delay readings)
  | .getStatus => some (supervisor, [.replied supervisor.statuses])

/-- Everything a handler call can do, one rule for each branch. -/
inductive Handles
    (supervisor : SupervisorActor)
    (readings : Readings) :
    SupervisorMessage → SupervisorActor → List SupervisorEvent → Prop where
  | started (childId : ActorId) (name : String) :
      Handles supervisor readings (.childStarted childId name)
        (supervisor.setEntry childId
          { name := name
            restartCount := 0
            alive := true
            lastRestartAt := none })
        [.started childId readings.second]
  | ignored (childId : ActorId) (reason : String) :
      supervisor.children.lookup childId = none →
      Handles supervisor readings (.childCrashed childId reason)
        supervisor [.ignored childId]
  | granted
      (childId : ActorId) (reason : String) (entry : ChildEntry)
      (delay : Nat) :
      supervisor.children.lookup childId = some entry →
      supervisor.backoffDelay? (entry.restartCount + 1) = some delay →
      entry.restartCount + 1 ≤ supervisor.maxRestarts →
      backoffPending entry.lastRestartAt readings.first delay = false →
      Handles supervisor readings (.childCrashed childId reason)
        (supervisor.setEntry childId
          { entry with
            restartCount := entry.restartCount + 1
            alive := true
            lastRestartAt := some readings.second })
        [.granted childId readings.second]
  | deferred
      (childId : ActorId) (reason : String) (entry : ChildEntry)
      (delay : Nat) :
      supervisor.children.lookup childId = some entry →
      supervisor.backoffDelay? (entry.restartCount + 1) = some delay →
      entry.restartCount + 1 ≤ supervisor.maxRestarts →
      backoffPending entry.lastRestartAt readings.first delay = true →
      Handles supervisor readings (.childCrashed childId reason)
        (supervisor.setEntry childId
          { entry with
            restartCount := entry.restartCount + 1
            alive := false })
        [.deferred childId readings.first]
  | gaveUp
      (childId : ActorId) (reason : String) (entry : ChildEntry)
      (delay : Nat) :
      supervisor.children.lookup childId = some entry →
      supervisor.backoffDelay? (entry.restartCount + 1) = some delay →
      supervisor.maxRestarts < entry.restartCount + 1 →
      Handles supervisor readings (.childCrashed childId reason)
        (supervisor.setEntry childId
          { entry with
            restartCount := entry.restartCount + 1
            alive := false })
        [.gaveUp childId readings.first]
  | replied :
      Handles supervisor readings .getStatus supervisor
        [.replied supervisor.statuses]

theorem incrementUsize_eq_some
    {count next : Nat}
    (incremented : incrementUsize count = some next) :
    next = count + 1 := by
  simp only [incrementUsize, Option.ite_none_right_eq_some,
    Option.some.injEq] at incremented
  exact incremented.2.symm

/-- A handler call that returns does one of the things the rules list. -/
theorem handles_of_handle?
    {supervisor after : SupervisorActor}
    {message : SupervisorMessage}
    {readings : Readings}
    {events : List SupervisorEvent}
    (handled :
      supervisor.handle? message readings = some (after, events)) :
    Handles supervisor readings message after events := by
  cases message with
  | childStarted childId name =>
      simp only [handle?, Option.some.injEq, Prod.mk.injEq] at handled
      obtain ⟨rfl, rfl⟩ := handled
      exact .started childId name
  | childCrashed childId reason =>
      simp only [handle?] at handled
      cases registered : supervisor.children.lookup childId with
      | none =>
          simp only [registered] at handled
          split at handled
          · cases handled
          · simp only [Option.some.injEq, Prod.mk.injEq] at handled
            obtain ⟨rfl, rfl⟩ := handled
            exact .ignored childId reason registered
      | some entry =>
          simp only [registered] at handled
          split at handled
          · cases handled
          · rename_i count incremented
            obtain rfl := incrementUsize_eq_some incremented
            split at handled
            · cases handled
            · rename_i delay computed
              simp only [crashed, Option.some.injEq] at handled
              split at handled
              · rename_i below
                split at handled <;>
                  obtain ⟨rfl, rfl⟩ := Prod.mk.inj handled
                · exact .deferred childId reason entry delay registered
                    computed below ‹_›
                · exact .granted childId reason entry delay registered
                    computed below (Bool.eq_false_iff.mpr ‹_›)
              · rename_i above
                obtain ⟨rfl, rfl⟩ := Prod.mk.inj handled
                exact .gaveUp childId reason entry delay registered
                  computed (Nat.lt_of_not_le above)
  | getStatus =>
      simp only [handle?, Option.some.injEq, Prod.mk.injEq] at handled
      obtain ⟨rfl, rfl⟩ := handled
      exact .replied

end SupervisorActor

/-- A supervisor and the clock it has read so far. -/
structure Supervised where
  supervisor : SupervisorActor
  now : Nat

/-- A message together with the clock readings of its handler call. -/
structure Delivery where
  message : SupervisorMessage
  readings : Readings

namespace Supervised

/-- A fresh supervisor, at a given clock reading. -/
def new (strategy : RestartStrategy) (now : Nat) : Supervised where
  supervisor := SupervisorActor.new strategy
  now := now

/-- The supervisor handles one message after the other; the clock never goes
back. -/
def machine : Machine Supervised Delivery SupervisorEvent where
  step? state delivery :=
    if state.now ≤ delivery.readings.first then
      (state.supervisor.handle? delivery.message delivery.readings).map
        fun outcome =>
          ({ supervisor := outcome.1, now := delivery.readings.second },
            outcome.2)
    else
      none

/-- Every step is one handler call at a time not before the clock. -/
theorem step_cases
    {state after : Supervised}
    {delivery : Delivery}
    {events : List SupervisorEvent}
    (step : machine.step? state delivery = some (after, events)) :
    state.now ≤ delivery.readings.first ∧
      after.now = delivery.readings.second ∧
      SupervisorActor.Handles state.supervisor delivery.readings
        delivery.message after.supervisor events := by
  simp only [machine, Option.ite_none_right_eq_some, Option.map_eq_some_iff,
    Prod.exists, Prod.mk.injEq] at step
  obtain ⟨forward, supervisor, shown, handled, rfl, rfl⟩ := step
  exact ⟨forward, rfl, SupervisorActor.handles_of_handle? handled⟩

end Supervised

end Runact
