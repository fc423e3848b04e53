import Runact.RestartBudget

namespace Runact

/-!
# Two supervisors, one policy

`Supervisor::handle_child_failure` counts the failures of every child it is
told of, registered or not, and knows no backoff.  Fed with the crashes the
supervisor actor handles, it counts the same and allows whatever the actor
grants.
-/

/-- `Supervisor`; its child specifications play no part in failures. -/
structure Supervisor where
  id : ActorId
  strategy : RestartStrategy
  restartCounts : AList (fun _ : ActorId => Nat)

namespace Supervisor

/-- `Supervisor::new`. -/
def new (id : ActorId) (strategy : RestartStrategy) : Supervisor where
  id := id
  strategy := strategy
  restartCounts := ∅

/-- `entry(child_id).or_insert(0)`, read. -/
def countOf (supervisor : Supervisor) (childId : ActorId) : Nat :=
  (supervisor.restartCounts.lookup childId).getD 0

/-- `Supervisor::handle_child_failure`; the answer is whether to restart. -/
def handleChildFailure?
    (supervisor : Supervisor)
    (childId : ActorId) : Option (Supervisor × Bool) :=
  match incrementUsize (supervisor.countOf childId) with
  | none => none
  | some count =>
      let counted : Supervisor :=
        { supervisor with
          restartCounts := supervisor.restartCounts.insert childId count }
      match supervisor.strategy with
      | .oneForOne maxRestarts _ _ =>
          if count > maxRestarts then
            -- too many restarts, escalating
            some (counted, false)
          else
            some (counted, true)

/-- Handle one failure after the other, keeping the answers. -/
def feed? :
    Supervisor → List ActorId →
      Option (Supervisor × List (ActorId × Bool))
  | supervisor, [] => some (supervisor, [])
  | supervisor, childId :: rest =>
      match supervisor.handleChildFailure? childId with
      | none => none
      | some (next, restart) =>
          (next.feed? rest).map fun outcome =>
            (outcome.1, (childId, restart) :: outcome.2)

/-- A failure is counted, and answered by a comparison with the limit. -/
theorem handleChildFailure_eq
    {supervisor : Supervisor}
    {childId : ActorId}
    {count : Nat}
    (counted :
      incrementUsize (supervisor.countOf childId) = some count) :
    supervisor.handleChildFailure? childId =
      some ({ supervisor with
          restartCounts := supervisor.restartCounts.insert childId count },
        decide (count ≤ supervisor.strategy.maxRestarts)) := by
  obtain ⟨id, strategy, restartCounts⟩ := supervisor
  cases strategy with
  | oneForOne maxRestarts within baseBackoff =>
      by_cases beyond : maxRestarts < count
      · have above : ¬ count ≤ maxRestarts := Nat.not_le.mpr beyond
        simp [handleChildFailure?, counted, RestartStrategy.maxRestarts,
          beyond, above]
      · have within : count ≤ maxRestarts := Nat.not_lt.mp beyond
        simp [handleChildFailure?, counted, RestartStrategy.maxRestarts,
          within]

/-- One more failure after those already fed. -/
theorem feed_snoc
    {supervisor middle after : Supervisor}
    {children : List ActorId}
    {answers : List (ActorId × Bool)}
    {childId : ActorId}
    {restart : Bool}
    (earlier : supervisor.feed? children = some (middle, answers))
    (last :
      middle.handleChildFailure? childId = some (after, restart)) :
    supervisor.feed? (children ++ [childId]) =
      some (after, answers ++ [(childId, restart)]) := by
  induction children generalizing supervisor answers with
  | nil =>
      simp only [feed?, Option.some.injEq, Prod.mk.injEq] at earlier
      obtain ⟨rfl, rfl⟩ := earlier
      simp [feed?, last]
  | cons child rest inductionHypothesis =>
      rw [List.cons_append]
      unfold feed? at earlier ⊢
      cases first : supervisor.handleChildFailure? child with
      | none => simp [first] at earlier
      | some outcome =>
          obtain ⟨next, answer⟩ := outcome
          simp only [first, Option.map_eq_some_iff, Prod.exists,
            Prod.mk.injEq] at earlier
          obtain ⟨final, given, fed, rfl, rfl⟩ := earlier
          simp [inductionHypothesis fed]

end Supervisor

namespace Supervised

/-- The decision on the crash of a registered child. -/
def decision? : SupervisorEvent → Option (ActorId × Bool)
  | .granted childId _ => some (childId, true)
  | .deferred childId _ => some (childId, false)
  | .gaveUp childId _ => some (childId, false)
  | _ => none

/-- The decisions of the supervisor actor, crash by crash. -/
def decisions (log : List SupervisorEvent) : List (ActorId × Bool) :=
  log.filterMap decision?

/-- The children that crashed, in order. -/
def crashedChildren (log : List SupervisorEvent) : List ActorId :=
  (decisions log).map Prod.fst

/-- Children are registered by one `ChildStarted`, before they crash. -/
def registersOnce
    (state : Supervised)
    (delivery : Delivery) : Bool :=
  match delivery.message with
  | .childStarted childId _ =>
      (state.supervisor.children.lookup childId).isNone
  | .childCrashed childId _ =>
      (state.supervisor.children.lookup childId).isSome
  | .getStatus => true

/-- The restart count of a child; zero where it has no entry. -/
def restartCountOf
    (state : Supervised)
    (childId : ActorId) : Nat :=
  ((state.supervisor.children.lookup childId).map
    ChildEntry.restartCount).getD 0

/-- A supervisor has counted and answered as the supervisor actor has. -/
structure SamePolicy
    (strategy : RestartStrategy)
    (log : List SupervisorEvent)
    (state : Supervised)
    (supervisor : Supervisor)
    (answers : List (ActorId × Bool)) : Prop where
  counts :
    ∀ childId, supervisor.countOf childId = restartCountOf state childId
  /-- Crash by crash, what the actor grants the supervisor allows. -/
  granted :
    List.Forall₂
      (fun decision answer =>
        decision.1 = answer.1 ∧ (decision.2 = true → answer.2 = true))
      (decisions log) answers
  withoutBackoff : strategy.baseBackoff = 0 → decisions log = answers

@[simp] theorem decisions_append
    (log later : List SupervisorEvent) :
    decisions (log ++ later) = decisions log ++ decisions later :=
  List.filterMap_append

/-- An event that is no decision changes no count. -/
theorem SamePolicy.silent
    {strategy : RestartStrategy}
    {log : List SupervisorEvent}
    {event : SupervisorEvent}
    {state after : Supervised}
    {supervisor : Supervisor}
    {answers : List (ActorId × Bool)}
    (same : SamePolicy strategy log state supervisor answers)
    (undecided : decision? event = none)
    (sameCounts :
      ∀ childId, restartCountOf after childId =
        restartCountOf state childId) :
    SamePolicy strategy (log ++ [event]) after supervisor answers := by
  have nothing : decisions (log ++ [event]) = decisions log := by
    simp [decisions, undecided]
  refine { counts := ?_, granted := ?_, withoutBackoff := ?_ }
  · intro childId
    rw [same.counts, sameCounts]
  · rw [nothing]
    exact same.granted
  · rw [nothing]
    exact same.withoutBackoff

/-- The counts after the entry of one child was replaced. -/
theorem restartCountOf_setEntry
    (state : Supervised)
    (childId other : ActorId)
    (entry : ChildEntry)
    (now : Nat) :
    restartCountOf ⟨state.supervisor.setEntry childId entry, now⟩ other =
      if other = childId then entry.restartCount
      else restartCountOf state other := by
  by_cases same : other = childId
  · subst same
    simp [restartCountOf]
  · simp [restartCountOf, lookup_setEntry_of_ne _ _ same, same]

/-- Both count a crash, and answer it. -/
theorem SamePolicy.crash
    {strategy : RestartStrategy}
    {log : List SupervisorEvent}
    {state : Supervised}
    {supervisor : Supervisor}
    {answers : List (ActorId × Bool)}
    {childId : ActorId}
    {entry : ChildEntry}
    {count : Nat}
    {restart : Bool}
    (event : SupervisorEvent)
    (changed : ChildEntry)
    (now : Nat)
    (same : SamePolicy strategy log state supervisor answers)
    (sameStrategy : supervisor.strategy = strategy)
    (registered :
      state.supervisor.children.lookup childId = some entry)
    (counted : incrementUsize entry.restartCount = some count)
    (next : changed.restartCount = count)
    (decided : decision? event = some (childId, restart))
    (allowed : restart = true → count ≤ strategy.maxRestarts)
    (atOnce :
      strategy.baseBackoff = 0 →
        restart = decide (count ≤ strategy.maxRestarts)) :
    ∃ after answer,
      supervisor.handleChildFailure? childId = some (after, answer) ∧
        after.strategy = strategy ∧
        SamePolicy strategy (log ++ [event])
          ⟨state.supervisor.setEntry childId changed, now⟩ after
          (answers ++ [(childId, answer)]) := by
  have before : supervisor.countOf childId = entry.restartCount := by
    simp [same.counts, restartCountOf, registered]
  rw [← before] at counted
  have one : decisions [event] = [(childId, restart)] := by
    simp [decisions, decided]
  refine ⟨_, _, Supervisor.handleChildFailure_eq counted, sameStrategy,
    { counts := ?_, granted := ?_, withoutBackoff := ?_ }⟩
  · intro other
    rw [restartCountOf_setEntry]
    by_cases here : other = childId
    · subst here
      simp [Supervisor.countOf, next]
    · simpa [Supervisor.countOf, here, AList.lookup_insert_ne here] using
        same.counts other
  · rw [decisions_append, one]
    refine List.rel_append same.granted (.cons ⟨rfl, ?_⟩ .nil)
    intro granted
    simpa [sameStrategy] using allowed granted
  · intro noBackoff
    rw [decisions_append, one, same.withoutBackoff noBackoff,
      atOnce noBackoff, sameStrategy]

/-- Without a base backoff there is no delay, and nothing is deferred. -/
theorem not_pending_of_no_backoff
    {supervisor : SupervisorActor}
    {lastRestartAt : Option Nat}
    {count now delay : Nat}
    (noBackoff : supervisor.strategy.baseBackoff = 0)
    (computed : supervisor.backoffDelay? count = some delay) :
    SupervisorActor.backoffPending lastRestartAt now delay = false := by
  have none : delay = 0 := by
    simpa [SupervisorActor.backoffDelay?, mulDuration,
      SupervisorActor.baseBackoff, noBackoff, eq_comm] using computed
  subst none
  cases lastRestartAt <;> simp [SupervisorActor.backoffPending]

/-- Every handled message keeps the two supervisors in agreement. -/
theorem SamePolicy.step
    {strategy : RestartStrategy}
    {log events : List SupervisorEvent}
    {state after : Supervised}
    {delivery : Delivery}
    {initial supervisor : Supervisor}
    {answers : List (ActorId × Bool)}
    (same : SamePolicy strategy log state supervisor answers)
    (fed :
      initial.feed? (crashedChildren log) = some (supervisor, answers))
    (actorStrategy : state.supervisor.strategy = strategy)
    (sameStrategy : supervisor.strategy = strategy)
    (once : registersOnce state delivery = true)
    (step : machine.step? state delivery = some (after, events)) :
    ∃ next nextAnswers,
      initial.feed? (crashedChildren (log ++ events)) =
          some (next, nextAnswers) ∧
        next.strategy = strategy ∧
        SamePolicy strategy (log ++ events) after next nextAnswers := by
  have unfed
      {event : SupervisorEvent}
      (undecided : decision? event = none) :
      initial.feed? (crashedChildren (log ++ [event])) =
        some (supervisor, answers) := by
    simpa [crashedChildren, decisions, undecided] using fed
  have refed
      {event : SupervisorEvent}
      {childId : ActorId}
      {restart answer : Bool}
      {next : Supervisor}
      (decided : decision? event = some (childId, restart))
      (last :
        supervisor.handleChildFailure? childId = some (next, answer)) :
      initial.feed? (crashedChildren (log ++ [event])) =
        some (next, answers ++ [(childId, answer)]) := by
    have fedOne := Supervisor.feed_snoc fed last
    simpa [crashedChildren, decisions, decided] using fedOne
  obtain ⟨message, readings⟩ := delivery
  obtain ⟨actor, now⟩ := after
  obtain ⟨-, rfl, handles⟩ := step_cases step
  have fits
      {childId : ActorId}
      {reason : String}
      {entry : ChildEntry}
      (crash : message = .childCrashed childId reason)
      (registered :
        state.supervisor.children.lookup childId = some entry) :
      incrementUsize entry.restartCount =
        some (entry.restartCount + 1) := by
    subst crash
    cases counted : incrementUsize entry.restartCount with
    | none =>
        simp [machine, SupervisorActor.handle?, registered, counted] at step
    | some count => rw [SupervisorActor.incrementUsize_eq_some counted]
  dsimp only at handles
  cases handles with
  | started childId name =>
      have absent :
          state.supervisor.children.lookup childId = none := by
        simpa [registersOnce] using once
      refine ⟨supervisor, answers, unfed rfl, sameStrategy,
        same.silent rfl fun other => ?_⟩
      rw [restartCountOf_setEntry]
      by_cases here : other = childId
      · subst here
        simp [restartCountOf, absent]
      · rw [if_neg here]
  | ignored childId reason unregistered =>
      simp [registersOnce, unregistered] at once
  | granted childId reason entry delay registered computed below elapsed =>
      have limit : entry.restartCount + 1 ≤ strategy.maxRestarts := by
        rw [← actorStrategy]
        exact below
      obtain ⟨next, answer, last, kept, agrees⟩ :=
        SamePolicy.crash (.granted childId readings.second)
          { entry with
            restartCount := entry.restartCount + 1
            alive := true
            lastRestartAt := some readings.second }
          readings.second same sameStrategy registered
          (fits rfl registered) rfl rfl (fun _ => limit)
          (fun _ => (decide_eq_true limit).symm)
      exact ⟨next, _, refed rfl last, kept, agrees⟩
  | deferred childId reason entry delay registered computed below pending =>
      obtain ⟨next, answer, last, kept, agrees⟩ :=
        SamePolicy.crash (.deferred childId readings.first)
          { entry with
            restartCount := entry.restartCount + 1
            alive := false }
          readings.second same sameStrategy registered
          (fits rfl registered) rfl rfl
          (fun impossible => (Bool.false_ne_true impossible).elim)
          (fun noBackoff => by
            rw [← actorStrategy] at noBackoff
            rw [not_pending_of_no_backoff noBackoff computed] at pending
            cases pending)
      exact ⟨next, _, refed rfl last, kept, agrees⟩
  | gaveUp childId reason entry delay registered computed above =>
      have beyond : ¬ entry.restartCount + 1 ≤ strategy.maxRestarts := by
        rw [← actorStrategy]
        exact Nat.not_le.mpr above
      obtain ⟨next, answer, last, kept, agrees⟩ :=
        SamePolicy.crash (.gaveUp childId readings.first)
          { entry with
            restartCount := entry.restartCount + 1
            alive := false }
          readings.second same sameStrategy registered
          (fits rfl registered) rfl rfl
          (fun impossible => (Bool.false_ne_true impossible).elim)
          (fun _ => (decide_eq_false beyond).symm)
      exact ⟨next, _, refed rfl last, kept, agrees⟩
  | replied =>
      exact ⟨supervisor, answers, unfed rfl, sameStrategy,
        same.silent rfl fun _ => rfl⟩

/--
Whatever crashes the supervisor actor handles, a `Supervisor` fed with them
handles them too, counts the same, and allows every restart the actor grants;
without a base backoff their decisions are equal.
-/
theorem supervisors_agree
    {strategy : RestartStrategy}
    {now : Nat}
    {log : List SupervisorEvent}
    {state : Supervised}
    (run :
      Machine.Run (machine.restrict registersOnce) (new strategy now)
        log state)
    (id : ActorId) :
    ∃ supervisor answers,
      (Supervisor.new id strategy).feed? (crashedChildren log) =
          some (supervisor, answers) ∧
        SamePolicy strategy log state supervisor answers := by
  suffices all :
      state.supervisor.strategy = strategy ∧
        ∃ supervisor answers,
          (Supervisor.new id strategy).feed? (crashedChildren log) =
              some (supervisor, answers) ∧
            supervisor.strategy = strategy ∧
            SamePolicy strategy log state supervisor answers by
    obtain ⟨-, supervisor, answers, fed, -, same⟩ := all
    exact ⟨supervisor, answers, fed, same⟩
  refine run.history
    (fun log state =>
      state.supervisor.strategy = strategy ∧
        ∃ supervisor answers,
          (Supervisor.new id strategy).feed? (crashedChildren log) =
              some (supervisor, answers) ∧
            supervisor.strategy = strategy ∧
            SamePolicy strategy log state supervisor answers)
    (fun ⟨actorStrategy, supervisor, answers, fed, sameStrategy, same⟩
      taken => ?_)
    ⟨rfl, Supervisor.new id strategy, [], rfl, rfl, ?_⟩
  · obtain ⟨once, step⟩ := Machine.restrict_step_iff.mp taken
    exact ⟨(step_strategy step).trans actorStrategy,
      same.step fed actorStrategy sameStrategy once step⟩
  · refine { counts := fun _ => ?_, granted := .nil,
             withoutBackoff := fun _ => rfl }
    simp [Supervisor.countOf, Supervisor.new, restartCountOf, new,
      SupervisorActor.new]

/-- Two children crash in turns; one restart is deferred, one refused. -/
def crashesInTurns : List Delivery :=
  [delivery (.childStarted ⟨7⟩ "first") 0,
    delivery (.childCrashed ⟨7⟩ "panic") 10,
    delivery (.childStarted ⟨8⟩ "second") 10,
    delivery (.childCrashed ⟨8⟩ "panic") 11,
    delivery (.childCrashed ⟨7⟩ "panic") 12,
    delivery (.childCrashed ⟨7⟩ "panic") 40]

theorem supervisors_agree_inTurns :
    ∃ log state supervisor answers,
      (machine.restrict registersOnce).run? (new (.oneForOne 2 100 5) 0)
          crashesInTurns = some (state, log) ∧
        decisions log =
          [(⟨7⟩, true), (⟨8⟩, true), (⟨7⟩, false), (⟨7⟩, false)] ∧
        (Supervisor.new ⟨1⟩ (.oneForOne 2 100 5)).feed?
            (crashedChildren log) = some (supervisor, answers) ∧
        SamePolicy (.oneForOne 2 100 5) log state supervisor answers := by
  obtain ⟨log, state, executed, decided⟩ :
      ∃ log state,
        (machine.restrict registersOnce).run? (new (.oneForOne 2 100 5) 0)
            crashesInTurns = some (state, log) ∧
          decisions log =
            [(⟨7⟩, true), (⟨8⟩, true), (⟨7⟩, false), (⟨7⟩, false)] :=
    ⟨_, _, rfl, rfl⟩
  obtain ⟨supervisor, answers, fed, same⟩ :=
    supervisors_agree (Machine.run?_sound _ executed) ⟨1⟩
  exact ⟨log, state, supervisor, answers, executed, decided, fed, same⟩

end Supervised

end Runact
