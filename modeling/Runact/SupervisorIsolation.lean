import Runact.RestartBudget

namespace Runact.Supervised

/-!
# One for one

A message of the supervisor actor names at most one child, reads that child's
entry alone, and writes no other.  So the entry of a child is the work of its
own messages, and messages that name different children commute.
-/

/-- The child a message is about. -/
def named : SupervisorMessage → Option ActorId
  | .childStarted childId _ => some childId
  | .childCrashed childId _ => some childId
  | .getStatus => none

/-- The message names the child. -/
def names (childId : ActorId) (delivery : Delivery) : Bool :=
  named delivery.message == some childId

/-- Handle one message after the other, each at its own time. -/
def handleAll? : SupervisorActor → List Delivery → Option SupervisorActor
  | supervisor, [] => some supervisor
  | supervisor, delivery :: rest =>
      match supervisor.handle? delivery.message delivery.readings with
      | none => none
      | some (next, _) => handleAll? next rest

/-- The same strategy, and the same children in the hash map. -/
def SameChildren (first second : SupervisorActor) : Prop :=
  first.strategy = second.strategy ∧
    first.children.toFinmap = second.children.toFinmap

theorem sameChildren_iff
    {first second : SupervisorActor} :
    SameChildren first second ↔
      first.strategy = second.strategy ∧
        ∀ childId,
          first.children.lookup childId = second.children.lookup childId := by
  refine and_congr_right fun _ => ⟨fun same childId => ?_, fun same => ?_⟩
  · rw [← Finmap.lookup_toFinmap, same, Finmap.lookup_toFinmap]
  · refine Finmap.ext_lookup fun childId => ?_
    rw [Finmap.lookup_toFinmap, Finmap.lookup_toFinmap, same]

/-- The entry a crash writes, and what it shows, depend on the strategy, the
entry it finds and the clock. -/
theorem crashed_setEntry
    (strategy : RestartStrategy)
    (childId : ActorId)
    (entry : ChildEntry)
    (count delay : Nat)
    (readings : Readings) :
    ∃ changed events, ∀ supervisor : SupervisorActor,
      supervisor.strategy = strategy →
      supervisor.crashed childId entry count delay readings =
        (supervisor.setEntry childId changed, events) := by
  by_cases below : count ≤ strategy.maxRestarts
  · cases pending :
        SupervisorActor.backoffPending entry.lastRestartAt readings.first
          delay with
    | true =>
        refine
          ⟨{ entry with restartCount := count, alive := false },
            [.deferred childId readings.first], ?_⟩
        rintro supervisor rfl
        simp [SupervisorActor.crashed, SupervisorActor.maxRestarts, below,
          pending]
    | false =>
        refine
          ⟨{ entry with
              restartCount := count
              alive := true
              lastRestartAt := some readings.second },
            [.granted childId readings.second], ?_⟩
        rintro supervisor rfl
        simp [SupervisorActor.crashed, SupervisorActor.maxRestarts, below,
          pending]
  · refine
      ⟨{ entry with restartCount := count, alive := false },
        [.gaveUp childId readings.first], ?_⟩
    rintro supervisor rfl
    simp [SupervisorActor.crashed, SupervisorActor.maxRestarts, below]

/-- Two supervisors look alike to a message: same strategy, and the same entry
of the child it names. -/
def AlikeFor
    (message : SupervisorMessage)
    (first second : SupervisorActor) : Prop :=
  first.strategy = second.strategy ∧
    ∀ childId, named message = some childId →
      first.children.lookup childId = second.children.lookup childId

/-- What a message does depends on nothing but the child it names. -/
theorem handle_alike
    {message : SupervisorMessage}
    {readings : Readings}
    {first second after : SupervisorActor}
    {events : List SupervisorEvent}
    (alike : AlikeFor message first second)
    (handled :
      first.handle? message readings = some (after, events)) :
    ∃ alikeAfter shown,
      second.handle? message readings = some (alikeAfter, shown) ∧
        AlikeFor message after alikeAfter := by
  obtain ⟨sameStrategy, sameEntry⟩ := alike
  have sameDelay
      (count : Nat) :
      second.backoffDelay? count = first.backoffDelay? count := by
    simp [SupervisorActor.backoffDelay?, SupervisorActor.baseBackoff,
      sameStrategy]
  have written
      {childId : ActorId}
      {changed : ChildEntry}
      (about : named message = some childId) :
      AlikeFor message (first.setEntry childId changed)
        (second.setEntry childId changed) := by
    refine ⟨sameStrategy, fun other same => ?_⟩
    obtain rfl : childId = other := by simpa [about] using same
    simp
  cases message with
  | childStarted childId name =>
      simp only [SupervisorActor.handle?, Option.some.injEq,
        Prod.mk.injEq] at handled
      obtain ⟨rfl, rfl⟩ := handled
      exact ⟨_, _, rfl, written rfl⟩
  | childCrashed childId reason =>
      have entries := sameEntry childId rfl
      simp only [SupervisorActor.handle?, ← entries, sameDelay] at handled ⊢
      cases registered : first.children.lookup childId with
      | none =>
          simp only [registered] at handled ⊢
          cases computed : first.backoffDelay? 0 with
          | none => simp [computed] at handled
          | some delay =>
              simp only [computed, Option.some.injEq,
                Prod.mk.injEq] at handled
              obtain ⟨rfl, rfl⟩ := handled
              exact ⟨second, _, rfl, sameStrategy, sameEntry⟩
      | some entry =>
          simp only [registered] at handled ⊢
          cases counted : incrementUsize entry.restartCount with
          | none => simp [counted] at handled
          | some count =>
              simp only [counted] at handled ⊢
              cases computed : first.backoffDelay? count with
              | none => simp [computed] at handled
              | some delay =>
                  simp only [computed] at handled ⊢
                  obtain ⟨changed, shown, writes⟩ :=
                    crashed_setEntry first.strategy childId entry count
                      delay readings
                  rw [writes first rfl, Option.some.injEq,
                    Prod.mk.injEq] at handled
                  obtain ⟨rfl, rfl⟩ := handled
                  exact ⟨_, _, by rw [writes second sameStrategy.symm],
                    written rfl⟩
  | getStatus =>
      simp only [SupervisorActor.handle?, Option.some.injEq,
        Prod.mk.injEq] at handled
      obtain ⟨rfl, rfl⟩ := handled
      exact ⟨second, _, rfl, sameStrategy, sameEntry⟩

/-- A message leaves the strategy and all other children alone. -/
theorem handle_frame
    {message : SupervisorMessage}
    {readings : Readings}
    {supervisor after : SupervisorActor}
    {events : List SupervisorEvent}
    (handled :
      supervisor.handle? message readings = some (after, events)) :
    after.strategy = supervisor.strategy ∧
      ∀ childId, named message ≠ some childId →
        after.children.lookup childId =
          supervisor.children.lookup childId := by
  have written
      {childId : ActorId}
      {changed : ChildEntry}
      (about : named message = some childId)
      (other : ActorId)
      (elsewhere : named message ≠ some other) :
      (supervisor.setEntry childId changed).children.lookup other =
        supervisor.children.lookup other := by
    refine lookup_setEntry_of_ne _ _ fun same => elsewhere ?_
    rw [about, same]
  cases SupervisorActor.handles_of_handle? handled with
  | started childId name => exact ⟨rfl, written rfl⟩
  | ignored childId reason unregistered => exact ⟨rfl, fun _ _ => rfl⟩
  | granted childId reason entry delay registered computed below elapsed =>
      exact ⟨rfl, written rfl⟩
  | deferred childId reason entry delay registered computed below pending =>
      exact ⟨rfl, written rfl⟩
  | gaveUp childId reason entry delay registered computed above =>
      exact ⟨rfl, written rfl⟩
  | replied => exact ⟨rfl, fun _ _ => rfl⟩

/-- Supervisors with the same children handle a message alike. -/
theorem SameChildren.handle
    {message : SupervisorMessage}
    {readings : Readings}
    {first second after : SupervisorActor}
    {events : List SupervisorEvent}
    (same : SameChildren first second)
    (handled :
      first.handle? message readings = some (after, events)) :
    ∃ sameAfter shown,
      second.handle? message readings = some (sameAfter, shown) ∧
        SameChildren after sameAfter := by
  obtain ⟨sameStrategy, sameEntries⟩ := sameChildren_iff.mp same
  obtain ⟨sameAfter, shown, handledToo, strategies, entries⟩ :=
    handle_alike ⟨sameStrategy, fun childId _ => sameEntries childId⟩ handled
  refine ⟨sameAfter, shown, handledToo,
    sameChildren_iff.mpr ⟨strategies, fun childId => ?_⟩⟩
  by_cases about : named message = some childId
  · exact entries childId about
  · rw [(handle_frame handled).2 childId about,
      (handle_frame handledToo).2 childId about, sameEntries]

/-- Supervisors with the same children handle all messages alike. -/
theorem SameChildren.handleAll
    {deliveries : List Delivery}
    {first second after : SupervisorActor}
    (same : SameChildren first second)
    (handled : handleAll? first deliveries = some after) :
    ∃ sameAfter,
      handleAll? second deliveries = some sameAfter ∧
        SameChildren after sameAfter := by
  induction deliveries generalizing first second with
  | nil =>
      simp only [handleAll?, Option.some.injEq] at handled
      subst handled
      exact ⟨second, rfl, same⟩
  | cons delivery rest inductionHypothesis =>
      unfold handleAll? at handled ⊢
      cases step :
          first.handle? delivery.message delivery.readings with
      | none => simp [step] at handled
      | some outcome =>
          obtain ⟨next, events⟩ := outcome
          simp only [step] at handled
          obtain ⟨sameNext, shown, stepToo, sameThen⟩ := same.handle step
          simp only [stepToo]
          exact inductionHypothesis sameThen handled

/-- No child is named by both messages. -/
def NamesApart (first second : Delivery) : Prop :=
  ∀ childId,
    names childId first = true → names childId second = false

/-- Two messages that name different children commute. -/
theorem handle_swap
    {supervisor middle after : SupervisorActor}
    {first second : Delivery}
    {firstEvents secondEvents : List SupervisorEvent}
    (apart : NamesApart first second)
    (firstHandled :
      supervisor.handle? first.message first.readings =
        some (middle, firstEvents))
    (secondHandled :
      middle.handle? second.message second.readings =
        some (after, secondEvents)) :
    ∃ other swapped secondShown firstShown,
      supervisor.handle? second.message second.readings =
          some (other, secondShown) ∧
        other.handle? first.message first.readings =
          some (swapped, firstShown) ∧
        SameChildren after swapped := by
  have unnamed
      {childId : ActorId}
      (about : named second.message = some childId) :
      named first.message ≠ some childId := by
    intro aboutFirst
    have both := apart childId (by simp [names, aboutFirst])
    simp [names, about] at both
  obtain ⟨firstStrategy, firstFrame⟩ := handle_frame firstHandled
  obtain ⟨secondStrategy, secondFrame⟩ := handle_frame secondHandled
  obtain ⟨other, secondShown, secondFirst, otherStrategy, otherEntry⟩ :=
    handle_alike
      (⟨firstStrategy, fun childId about =>
        firstFrame childId (unnamed about)⟩ :
        AlikeFor second.message middle supervisor) secondHandled
  obtain ⟨-, otherFrame⟩ := handle_frame secondFirst
  obtain ⟨swapped, firstShown, firstSecond, swappedStrategy,
      swappedEntry⟩ :=
    handle_alike
      (⟨(secondStrategy.trans firstStrategy).symm.trans otherStrategy,
        fun childId about =>
          (otherFrame childId fun aboutSecond =>
            unnamed aboutSecond about).symm⟩ :
        AlikeFor first.message supervisor other) firstHandled
  obtain ⟨-, swappedFrame⟩ := handle_frame firstSecond
  refine ⟨other, swapped, secondShown, firstShown, secondFirst,
    firstSecond, sameChildren_iff.mpr
      ⟨secondStrategy.trans swappedStrategy, fun childId => ?_⟩⟩
  by_cases aboutSecond : named second.message = some childId
  · rw [otherEntry childId aboutSecond,
      swappedFrame childId (unnamed aboutSecond)]
  · rw [secondFrame childId aboutSecond]
    by_cases aboutFirst : named first.message = some childId
    · exact swappedEntry childId aboutFirst
    · rw [firstFrame childId aboutFirst,
        swappedFrame childId aboutFirst, otherFrame childId aboutSecond]

/-- Swapping two neighbours that name different children. -/
theorem handleAll_swap
    {supervisor after : SupervisorActor}
    {front back : List Delivery}
    {first second : Delivery}
    (apart : NamesApart first second)
    (handled :
      handleAll? supervisor (front ++ first :: second :: back) =
        some after) :
    ∃ swapped,
      handleAll? supervisor (front ++ second :: first :: back) =
          some swapped ∧
        SameChildren after swapped := by
  induction front generalizing supervisor with
  | nil =>
      simp only [List.nil_append, handleAll?] at handled ⊢
      cases one : supervisor.handle? first.message first.readings with
      | none => simp [one] at handled
      | some outcome =>
          obtain ⟨middle, firstEvents⟩ := outcome
          simp only [one] at handled
          cases two : middle.handle? second.message second.readings with
          | none => simp [two] at handled
          | some outcome =>
              obtain ⟨next, secondEvents⟩ := outcome
              simp only [two] at handled
              obtain ⟨other, swapped, secondShown, firstShown,
                  secondFirst, firstSecond, same⟩ :=
                handle_swap apart one two
              simp only [secondFirst, firstSecond]
              exact same.handleAll handled
  | cons delivery rest inductionHypothesis =>
      simp only [List.cons_append, handleAll?] at handled ⊢
      cases step :
          supervisor.handle? delivery.message delivery.readings with
      | none => simp [step] at handled
      | some outcome =>
          simp only [step] at handled ⊢
          exact inductionHypothesis handled

/-- A run of the machine handles its messages one after the other. -/
theorem handleAll_of_run
    {state after : Supervised}
    {deliveries : List Delivery}
    {log : List SupervisorEvent}
    (executed : machine.run? state deliveries = some (after, log)) :
    handleAll? state.supervisor deliveries = some after.supervisor := by
  induction deliveries generalizing state log with
  | nil =>
      simp only [Machine.run?, Option.some.injEq,
        Prod.mk.injEq] at executed
      obtain ⟨rfl, rfl⟩ := executed
      rfl
  | cons delivery rest inductionHypothesis =>
      unfold Machine.run? at executed
      cases step : machine.step? state delivery with
      | none => simp [step] at executed
      | some outcome =>
          obtain ⟨next, events⟩ := outcome
          simp only [step, Option.map_eq_some_iff, Prod.exists,
            Prod.mk.injEq] at executed
          obtain ⟨last, later, restExecuted, rfl, rfl⟩ := executed
          simp only [machine, Option.ite_none_right_eq_some,
            Option.map_eq_some_iff, Prod.exists, Prod.mk.injEq] at step
          obtain ⟨-, supervisor, shown, handled, rfl, rfl⟩ := step
          simp only [handleAll?, handled]
          exact inductionHypothesis restExecuted

/--
The messages of one child, alone: from states that agree on the child, the
sub-run of its messages exists and ends with the same entry.
-/
theorem run_alone
    {childId : ActorId}
    {deliveries : List Delivery}
    {state after alone : Supervised}
    {log : List SupervisorEvent}
    (executed : machine.run? state deliveries = some (after, log))
    (behind : alone.now ≤ state.now)
    (sameStrategy : state.supervisor.strategy = alone.supervisor.strategy)
    (sameEntry :
      state.supervisor.children.lookup childId =
        alone.supervisor.children.lookup childId) :
    ∃ aloneAfter aloneLog,
      machine.run? alone (deliveries.filter (names childId)) =
          some (aloneAfter, aloneLog) ∧
        aloneAfter.supervisor.children.lookup childId =
          after.supervisor.children.lookup childId := by
  induction deliveries generalizing state alone log with
  | nil =>
      simp only [Machine.run?, Option.some.injEq,
        Prod.mk.injEq] at executed
      obtain ⟨rfl, rfl⟩ := executed
      exact ⟨alone, [], rfl, sameEntry.symm⟩
  | cons delivery rest inductionHypothesis =>
      unfold Machine.run? at executed
      cases step : machine.step? state delivery with
      | none => simp [step] at executed
      | some outcome =>
          obtain ⟨next, events⟩ := outcome
          simp only [step, Option.map_eq_some_iff, Prod.exists,
            Prod.mk.injEq] at executed
          obtain ⟨last, later, restExecuted, rfl, rfl⟩ := executed
          simp only [machine, Option.ite_none_right_eq_some,
            Option.map_eq_some_iff, Prod.exists, Prod.mk.injEq] at step
          obtain ⟨forward, supervisor, shown, handled, rfl, rfl⟩ := step
          obtain ⟨keptStrategy, frame⟩ := handle_frame handled
          have ordered := delivery.readings.ordered
          by_cases about : named delivery.message = some childId
          · have kept : names childId delivery = true := by
              simp [names, about]
            obtain ⟨aloneNext, aloneShown, aloneHandled, strategies,
                entries⟩ :=
              handle_alike (⟨sameStrategy, fun other same => by
                obtain rfl : childId = other := by simpa [about] using same
                exact sameEntry⟩ :
                AlikeFor delivery.message state.supervisor
                  alone.supervisor) handled
            obtain ⟨aloneAfter, aloneLog, aloneRun, ends⟩ :
                ∃ aloneAfter aloneLog,
                  machine.run? ⟨aloneNext, delivery.readings.second⟩
                      (rest.filter (names childId)) =
                      some (aloneAfter, aloneLog) ∧
                    aloneAfter.supervisor.children.lookup childId =
                      last.supervisor.children.lookup childId :=
              inductionHypothesis restExecuted (Nat.le_refl _) strategies
                (entries childId about)
            have aloneStep :
                machine.step? alone delivery =
                  some (⟨aloneNext, delivery.readings.second⟩,
                    aloneShown) := by
              simp [machine, behind.trans forward, aloneHandled]
            refine ⟨aloneAfter, aloneShown ++ aloneLog, ?_, ends⟩
            rw [List.filter_cons_of_pos kept]
            simp [Machine.run?, aloneStep, aloneRun]
          · have dropped : ¬ names childId delivery = true := by
              simp [names, about]
            rw [List.filter_cons_of_neg dropped]
            exact inductionHypothesis restExecuted
              (behind.trans (forward.trans ordered))
              (keptStrategy.trans sameStrategy)
              ((frame childId about).trans sameEntry)

/-- A message that asks, or tells of the crash of an unknown child. -/
def IsIdle
    (supervisor : SupervisorActor)
    (message : SupervisorMessage) : Prop :=
  message = .getStatus ∨
    ∃ childId reason,
      message = .childCrashed childId reason ∧
        supervisor.children.lookup childId = none

/--
In every run, the entry of each child is that of its own messages alone, idle
messages change nothing, and neighbours that name different children can be
swapped.
-/
theorem siblings_isolated
    {strategy : RestartStrategy}
    {now : Nat}
    {deliveries : List Delivery}
    {state : Supervised}
    {log : List SupervisorEvent}
    (executed :
      machine.run? (new strategy now) deliveries = some (state, log)) :
    (∀ childId, ∃ alone aloneLog,
      machine.run? (new strategy now) (deliveries.filter (names childId)) =
          some (alone, aloneLog) ∧
        alone.supervisor.children.lookup childId =
          state.supervisor.children.lookup childId) ∧
      (∀ message readings after events,
        state.supervisor.handle? message readings = some (after, events) →
        IsIdle state.supervisor message →
        after = state.supervisor) ∧
      ∀ front first second back,
        deliveries = front ++ first :: second :: back →
        NamesApart first second →
        ∃ swapped,
          handleAll? (SupervisorActor.new strategy)
              (front ++ second :: first :: back) = some swapped ∧
            SameChildren state.supervisor swapped := by
  refine ⟨fun childId => run_alone executed (Nat.le_refl now) rfl rfl,
    fun message readings after events handled idle => ?_,
    fun front first second back shape apart => ?_⟩
  · cases SupervisorActor.handles_of_handle? handled with
    | ignored childId reason unregistered => rfl
    | replied => rfl
    | started childId name => simp [IsIdle] at idle
    | granted childId reason entry delay registered
    | deferred childId reason entry delay registered
    | gaveUp childId reason entry delay registered =>
        simp [IsIdle, registered] at idle
  · subst shape
    exact handleAll_swap apart (handleAll_of_run executed)

/-- Two children, their messages mixed, and a question in between. -/
def mixedChildren : List Delivery :=
  [delivery (.childStarted ⟨7⟩ "first") 0,
    delivery (.childStarted ⟨8⟩ "second") 1,
    delivery (.childCrashed ⟨7⟩ "panic") 10,
    delivery .getStatus 11,
    delivery (.childCrashed ⟨8⟩ "panic") 12,
    delivery (.childCrashed ⟨7⟩ "panic") 13]

theorem siblings_isolated_mixed :
    ∃ state log alone aloneLog,
      machine.run? (new (.oneForOne 1 100 0) 0) mixedChildren =
          some (state, log) ∧
        state.supervisor.children.lookup ⟨8⟩ =
          some ⟨"second", 1, true, some 12⟩ ∧
        machine.run? (new (.oneForOne 1 100 0) 0)
            (mixedChildren.filter (names ⟨8⟩)) = some (alone, aloneLog) ∧
        alone.supervisor.children.lookup ⟨8⟩ =
          state.supervisor.children.lookup ⟨8⟩ := by
  obtain ⟨state, log, executed, entry⟩ :
      ∃ state log,
        machine.run? (new (.oneForOne 1 100 0) 0) mixedChildren =
            some (state, log) ∧
          state.supervisor.children.lookup ⟨8⟩ =
            some ⟨"second", 1, true, some 12⟩ :=
    ⟨_, _, rfl, rfl⟩
  obtain ⟨alone, aloneLog, aloneRun, same⟩ :=
    (siblings_isolated executed).1 ⟨8⟩
  exact ⟨state, log, alone, aloneLog, executed, entry, aloneRun, same⟩

end Runact.Supervised
