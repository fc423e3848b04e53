import Runact.SupervisorActor
import Runact.SlidingWindow

namespace Runact.Supervised

open SlidingWindow

/-!
# The restart budget

A child's counter counts its crashes since its last `ChildStarted`: granted,
deferred and given up ones alike, however long ago.  So the counter bounds the
restarts of any window that no `ChildStarted` resets, and it reaches the limit
by restarts of the window alone only when none was deferred and none is old.
-/

/-- The times at which restarts of a child were granted, in order. -/
def grantTimes
    (childId : ActorId)
    (log : List SupervisorEvent) : List Nat :=
  log.filterMap fun
    | .granted child time => if child = childId then some time else none
    | _ => none

/-- The crashes of a child that were deferred by the backoff. -/
def deferrals
    (childId : ActorId)
    (log : List SupervisorEvent) : Nat :=
  log.countP fun
    | .deferred child _ => decide (child = childId)
    | _ => false

/-- The crashes of a child on which the supervisor gave up. -/
def refusals
    (childId : ActorId)
    (log : List SupervisorEvent) : Nat :=
  log.countP fun
    | .gaveUp child _ => decide (child = childId)
    | _ => false

/-- The event is a `ChildStarted` of the child. -/
def starts (childId : ActorId) : SupervisorEvent → Bool
  | .started child _ => decide (child = childId)
  | _ => false

/-- The part of a log after the last `ChildStarted` of a child. -/
def sinceStarted
    (childId : ActorId)
    (log : List SupervisorEvent) : List SupervisorEvent :=
  log.foldl
    (fun current event =>
      if starts childId event then [] else current ++ [event]) []

@[simp] theorem sinceStarted_nil (childId : ActorId) :
    sinceStarted childId [] = [] :=
  rfl

@[simp] theorem sinceStarted_snoc
    (childId : ActorId)
    (log : List SupervisorEvent)
    (event : SupervisorEvent) :
    sinceStarted childId (log ++ [event]) =
      if starts childId event then []
      else sinceStarted childId log ++ [event] := by
  simp [sinceStarted]

@[simp] theorem grantTimes_append
    (childId : ActorId)
    (log later : List SupervisorEvent) :
    grantTimes childId (log ++ later) =
      grantTimes childId log ++ grantTimes childId later :=
  List.filterMap_append

@[simp] theorem deferrals_append
    (childId : ActorId)
    (log later : List SupervisorEvent) :
    deferrals childId (log ++ later) =
      deferrals childId log + deferrals childId later :=
  List.countP_append

@[simp] theorem refusals_append
    (childId : ActorId)
    (log later : List SupervisorEvent) :
    refusals childId (log ++ later) =
      refusals childId log + refusals childId later :=
  List.countP_append

/-- What a log says about a child since its last `ChildStarted`. -/
structure Ledger
    (childId : ActorId)
    (log : List SupervisorEvent)
    (state : Supervised) : Prop where
  /-- A child that was never started was never restarted. -/
  unknown :
    state.supervisor.children.lookup childId = none →
      grantTimes childId log = []
  counted :
    ∀ {entry},
      state.supervisor.children.lookup childId = some entry →
      entry.restartCount =
        (grantTimes childId (sinceStarted childId log)).length +
          deferrals childId (sinceStarted childId log) +
          refusals childId (sinceStarted childId log)
  spent :
    (grantTimes childId (sinceStarted childId log)).length +
      deferrals childId (sinceStarted childId log) ≤
        state.supervisor.maxRestarts
  exhausted :
    0 < refusals childId (sinceStarted childId log) →
      state.supervisor.maxRestarts ≤
        (grantTimes childId (sinceStarted childId log)).length +
          deferrals childId (sinceStarted childId log)
  /-- The entry remembers a time not before any counted restart. -/
  stamped :
    ∀ {entry},
      state.supervisor.children.lookup childId = some entry →
      ∀ time ∈ grantTimes childId (sinceStarted childId log),
        ∃ last, entry.lastRestartAt = some last ∧ time ≤ last
  clocked :
    ∀ {entry last},
      state.supervisor.children.lookup childId = some entry →
      entry.lastRestartAt = some last →
      last ≤ state.now ∧ last ∈ grantTimes childId log

theorem ledger_new
    (strategy : RestartStrategy)
    (now : Nat)
    (childId : ActorId) :
    Ledger childId [] (new strategy now) where
  unknown := fun _ => rfl
  counted := by
    intro entry registered
    simp [new, SupervisorActor.new] at registered
  spent := Nat.zero_le _
  exhausted := by simp [refusals]
  stamped := by simp [grantTimes]
  clocked := by
    intro entry last registered
    simp [new, SupervisorActor.new] at registered

/-- The strategy of a supervisor never changes. -/
theorem step_strategy
    {state after : Supervised}
    {delivery : Delivery}
    {events : List SupervisorEvent}
    (step : machine.step? state delivery = some (after, events)) :
    after.supervisor.strategy = state.supervisor.strategy := by
  obtain ⟨message, readings⟩ := delivery
  obtain ⟨supervisor, now⟩ := after
  obtain ⟨-, -, handles⟩ := step_cases step
  cases handles <;> rfl

@[simp] theorem lookup_setEntry_self
    (supervisor : SupervisorActor)
    (childId : ActorId)
    (entry : ChildEntry) :
    (supervisor.setEntry childId entry).children.lookup childId =
      some entry := by
  simp [SupervisorActor.setEntry]

theorem lookup_setEntry_of_ne
    (supervisor : SupervisorActor)
    {childId other : ActorId}
    (entry : ChildEntry)
    (different : childId ≠ other) :
    (supervisor.setEntry other entry).children.lookup childId =
      supervisor.children.lookup childId := by
  simp [SupervisorActor.setEntry, AList.lookup_insert_ne different]

/-- An event says nothing about the counted crashes of a child. -/
structure Silent
    (childId : ActorId)
    (event : SupervisorEvent) : Prop where
  notStarted : starts childId event = false
  noGrant : grantTimes childId [event] = []
  noDeferral : deferrals childId [event] = 0
  noRefusal : refusals childId [event] = 0

/-- A step that leaves the entry alone and says nothing keeps the ledger. -/
theorem Ledger.silent
    {childId : ActorId}
    {log : List SupervisorEvent}
    {state after : Supervised}
    {event : SupervisorEvent}
    (ledger : Ledger childId log state)
    (silent : Silent childId event)
    (forward : state.now ≤ after.now)
    (sameStrategy : after.supervisor.strategy = state.supervisor.strategy)
    (sameEntry :
      after.supervisor.children.lookup childId =
        state.supervisor.children.lookup childId) :
    Ledger childId (log ++ [event]) after := by
  have sameLimit :
      after.supervisor.maxRestarts = state.supervisor.maxRestarts := by
    simp [SupervisorActor.maxRestarts, sameStrategy]
  refine {
    unknown := ?_
    counted := ?_
    spent := ?_
    exhausted := ?_
    stamped := ?_
    clocked := ?_
  }
  · rw [sameEntry, grantTimes_append, silent.noGrant, List.append_nil]
    exact ledger.unknown
  · intro entry registered
    rw [sameEntry] at registered
    simp [silent.notStarted, silent.noGrant, silent.noDeferral,
      silent.noRefusal, ledger.counted registered]
  · simpa [silent.notStarted, silent.noGrant, silent.noDeferral, sameLimit]
      using ledger.spent
  · simpa [silent.notStarted, silent.noGrant, silent.noDeferral,
      silent.noRefusal, sameLimit] using ledger.exhausted
  · intro entry registered
    rw [sameEntry] at registered
    simpa [silent.notStarted, silent.noGrant] using ledger.stamped registered
  · intro entry last registered stamped
    rw [sameEntry] at registered
    obtain ⟨past, recorded⟩ := ledger.clocked registered stamped
    exact ⟨past.trans forward,
      by simp [silent.noGrant, recorded]⟩

/-- An event about another child. -/
theorem silent_of_ne
    {childId other : ActorId}
    (different : childId ≠ other)
    (time : Nat) :
    Silent childId (.started other time) ∧
      Silent childId (.granted other time) ∧
      Silent childId (.deferred other time) ∧
      Silent childId (.gaveUp other time) := by
  have notSame : other ≠ childId := different.symm
  refine ⟨?_, ?_, ?_, ?_⟩ <;>
    constructor <;>
    simp [starts, grantTimes, deferrals, refusals, notSame]

/--
A crash of a registered child is counted, as a restart, a deferral or a refusal,
and only a refusal is counted beyond the limit.
-/
theorem Ledger.crash
    {childId : ActorId}
    {log : List SupervisorEvent}
    {state after : Supervised}
    {event : SupervisorEvent}
    {entry changed : ChildEntry}
    (ledger : Ledger childId log state)
    (registered :
      state.supervisor.children.lookup childId = some entry)
    (stored : after.supervisor.children.lookup childId = some changed)
    (sameLimit :
      after.supervisor.maxRestarts = state.supervisor.maxRestarts)
    (notStarted : starts childId event = false)
    (next : changed.restartCount = entry.restartCount + 1)
    (once :
      (grantTimes childId [event]).length + deferrals childId [event] +
        refusals childId [event] = 1)
    (limit :
      entry.restartCount + 1 ≤ state.supervisor.maxRestarts ↔
        refusals childId [event] = 0)
    (keptStamp :
      ∀ last, entry.lastRestartAt = some last →
        ∃ newer, changed.lastRestartAt = some newer ∧ last ≤ newer)
    (newStamp :
      ∀ time ∈ grantTimes childId [event],
        changed.lastRestartAt = some time)
    (stampPast :
      ∀ last, changed.lastRestartAt = some last →
        last ≤ after.now ∧
          last ∈ grantTimes childId log ++ grantTimes childId [event]) :
    Ledger childId (log ++ [event]) after := by
  have counted := ledger.counted registered
  have spent := ledger.spent
  have exhausted := ledger.exhausted
  refine {
    unknown := by simp [stored]
    counted := ?_
    spent := ?_
    exhausted := ?_
    stamped := ?_
    clocked := ?_
  }
  · intro found shape
    obtain rfl : changed = found := by simpa [stored] using shape
    simp [notStarted]
    omega
  · simp only [sinceStarted_snoc, notStarted, Bool.false_eq_true,
      ↓reduceIte, grantTimes_append, deferrals_append, List.length_append,
      sameLimit]
    by_cases below : entry.restartCount + 1 ≤ state.supervisor.maxRestarts
    · have unrefused :
          refusals childId (sinceStarted childId log) = 0 := by
        by_contra refused
        have full := exhausted (Nat.pos_of_ne_zero refused)
        omega
      omega
    · have refused := mt limit.mpr below
      omega
  · simp only [sinceStarted_snoc, notStarted, Bool.false_eq_true,
      ↓reduceIte, grantTimes_append, deferrals_append, refusals_append,
      List.length_append, sameLimit]
    by_cases below : entry.restartCount + 1 ≤ state.supervisor.maxRestarts
    · have unrefused := limit.mp below
      intro refused
      have full := exhausted (by omega)
      omega
    · intro _
      by_cases before : 0 < refusals childId (sinceStarted childId log)
      · have full := exhausted before
        omega
      · omega
  · intro found shape
    obtain rfl : changed = found := by simpa [stored] using shape
    intro time member
    simp only [sinceStarted_snoc, notStarted, Bool.false_eq_true,
      ↓reduceIte, grantTimes_append, List.mem_append] at member
    rcases member with older | newest
    · obtain ⟨last, stamped, before⟩ := ledger.stamped registered time older
      obtain ⟨newer, kept, later⟩ := keptStamp last stamped
      exact ⟨newer, kept, before.trans later⟩
    · exact ⟨time, newStamp time newest, Nat.le_refl time⟩
  · intro found last shape
    obtain rfl : changed = found := by simpa [stored] using shape
    rw [grantTimes_append]
    exact stampPast last

/-- Every step keeps the ledger of every child. -/
theorem Ledger.step
    {childId : ActorId}
    {log events : List SupervisorEvent}
    {state after : Supervised}
    {delivery : Delivery}
    (ledger : Ledger childId log state)
    (step : machine.step? state delivery = some (after, events)) :
    Ledger childId (log ++ events) after := by
  have sameStrategy := step_strategy step
  obtain ⟨message, readings⟩ := delivery
  obtain ⟨supervisor, now⟩ := after
  obtain ⟨forward, rfl, handles⟩ := step_cases step
  have later : state.now ≤ readings.second := forward.trans readings.ordered
  dsimp only at handles sameStrategy
  cases handles with
  | started child name =>
      by_cases same : childId = child
      · subst same
        refine {
          unknown := by simp
          counted := ?_
          spent := by simp [starts, grantTimes, deferrals]
          exhausted := by simp [starts, refusals]
          stamped := by simp [starts, grantTimes]
          clocked := ?_
        }
        · intro entry registered
          obtain rfl : _ = entry := by simpa using registered
          simp [starts, grantTimes, deferrals, refusals]
        · intro entry last registered stamped
          obtain rfl : _ = entry := by simpa using registered
          simp at stamped
      · exact ledger.silent (silent_of_ne same readings.second).1 later
          sameStrategy (lookup_setEntry_of_ne _ _ same)
  | ignored child reason unregistered =>
      refine ledger.silent ?_ later sameStrategy rfl
      constructor <;> simp [starts, grantTimes, deferrals, refusals]
  | granted child reason entry delay registered computed below elapsed =>
      by_cases same : childId = child
      · subst same
        refine ledger.crash registered (lookup_setEntry_self _ _ _) rfl rfl
          rfl ?_ ?_ ?_ ?_ ?_
        · simp [grantTimes, deferrals, refusals]
        · simp [refusals, below]
        · intro last stamped
          exact ⟨readings.second, rfl,
            (ledger.clocked registered stamped).1.trans later⟩
        · simp [grantTimes]
        · simp [grantTimes]
      · exact ledger.silent (silent_of_ne same readings.second).2.1 later
          sameStrategy (lookup_setEntry_of_ne _ _ same)
  | deferred child reason entry delay registered computed below pending =>
      by_cases same : childId = child
      · subst same
        refine ledger.crash registered (lookup_setEntry_self _ _ _) rfl rfl
          rfl ?_ ?_ ?_ ?_ ?_
        · simp [grantTimes, deferrals, refusals]
        · simp [refusals, below]
        · exact fun last stamped => ⟨last, stamped, Nat.le_refl last⟩
        · simp [grantTimes]
        · intro last stamped
          obtain ⟨past, recorded⟩ := ledger.clocked registered stamped
          exact ⟨past.trans later, List.mem_append_left _ recorded⟩
      · exact ledger.silent (silent_of_ne same readings.first).2.2.1 later
          sameStrategy (lookup_setEntry_of_ne _ _ same)
  | gaveUp child reason entry delay registered computed above =>
      by_cases same : childId = child
      · subst same
        refine ledger.crash registered (lookup_setEntry_self _ _ _) rfl rfl
          rfl ?_ ?_ ?_ ?_ ?_
        · simp [grantTimes, deferrals, refusals]
        · simp only [refusals]
          simp
          exact Nat.le_of_lt_succ above
        · exact fun last stamped => ⟨last, stamped, Nat.le_refl last⟩
        · simp [grantTimes]
        · intro last stamped
          obtain ⟨past, recorded⟩ := ledger.clocked registered stamped
          exact ⟨past.trans later, List.mem_append_left _ recorded⟩
      · exact ledger.silent (silent_of_ne same readings.first).2.2.2 later
          sameStrategy (lookup_setEntry_of_ne _ _ same)
  | replied =>
      refine ledger.silent ?_ later sameStrategy rfl
      constructor <;> simp [starts, grantTimes, deferrals, refusals]

/-- Over every run, the ledger of every child is right. -/
theorem run_ledger
    {strategy : RestartStrategy}
    {now : Nat}
    {log : List SupervisorEvent}
    {state : Supervised}
    (run : Machine.Run machine (new strategy now) log state)
    (childId : ActorId) :
    Ledger childId log state ∧ state.supervisor.strategy = strategy :=
  run.history
    (fun log state =>
      Ledger childId log state ∧ state.supervisor.strategy = strategy)
    (fun ⟨ledger, sameStrategy⟩ step =>
      ⟨ledger.step step, (step_strategy step).trans sameStrategy⟩)
    ⟨ledger_new strategy now childId, rfl⟩

/-- What one step shows of one child: one event, not before the clock. -/
theorem step_event
    {state after : Supervised}
    {delivery : Delivery}
    {events : List SupervisorEvent}
    (step : machine.step? state delivery = some (after, events))
    (childId : ActorId) :
    ∃ event,
      events = [event] ∧
        (∀ time ∈ grantTimes childId [event], state.now ≤ time) ∧
        (starts childId event = true →
          ∃ name, delivery.message = .childStarted childId name) := by
  obtain ⟨message, readings⟩ := delivery
  obtain ⟨supervisor, now⟩ := after
  obtain ⟨forward, rfl, handles⟩ := step_cases step
  have later : state.now ≤ readings.second := forward.trans readings.ordered
  cases handles with
  | started child name =>
      refine ⟨_, rfl, by simp [grantTimes], fun same => ⟨name, ?_⟩⟩
      obtain rfl : child = childId := by simpa [starts] using same
      rfl
  | granted child reason entry delay registered computed below elapsed =>
      refine ⟨_, rfl, fun time member => ?_, by simp [starts]⟩
      have stamped : time = readings.second := by
        simp only [grantTimes, List.mem_filterMap, List.mem_singleton]
          at member
        obtain ⟨event, rfl, same⟩ := member
        grind
      omega
  | _ =>
      exact ⟨_, rfl, by simp [grantTimes], by simp [starts]⟩

/--
A `ChildStarted` comes only once the last restart of the child, if there was one
since the last `ChildStarted`, has left the window.
-/
def startsLate
    (state : Supervised)
    (delivery : Delivery) : Bool :=
  match delivery.message with
  | .childStarted childId _ =>
      match state.supervisor.children.lookup childId with
      | none => true
      | some entry =>
          match entry.lastRestartAt with
          | none => true
          | some last =>
              decide (last + state.supervisor.strategy.within <
                delivery.readings.second)
  | _ => true

/-- The restarts before the last `ChildStarted` are in bounds, and further back
than the window is wide. -/
def Bounded
    (childId : ActorId)
    (log : List SupervisorEvent)
    (state : Supervised) : Prop :=
  ∃ older,
    grantTimes childId log =
        older ++ grantTimes childId (sinceStarted childId log) ∧
      (∀ start,
        countIn start (start + state.supervisor.strategy.within) older ≤
          state.supervisor.maxRestarts) ∧
      (∀ time ∈ older,
        time + state.supervisor.strategy.within < state.now) ∧
      ∀ first ∈ older,
        ∀ second ∈ grantTimes childId (sinceStarted childId log),
          first + state.supervisor.strategy.within < second

/-- In bounds before and since the last `ChildStarted` is in bounds. -/
theorem Bounded.restarts_le
    {childId : ActorId}
    {log : List SupervisorEvent}
    {state : Supervised}
    (bounded : Bounded childId log state)
    (ledger : Ledger childId log state)
    (start : Nat) :
    countIn start (start + state.supervisor.strategy.within)
        (grantTimes childId log) ≤
      state.supervisor.maxRestarts := by
  obtain ⟨older, split, olderBound, -, apart⟩ := bounded
  rw [split]
  refine countIn_append_le apart start (olderBound start) ?_
  calc countIn start (start + state.supervisor.strategy.within)
        (grantTimes childId (sinceStarted childId log))
      ≤ (grantTimes childId (sinceStarted childId log)).length :=
        countIn_le_length _ _ _
    _ ≤ state.supervisor.maxRestarts :=
        (Nat.le_add_right _ _).trans ledger.spent

/-- Steps that start no child too early keep the bound. -/
theorem Bounded.step
    {childId : ActorId}
    {log events : List SupervisorEvent}
    {state after : Supervised}
    {delivery : Delivery}
    (bounded : Bounded childId log state)
    (ledger : Ledger childId log state)
    (late : startsLate state delivery = true)
    (step : machine.step? state delivery = some (after, events)) :
    Bounded childId (log ++ events) after := by
  have sameStrategy := step_strategy step
  have sameLimit :
      after.supervisor.maxRestarts = state.supervisor.maxRestarts := by
    simp [SupervisorActor.maxRestarts, sameStrategy]
  have forward : state.now ≤ after.now := by
    obtain ⟨before, same, -⟩ := step_cases step
    exact same ▸ before.trans delivery.readings.ordered
  obtain ⟨event, rfl, notBefore, started⟩ := step_event step childId
  have kept := bounded
  obtain ⟨older, split, olderBound, past, apart⟩ := bounded
  by_cases isStart : starts childId event = true
  · obtain ⟨name, message⟩ := started isStart
    have noGrant : grantTimes childId [event] = [] := by
      cases event <;> simp_all [starts, grantTimes]
    refine ⟨grantTimes childId log, ?_, ?_, ?_, ?_⟩
    · rw [grantTimes_append, noGrant, sinceStarted_snoc, if_pos isStart]
      rfl
    · rw [sameStrategy, sameLimit]
      exact kept.restarts_le ledger
    · rw [sameStrategy, split]
      intro time member
      rcases List.mem_append.mp member with before | current
      · exact (past time before).trans_le forward
      · cases registered :
            state.supervisor.children.lookup childId with
        | none =>
            have never := ledger.unknown registered
            rw [split, List.append_eq_nil_iff] at never
            rw [never.2] at current
            simp at current
        | some entry =>
            obtain ⟨last, stamped, before⟩ :=
              ledger.stamped registered time current
            have expired :
                last + state.supervisor.strategy.within <
                  delivery.readings.second := by
              simpa [startsLate, message, registered, stamped] using late
            obtain ⟨-, same, -⟩ := step_cases step
            omega
    · simp [isStart, grantTimes]
  · have notStart : starts childId event = false := by simpa using isStart
    refine ⟨older, ?_, ?_, ?_, ?_⟩
    · simp [notStart, split]
    · rw [sameStrategy, sameLimit]
      exact olderBound
    · rw [sameStrategy]
      exact fun time member => (past time member).trans_le forward
    · rw [sameStrategy, sinceStarted_snoc, notStart]
      intro first firstMember second secondMember
      simp only [Bool.false_eq_true, ↓reduceIte, grantTimes_append,
        List.mem_append] at secondMember
      rcases secondMember with before | newest
      · exact apart first firstMember second before
      · exact (past first firstMember).trans_le (notBefore second newest)

/--
In every run in which no `ChildStarted` comes within the window after a restart
of its child, no window holds more restarts of a child than the strategy allows.
-/
theorem restarts_bounded
    {strategy : RestartStrategy}
    {now : Nat}
    {log : List SupervisorEvent}
    {state : Supervised}
    (run :
      Machine.Run (machine.restrict startsLate) (new strategy now) log state)
    (childId : ActorId)
    (start : Nat) :
    countIn start (start + strategy.within) (grantTimes childId log) ≤
      strategy.maxRestarts := by
  obtain ⟨bounded, ledger, same⟩ :
      Bounded childId log state ∧ Ledger childId log state ∧
        state.supervisor.strategy = strategy :=
    run.history
      (fun log state =>
        Bounded childId log state ∧ Ledger childId log state ∧
          state.supervisor.strategy = strategy)
      (fun {log before label after events} ⟨bounded, ledger, same⟩ taken => by
        obtain ⟨late, step⟩ := Machine.restrict_step_iff.mp taken
        exact ⟨bounded.step ledger late step, ledger.step step,
          (step_strategy step).trans same⟩)
      ⟨⟨[], by simp [grantTimes], by simp, by simp, by simp⟩,
        ledger_new strategy now childId, rfl⟩
  have bound := bounded.restarts_le ledger start
  rwa [SupervisorActor.maxRestarts, same] at bound

/-- A message handled at one instant. -/
def delivery (message : SupervisorMessage) (time : Nat) : Delivery where
  message := message
  readings := ⟨time, time, Nat.le_refl time⟩

/-- The child crashes twice, is started again when both restarts have left the
window, and crashes once more. -/
def calmRestart : List Delivery :=
  [delivery (.childStarted ⟨7⟩ "worker") 0,
    delivery (.childCrashed ⟨7⟩ "panic") 10,
    delivery (.childCrashed ⟨7⟩ "panic") 20,
    delivery (.childStarted ⟨7⟩ "worker") 200,
    delivery (.childCrashed ⟨7⟩ "panic") 210]

theorem restarts_bounded_calmRestart :
    ∃ log state,
      (machine.restrict startsLate).run? (new (.oneForOne 2 100 0) 0)
          calmRestart = some (state, log) ∧
        grantTimes ⟨7⟩ log = [10, 20, 210] ∧
        countIn 10 110 (grantTimes ⟨7⟩ log) ≤ 2 := by
  obtain ⟨log, state, executed, granted⟩ :
      ∃ log state,
        (machine.restrict startsLate).run? (new (.oneForOne 2 100 0) 0)
            calmRestart = some (state, log) ∧
          grantTimes ⟨7⟩ log = [10, 20, 210] :=
    ⟨_, _, rfl, rfl⟩
  exact ⟨log, state, executed, granted,
    restarts_bounded (Machine.run?_sound _ executed) ⟨7⟩ 10⟩

/-- A second `ChildStarted` between two crashes resets the counter. -/
def restartedInWindow : List Delivery :=
  [delivery (.childStarted ⟨7⟩ "worker") 0,
    delivery (.childCrashed ⟨7⟩ "panic") 10,
    delivery (.childStarted ⟨7⟩ "worker") 20,
    delivery (.childCrashed ⟨7⟩ "panic") 30]

/-- One restart is allowed in a hundred nanoseconds, and two are granted. -/
theorem restarts_not_bounded :
    ∃ log state,
      machine.run? (new (.oneForOne 1 100 0) 0) restartedInWindow =
          some (state, log) ∧
        ¬ countIn 10 110 (grantTimes ⟨7⟩ log) ≤ 1 :=
  ⟨_, _, rfl, by decide⟩

theorem grantTimes_replicate
    (childId : ActorId)
    (count time : Nat) :
    grantTimes childId (List.replicate count (.granted childId time)) =
      List.replicate count time := by
  induction count with
  | zero =>
      rfl
  | succ count inductionHypothesis =>
      simp [grantTimes, List.replicate_succ]

/-- Without a backoff, all restarts a child has left can be granted at once. -/
theorem crashes_granted
    {state : Supervised}
    {childId : ActorId}
    {entry : ChildEntry}
    (registered :
      state.supervisor.children.lookup childId = some entry)
    (noBackoff : state.supervisor.baseBackoff = 0)
    (usize : state.supervisor.maxRestarts < 2 ^ 64)
    (crashes : Nat)
    (left : entry.restartCount + crashes ≤ state.supervisor.maxRestarts) :
    ∃ later,
      Machine.Run machine state
        (List.replicate crashes (.granted childId state.now)) later := by
  induction crashes generalizing state entry with
  | zero =>
      exact ⟨state, .nil⟩
  | succ crashes inductionHypothesis =>
      have increment :
          incrementUsize entry.restartCount =
            some (entry.restartCount + 1) := by
        simp only [incrementUsize, Option.ite_none_right_eq_some, and_true]
        omega
      have noDelay
          (count : Nat) :
          state.supervisor.backoffDelay? count = some 0 := by
        simp [SupervisorActor.backoffDelay?, noBackoff, mulDuration]
      have elapsed :
          SupervisorActor.backoffPending entry.lastRestartAt state.now 0 =
            false := by
        cases stamp : entry.lastRestartAt <;>
          simp [SupervisorActor.backoffPending]
      have below :
          entry.restartCount + 1 ≤ state.supervisor.maxRestarts := by
        omega
      have step :
          machine.step? state
              { message := .childCrashed childId ""
                readings := ⟨state.now, state.now, Nat.le_refl _⟩ } =
            some
              (⟨state.supervisor.setEntry childId
                  { entry with
                    restartCount := entry.restartCount + 1
                    alive := true
                    lastRestartAt := some state.now }, state.now⟩,
                [.granted childId state.now]) := by
        simp [machine, SupervisorActor.handle?, registered, increment,
          noDelay, SupervisorActor.crashed, below, elapsed]
      obtain ⟨later, run⟩ :
          ∃ later,
            Machine.Run machine
              ⟨state.supervisor.setEntry childId
                { entry with
                  restartCount := entry.restartCount + 1
                  alive := true
                  lastRestartAt := some state.now }, state.now⟩
              (List.replicate crashes (.granted childId state.now)) later :=
        inductionHypothesis (lookup_setEntry_self _ _ _) noBackoff usize
          (by simp only [SupervisorActor.maxRestarts,
            SupervisorActor.setEntry] at left ⊢; omega)
      exact ⟨later, run.cons _ step⟩

/--
Without a backoff the condition is sharp: a `ChildStarted` within the window
after a restart can be followed by one restart too many.
-/
theorem reset_breaks_bound
    {strategy : RestartStrategy}
    {now : Nat}
    {log events : List SupervisorEvent}
    {state after : Supervised}
    {readings : Readings}
    {childId : ActorId}
    {name : String}
    {entry : ChildEntry}
    {last : Nat}
    (run : Machine.Run machine (new strategy now) log state)
    (noBackoff : strategy.baseBackoff = 0)
    (usize : strategy.maxRestarts < 2 ^ 64)
    (registered :
      state.supervisor.children.lookup childId = some entry)
    (stamped : entry.lastRestartAt = some last)
    (early : readings.second ≤ last + strategy.within)
    (step :
      machine.step? state
          { message := .childStarted childId name, readings := readings } =
        some (after, events)) :
    ∃ continuation later,
      Machine.Run machine after continuation later ∧
        strategy.maxRestarts <
          countIn last (last + strategy.within)
            (grantTimes childId (log ++ events ++ continuation)) := by
  obtain ⟨ledger, rfl⟩ := run_ledger run childId
  obtain ⟨past, recorded⟩ := ledger.clocked registered stamped
  obtain ⟨supervisor, clock⟩ := after
  obtain ⟨forward, rfl, handles⟩ := step_cases step
  have inside : last ≤ readings.second :=
    past.trans (forward.trans readings.ordered)
  cases handles with
  | started =>
      obtain ⟨later, crashes⟩ :
          ∃ later,
            Machine.Run machine
              ⟨state.supervisor.setEntry childId
                { name := name
                  restartCount := 0
                  alive := true
                  lastRestartAt := none }, readings.second⟩
              (List.replicate state.supervisor.maxRestarts
                (.granted childId readings.second)) later := by
        refine crashes_granted (lookup_setEntry_self _ _ _) ?_ ?_ _ ?_
        · exact noBackoff
        · exact usize
        · simp [SupervisorActor.maxRestarts, SupervisorActor.setEntry]
      refine ⟨_, later, crashes, ?_⟩
      have started :
          grantTimes childId [.started childId readings.second] = [] := rfl
      have one :
          0 < countIn last (last + state.supervisor.strategy.within)
            (grantTimes childId log) :=
        List.countP_pos_iff.mpr ⟨last, recorded, by simp [inWindow]⟩
      rw [grantTimes_append, grantTimes_append, started, List.append_nil,
        grantTimes_replicate, countIn_append, countIn_replicate]
      simp only [inWindow, inside, early, and_self, decide_true, ↓reduceIte]
      exact Nat.lt_add_of_pos_left one

/-- The part since the last `ChildStarted` ends the log. -/
theorem sinceStarted_suffix
    (childId : ActorId)
    (log : List SupervisorEvent) :
    sinceStarted childId log <:+ log := by
  induction log using List.reverseRecOn with
  | nil =>
      exact List.suffix_rfl
  | append_singleton log event inductionHypothesis =>
      obtain ⟨before, split⟩ := inductionHypothesis
      rw [sinceStarted_snoc]
      split
      · exact List.nil_suffix
      · exact ⟨before, by rw [← List.append_assoc, split]⟩

/-- The restarts of a child granted at most `within` before a time. -/
def restartsBefore
    (childId : ActorId)
    (time within : Nat)
    (log : List SupervisorEvent) : Nat :=
  countIn (time - within) time (grantTimes childId log)

/-- Since the last `ChildStarted` of the child no crash was deferred, and no
restart was granted more than `within` before the time. -/
structure OnlyRecentRestarts
    (childId : ActorId)
    (time within : Nat)
    (log : List SupervisorEvent) : Prop where
  noneDeferred : deferrals childId (sinceStarted childId log) = 0
  recent :
    ∀ granted ∈ grantTimes childId (sinceStarted childId log),
      time ≤ granted + within

/--
Giving up on a child is earned by restarts in the window if no crash since its
last `ChildStarted` was deferred and no restart since then is older; and only
then do the restarts since then earn it.
-/
theorem gaveUp_earned
    {strategy : RestartStrategy}
    {now time : Nat}
    {log : List SupervisorEvent}
    {state after : Supervised}
    {delivery : Delivery}
    {childId : ActorId}
    (run : Machine.Run machine (new strategy now) log state)
    (crash :
      machine.step? state delivery = some (after, [.gaveUp childId time])) :
    (OnlyRecentRestarts childId time strategy.within log →
        strategy.maxRestarts ≤
          restartsBefore childId time strategy.within log) ∧
      (strategy.maxRestarts ≤
          restartsBefore childId time strategy.within
            (sinceStarted childId log) →
        OnlyRecentRestarts childId time strategy.within log) := by
  obtain ⟨ledger, rfl⟩ := run_ledger run childId
  have spent := ledger.spent
  have exhausted := ledger.exhausted
  obtain ⟨message, readings⟩ := delivery
  obtain ⟨supervisor, clock⟩ := after
  obtain ⟨forward, rfl, handles⟩ := step_cases crash
  dsimp only at handles
  cases handles with
  | gaveUp _ reason entry delay registered computed above =>
      have counted := ledger.counted registered
      have limit :
          (grantTimes childId (sinceStarted childId log)).length +
              deferrals childId (sinceStarted childId log) =
            state.supervisor.strategy.maxRestarts := by
        change _ = state.supervisor.maxRestarts
        by_cases before : 0 < refusals childId (sinceStarted childId log)
        · have full := exhausted before
          omega
        · omega
      have past
          (granted : Nat)
          (member : granted ∈ grantTimes childId (sinceStarted childId log)) :
          granted ≤ readings.first := by
        obtain ⟨last, stamped, before⟩ :=
          ledger.stamped registered granted member
        exact before.trans ((ledger.clocked registered stamped).1.trans forward)
      constructor
      · rintro ⟨noneDeferred, recent⟩
        have everything :
            restartsBefore childId readings.first
                state.supervisor.strategy.within (sinceStarted childId log) =
              (grantTimes childId (sinceStarted childId log)).length := by
          refine countIn_eq_length_iff.mpr fun granted member => ?_
          have near := recent granted member
          exact ⟨by omega, past granted member⟩
        obtain ⟨before, split⟩ := sinceStarted_suffix childId log
        calc state.supervisor.strategy.maxRestarts
            = (grantTimes childId (sinceStarted childId log)).length := by
              omega
          _ = restartsBefore childId readings.first
                state.supervisor.strategy.within
                (sinceStarted childId log) := everything.symm
          _ ≤ restartsBefore childId readings.first
                state.supervisor.strategy.within log := by
              rw [restartsBefore, restartsBefore, ← split,
                grantTimes_append, countIn_append, split]
              exact Nat.le_add_left _ _
      · intro enough
        have atMost :
            restartsBefore childId readings.first
                state.supervisor.strategy.within (sinceStarted childId log) ≤
              (grantTimes childId (sinceStarted childId log)).length :=
          countIn_le_length _ _ _
        have everything :
            restartsBefore childId readings.first
                state.supervisor.strategy.within (sinceStarted childId log) =
              (grantTimes childId (sinceStarted childId log)).length := by
          omega
        refine ⟨by omega, fun granted member => ?_⟩
        have near := (countIn_eq_length_iff.mp everything) granted member
        omega

/-- Two restarts in the window, and a third crash. -/
def thirdCrash : List Delivery :=
  [delivery (.childStarted ⟨7⟩ "worker") 0,
    delivery (.childCrashed ⟨7⟩ "panic") 10,
    delivery (.childCrashed ⟨7⟩ "panic") 20]

theorem gaveUp_earned_thirdCrash :
    ∃ log state after,
      machine.run? (new (.oneForOne 2 100 0) 0) thirdCrash =
          some (state, log) ∧
        machine.step? state (delivery (.childCrashed ⟨7⟩ "panic") 30) =
          some (after, [.gaveUp ⟨7⟩ 30]) ∧
        OnlyRecentRestarts ⟨7⟩ 30 100 log ∧
        2 ≤ restartsBefore ⟨7⟩ 30 100 log := by
  obtain ⟨log, state, after, executed, crash, noneDeferred, granted⟩ :
      ∃ log state after,
        machine.run? (new (.oneForOne 2 100 0) 0) thirdCrash =
            some (state, log) ∧
          machine.step? state (delivery (.childCrashed ⟨7⟩ "panic") 30) =
            some (after, [.gaveUp ⟨7⟩ 30]) ∧
          deferrals ⟨7⟩ (sinceStarted ⟨7⟩ log) = 0 ∧
          grantTimes ⟨7⟩ (sinceStarted ⟨7⟩ log) = [10, 20] :=
    ⟨_, _, _, rfl, rfl, rfl, rfl⟩
  have recent : OnlyRecentRestarts ⟨7⟩ 30 100 log := {
    noneDeferred := noneDeferred
    recent := by simp [granted]
  }
  exact ⟨log, state, after, executed, crash, recent,
    (gaveUp_earned (Machine.run?_sound _ executed) crash).1 recent⟩

/--
The counter never decays: long after its only restart a child is given up.  And
it counts deferred crashes: a child is given up after one restart of two.
-/
theorem gaveUp_not_earned :
    (∃ log state after,
      machine.run? (new (.oneForOne 1 100 0) 0)
          [delivery (.childStarted ⟨7⟩ "worker") 0,
            delivery (.childCrashed ⟨7⟩ "panic") 10] = some (state, log) ∧
        machine.step? state (delivery (.childCrashed ⟨7⟩ "panic") 1000) =
          some (after, [.gaveUp ⟨7⟩ 1000]) ∧
        ¬ 1 ≤ restartsBefore ⟨7⟩ 1000 100 log) ∧
      ∃ log state after,
        machine.run? (new (.oneForOne 2 100 50) 0)
            [delivery (.childStarted ⟨7⟩ "worker") 0,
              delivery (.childCrashed ⟨7⟩ "panic") 10,
              delivery (.childCrashed ⟨7⟩ "panic") 20] =
            some (state, log) ∧
          machine.step? state (delivery (.childCrashed ⟨7⟩ "panic") 30) =
            some (after, [.gaveUp ⟨7⟩ 30]) ∧
          ¬ 2 ≤ restartsBefore ⟨7⟩ 30 100 log :=
  ⟨⟨_, _, _, rfl, rfl, by decide⟩, _, _, _, rfl, rfl, by decide⟩

end Runact.Supervised
