import Runact.RestartBudget

namespace Runact.Supervised

/-!
# Backoff between restarts

Every crash of a registered child raises its count, and with it the delay the
next restart has to keep; only a granted restart moves the time this delay is
measured from.  The delay is a product that is formed before it is capped, so
it can be too large to be represented; its shift is clamped and its count
truncated, so it can also be too small.
-/

/-- The crashes of a registered child, whatever was decided on them. -/
def crashes
    (childId : ActorId)
    (log : List SupervisorEvent) : Nat :=
  (grantTimes childId log).length + deferrals childId log +
    refusals childId log

/-- The last restart of a child since its last `ChildStarted`. -/
def lastGrant
    (childId : ActorId)
    (log : List SupervisorEvent) : Option Nat :=
  (grantTimes childId (sinceStarted childId log)).getLast?

/-- What the entry of a child remembers of its history. -/
structure Remembered
    (childId : ActorId)
    (log : List SupervisorEvent)
    (state : Supervised) : Prop where
  stamped :
    ∀ {entry},
      state.supervisor.children.lookup childId = some entry →
      entry.lastRestartAt = lastGrant childId log
  refused :
    0 < refusals childId (sinceStarted childId log) →
      ∃ entry,
        state.supervisor.children.lookup childId = some entry ∧
          entry.alive = false

theorem remembered_new
    (strategy : RestartStrategy)
    (now : Nat)
    (childId : ActorId) :
    Remembered childId [] (new strategy now) where
  stamped := by
    intro entry registered
    simp [new, SupervisorActor.new] at registered
  refused := by simp [refusals]

/-- A step that leaves the entry alone and says nothing of the child. -/
theorem Remembered.silent
    {childId : ActorId}
    {log : List SupervisorEvent}
    {state after : Supervised}
    {event : SupervisorEvent}
    (remembered : Remembered childId log state)
    (silent : Silent childId event)
    (sameEntry :
      after.supervisor.children.lookup childId =
        state.supervisor.children.lookup childId) :
    Remembered childId (log ++ [event]) after where
  stamped := by
    intro entry registered
    rw [sameEntry] at registered
    rw [remembered.stamped registered]
    simp [lastGrant, silent.notStarted, silent.noGrant]
  refused := by
    simpa [silent.notStarted, silent.noRefusal, sameEntry] using
      remembered.refused

/-- A crash that grants nothing leaves the child dead, and its time alone. -/
theorem Remembered.notGranted
    {childId : ActorId}
    {log : List SupervisorEvent}
    {state after : Supervised}
    {event : SupervisorEvent}
    {entry changed : ChildEntry}
    (remembered : Remembered childId log state)
    (registered :
      state.supervisor.children.lookup childId = some entry)
    (stored : after.supervisor.children.lookup childId = some changed)
    (sameStamp : changed.lastRestartAt = entry.lastRestartAt)
    (dead : changed.alive = false)
    (notStarted : starts childId event = false)
    (noGrant : grantTimes childId [event] = []) :
    Remembered childId (log ++ [event]) after where
  stamped := by
    intro found shape
    obtain rfl : changed = found := by simpa [stored] using shape
    rw [sameStamp, remembered.stamped registered]
    simp [lastGrant, notStarted, noGrant]
  refused _ := ⟨changed, stored, dead⟩

/-- Every step keeps what the entries remember. -/
theorem Remembered.step
    {childId : ActorId}
    {log events : List SupervisorEvent}
    {state after : Supervised}
    {delivery : Delivery}
    (remembered : Remembered childId log state)
    (ledger : Ledger childId log state)
    (step : machine.step? state delivery = some (after, events)) :
    Remembered childId (log ++ events) after := by
  obtain ⟨message, readings⟩ := delivery
  obtain ⟨supervisor, now⟩ := after
  obtain ⟨-, rfl, handles⟩ := step_cases step
  dsimp only at handles
  cases handles with
  | started child name =>
      by_cases same : childId = child
      · subst same
        refine { stamped := ?_, refused := by simp [starts, refusals] }
        intro entry registered
        obtain rfl : _ = entry := by simpa using registered
        simp [lastGrant, starts, grantTimes]
      · exact remembered.silent (silent_of_ne same readings.second).1
          (lookup_setEntry_of_ne _ _ same)
  | ignored child reason unregistered =>
      refine remembered.silent ?_ rfl
      constructor <;> simp [starts, grantTimes, deferrals, refusals]
  | granted child reason entry delay registered computed below elapsed =>
      by_cases same : childId = child
      · subst same
        have counted := ledger.counted registered
        have exhausted := ledger.exhausted
        refine { stamped := ?_, refused := ?_ }
        · intro found shape
          obtain rfl : _ = found := by simpa using shape
          simp [lastGrant, starts, grantTimes]
        · -- below the limit no crash has been refused
          intro refused
          have before :
              0 < refusals childId (sinceStarted childId log) := by
            simpa [starts, refusals] using refused
          have full := exhausted before
          omega
      · exact remembered.silent (silent_of_ne same readings.second).2.1
          (lookup_setEntry_of_ne _ _ same)
  | deferred child reason entry delay registered computed below pending =>
      by_cases same : childId = child
      · subst same
        exact remembered.notGranted registered
          (lookup_setEntry_self _ _ _) rfl rfl rfl rfl
      · exact remembered.silent (silent_of_ne same readings.first).2.2.1
          (lookup_setEntry_of_ne _ _ same)
  | gaveUp child reason entry delay registered computed above =>
      by_cases same : childId = child
      · subst same
        exact remembered.notGranted registered
          (lookup_setEntry_self _ _ _) rfl rfl rfl rfl
      · exact remembered.silent (silent_of_ne same readings.first).2.2.2
          (lookup_setEntry_of_ne _ _ same)
  | replied =>
      refine remembered.silent ?_ rfl
      constructor <;> simp [starts, grantTimes, deferrals, refusals]

/-- A restart is granted only to a child that was not given up, and keeps the
delay of its crash from the restart before it. -/
def GrantKeeps
    (strategy : RestartStrategy)
    (childId : ActorId)
    (earlier : List SupervisorEvent)
    (event : SupervisorEvent) : Prop :=
  ∀ second, event = .granted childId second →
    refusals childId (sinceStarted childId earlier) = 0 ∧
      ∀ first, lastGrant childId earlier = some first →
        ∃ delay,
          (SupervisorActor.new strategy).backoffDelay?
              (crashes childId (sinceStarted childId earlier) + 1) =
            some delay ∧
          first + delay ≤ second

/-- The delay depends on nothing but the strategy and the count. -/
theorem backoffDelay_of_strategy
    {supervisor : SupervisorActor}
    {strategy : RestartStrategy}
    (same : supervisor.strategy = strategy)
    (count : Nat) :
    supervisor.backoffDelay? count =
      (SupervisorActor.new strategy).backoffDelay? count := by
  simp [SupervisorActor.backoffDelay?, SupervisorActor.baseBackoff,
    SupervisorActor.new, same]

/-- Every step grants only what keeps the delay. -/
theorem grantKeeps_of_step
    {strategy : RestartStrategy}
    {childId : ActorId}
    {log : List SupervisorEvent}
    {event : SupervisorEvent}
    {state after : Supervised}
    {delivery : Delivery}
    (sameStrategy : state.supervisor.strategy = strategy)
    (remembered : Remembered childId log state)
    (ledger : Ledger childId log state)
    (step : machine.step? state delivery = some (after, [event])) :
    GrantKeeps strategy childId log event := by
  rintro second rfl
  obtain ⟨message, readings⟩ := delivery
  obtain ⟨supervisor, now⟩ := after
  obtain ⟨forward, rfl, handles⟩ := step_cases step
  dsimp only at handles
  cases handles with
  | granted _ reason entry delay registered computed below elapsed =>
      have counted := ledger.counted registered
      have exhausted := ledger.exhausted
      have unrefused :
          refusals childId (sinceStarted childId log) = 0 := by
        by_contra refused
        have full := exhausted (Nat.pos_of_ne_zero refused)
        omega
      refine ⟨unrefused, fun first granted => ⟨delay, ?_, ?_⟩⟩
      · rw [← backoffDelay_of_strategy sameStrategy, crashes, ← counted]
        exact computed
      · have stamped := (remembered.stamped registered).trans granted
        obtain ⟨past, -⟩ := ledger.clocked registered stamped
        have waited : ¬ readings.first - first < delay := by
          simpa [SupervisorActor.backoffPending, stamped] using elapsed
        have ordered := readings.ordered
        dsimp only at forward
        omega

/-- Over every run entries remember right and grants keep their delay. -/
theorem run_remembered
    {strategy : RestartStrategy}
    {now : Nat}
    {log : List SupervisorEvent}
    {state : Supervised}
    (run : Machine.Run machine (new strategy now) log state)
    (childId : ActorId) :
    Remembered childId log state ∧
      AtEach (GrantKeeps strategy childId) log := by
  suffices all :
      (Ledger childId log state ∧ state.supervisor.strategy = strategy) ∧
        Remembered childId log state ∧
        AtEach (GrantKeeps strategy childId) log from all.2
  refine run.history
    (fun log state =>
      (Ledger childId log state ∧ state.supervisor.strategy = strategy) ∧
        Remembered childId log state ∧
        AtEach (GrantKeeps strategy childId) log)
    (fun ⟨⟨ledger, same⟩, remembered, keeps⟩ step => ?_)
    ⟨⟨ledger_new strategy now childId, rfl⟩,
      remembered_new strategy now childId, .nil⟩
  obtain ⟨event, rfl, -, -⟩ := step_event step childId
  exact ⟨⟨ledger.step step, (step_strategy step).trans same⟩,
    remembered.step ledger step,
    keeps.snoc (grantKeeps_of_step same remembered ledger step)⟩

/-- Without a `ChildStarted` in between, the history goes on. -/
theorem sinceStarted_append
    {childId : ActorId}
    (log : List SupervisorEvent)
    {later : List SupervisorEvent}
    (unstarted : ∀ event ∈ later, starts childId event = false) :
    sinceStarted childId (log ++ later) =
      sinceStarted childId log ++ later := by
  induction later using List.reverseRecOn with
  | nil => simp
  | append_singleton later event inductionHypothesis =>
      have before : ∀ other ∈ later, starts childId other = false :=
        fun other member => unstarted other (List.mem_append_left _ member)
      have last := unstarted event (by simp)
      rw [← List.append_assoc, sinceStarted_snoc, last,
        inductionHypothesis before]
      simp

/-- The restarts of a child keep their distance, and giving up on it is final
until its next `ChildStarted`. -/
structure RestartsSpaced
    (strategy : RestartStrategy)
    (childId : ActorId)
    (log : List SupervisorEvent)
    (state : Supervised) : Prop where
  spaced :
    ∀ earlier first between second later,
      log =
        earlier ++ .granted childId first ::
          (between ++ .granted childId second :: later) →
      (∀ event ∈ between, starts childId event = false) →
      grantTimes childId between = [] →
      ∃ delay,
        (SupervisorActor.new strategy).backoffDelay?
            (crashes childId (sinceStarted childId
              (earlier ++ .granted childId first :: between)) + 1) =
          some delay ∧
        first + delay ≤ second
  final :
    ∀ earlier time later,
      log = earlier ++ .gaveUp childId time :: later →
      (∀ event ∈ later, starts childId event = false) →
      grantTimes childId later = [] ∧
        ∃ entry,
          state.supervisor.children.lookup childId = some entry ∧
            entry.alive = false

/--
Over every run of the supervisor, restarts are at least the backoff of the
second one's crash apart, and a child that was given up stays dead.
-/
theorem restarts_spaced
    {strategy : RestartStrategy}
    {now : Nat}
    {log : List SupervisorEvent}
    {state : Supervised}
    (run : Machine.Run machine (new strategy now) log state)
    (childId : ActorId) :
    RestartsSpaced strategy childId log state := by
  obtain ⟨remembered, keeps⟩ := run_remembered run childId
  constructor
  case spaced =>
    intro earlier first between second later shape unstarted ungranted
    have since :
        sinceStarted childId (earlier ++ .granted childId first :: between) =
          sinceStarted childId earlier ++
            .granted childId first :: between :=
      sinceStarted_append earlier (by simpa [starts] using unstarted)
    have last :
        lastGrant childId (earlier ++ .granted childId first :: between) =
          some first := by
      have one :
          grantTimes childId (.granted childId first :: between) =
            first :: grantTimes childId between := by
        simp [grantTimes]
      rw [lastGrant, since, grantTimes_append, one, ungranted]
      simp
    exact (keeps (earlier ++ .granted childId first :: between)
      (.granted childId second) later (by simp [shape]) second rfl).2
        first last
  case final =>
    rintro earlier time later rfl unstarted
    have refused
        {part : List SupervisorEvent}
        (quiet : ∀ event ∈ part, starts childId event = false) :
        0 < refusals childId
          (sinceStarted childId
            (earlier ++ .gaveUp childId time :: part)) := by
      rw [sinceStarted_append earlier (by simpa [starts] using quiet),
        refusals_append]
      have counted :
          0 < refusals childId (.gaveUp childId time :: part) := by
        simp [refusals]
      omega
    refine ⟨?_, remembered.refused (refused unstarted)⟩
    by_contra granted
    obtain ⟨second, member⟩ := List.exists_mem_of_ne_nil _ granted
    obtain ⟨event, occurs, shown⟩ := List.mem_filterMap.mp member
    obtain rfl : event = .granted childId second := by
      grind
    obtain ⟨front, back, rfl⟩ := List.append_of_mem occurs
    have none :=
      (keeps (earlier ++ .gaveUp childId time :: front)
        (.granted childId second) back (by simp) second rfl).1
    have some :=
      refused fun event member =>
        unstarted event (List.mem_append_left _ member)
    omega

/-- A restart, a crash within the backoff, a restart after it, and a crash
beyond the limit. -/
def spacedCrashes : List Delivery :=
  [delivery (.childStarted ⟨7⟩ "worker") 0,
    delivery (.childCrashed ⟨7⟩ "panic") 10,
    delivery (.childCrashed ⟨7⟩ "panic") 12,
    delivery (.childCrashed ⟨7⟩ "panic") 40,
    delivery (.childCrashed ⟨7⟩ "panic") 100]

theorem restarts_spaced_deferred :
    ∃ log state,
      machine.run? (new (.oneForOne 3 100 5) 0) spacedCrashes =
          some (state, log) ∧
        log =
          [.started ⟨7⟩ 0, .granted ⟨7⟩ 10, .deferred ⟨7⟩ 12,
            .granted ⟨7⟩ 40, .gaveUp ⟨7⟩ 100] ∧
        RestartsSpaced (.oneForOne 3 100 5) ⟨7⟩ log state := by
  obtain ⟨log, state, executed, shown⟩ :
      ∃ log state,
        machine.run? (new (.oneForOne 3 100 5) 0) spacedCrashes =
            some (state, log) ∧
          log =
            [.started ⟨7⟩ 0, .granted ⟨7⟩ 10, .deferred ⟨7⟩ 12,
              .granted ⟨7⟩ 40, .gaveUp ⟨7⟩ 100] :=
    ⟨_, _, rfl, rfl⟩
  exact ⟨log, state, executed, shown,
    restarts_spaced (Machine.run?_sound _ executed) ⟨7⟩⟩

/-! ## When the handling of a crash panics -/

/-- The next count of a registered child fits a `usize`, and the product of the
base backoff and the multiplier of this count is a `Duration`. -/
def CrashRepresentable
    (supervisor : SupervisorActor)
    (childId : ActorId) : Prop :=
  ∀ entry,
    supervisor.children.lookup childId = some entry →
    entry.restartCount + 1 < 2 ^ 64 ∧
      supervisor.strategy.baseBackoff *
          2 ^ min ((entry.restartCount + 1) % 2 ^ 32 - 1) 30 ≤
        maxDuration

theorem mulDuration_isSome_iff
    (duration multiplier : Nat) :
    (mulDuration duration multiplier).isSome ↔
      duration * multiplier ≤ maxDuration := by
  unfold mulDuration
  split <;> simp_all

/-- The delay is computed exactly when the product is a `Duration`. -/
theorem backoffDelay_isSome_iff
    (supervisor : SupervisorActor)
    (count : Nat) :
    (supervisor.backoffDelay? count).isSome ↔
      supervisor.strategy.baseBackoff * 2 ^ min (count % 2 ^ 32 - 1) 30 ≤
        maxDuration := by
  unfold SupervisorActor.backoffDelay?
  rw [Option.isSome_map]
  exact mulDuration_isSome_iff _ _

/--
Handling a crash completes, at any time, exactly when the next count and the
product for the backoff are representable.
-/
theorem crash_completes_iff
    (supervisor : SupervisorActor)
    (base : supervisor.strategy.baseBackoff ≤ maxDuration)
    (childId : ActorId)
    (reason : String)
    (readings : Readings) :
    (supervisor.handle? (.childCrashed childId reason) readings).isSome ↔
      CrashRepresentable supervisor childId := by
  unfold SupervisorActor.handle? CrashRepresentable
  cases registered : supervisor.children.lookup childId with
  | none =>
      have known : (supervisor.backoffDelay? 0).isSome := by
        rw [backoffDelay_isSome_iff]
        simpa using base
      obtain ⟨delay, computed⟩ := Option.isSome_iff_exists.mp known
      simp [registered, computed]
  | some entry =>
      have computes :=
        backoffDelay_isSome_iff supervisor (entry.restartCount + 1)
      simp only [registered, Option.some.injEq, forall_eq']
      by_cases fits : entry.restartCount + 1 < 2 ^ 64
      · have counted :
            incrementUsize entry.restartCount =
              some (entry.restartCount + 1) := if_pos fits
        rw [counted, and_iff_right fits, ← computes]
        cases computed :
            supervisor.backoffDelay? (entry.restartCount + 1) with
        | none => simp [computed]
        | some delay => simp [computed]
      · have overflows : incrementUsize entry.restartCount = none :=
          if_neg fits
        rw [overflows]
        exact iff_of_false Bool.false_ne_true fun both => fits both.1

/-- A child with a short backoff crashes once more. -/
theorem crash_completes_iff_default :
    ∃ log state,
      machine.run? (new (.oneForOne 5 (fromSecs 60) (10 ^ 8)) 0)
          [delivery (.childStarted ⟨7⟩ "worker") 0,
            delivery (.childCrashed ⟨7⟩ "panic") 10] =
          some (state, log) ∧
        ((state.supervisor.handle? (.childCrashed ⟨7⟩ "panic")
            ⟨20, 20, Nat.le_refl 20⟩).isSome ↔
          CrashRepresentable state.supervisor ⟨7⟩) := by
  obtain ⟨log, state, executed, strategy⟩ :
      ∃ log state,
        machine.run? (new (.oneForOne 5 (fromSecs 60) (10 ^ 8)) 0)
            [delivery (.childStarted ⟨7⟩ "worker") 0,
              delivery (.childCrashed ⟨7⟩ "panic") 10] =
            some (state, log) ∧
          state.supervisor.strategy =
            .oneForOne 5 (fromSecs 60) (10 ^ 8) :=
    ⟨_, _, rfl, rfl⟩
  refine ⟨log, state, executed,
    crash_completes_iff state.supervisor ?_ ⟨7⟩ "panic" _⟩
  rw [strategy]
  decide

/-- The longest base backoff: the first crash is handled, the second panics. -/
theorem crash_panics :
    ∃ log state,
      machine.run? (new (.oneForOne 5 (fromSecs 60) maxDuration) 0)
          [delivery (.childStarted ⟨7⟩ "worker") 0,
            delivery (.childCrashed ⟨7⟩ "panic") 10] =
          some (state, log) ∧
        state.now ≤ 20 ∧
        state.supervisor.handle? (.childCrashed ⟨7⟩ "panic")
            ⟨20, 20, Nat.le_refl 20⟩ = none :=
  ⟨_, _, rfl, by decide, rfl⟩

/-! ## Capped doubling -/

/-- The delay that doubles with each restart, at most thirty seconds. -/
def cappedDoubling (base count : Nat) : Nat :=
  min (fromSecs 30) (base * 2 ^ (count - 1))

/-- There is nothing to double, the shift is not clamped, or the cap is reached
both by the clamped shift and by the truncated count. -/
def FollowsDoubling (base count : Nat) : Prop :=
  base = 0 ∨ count ≤ 31 ∨
    (fromSecs 30 ≤ base * 2 ^ 30 ∧
      fromSecs 30 ≤ base * 2 ^ (count % 2 ^ 32 - 1))

/-- The delay is capped only after the product was formed. -/
theorem backoffDelay_eq_some
    {supervisor : SupervisorActor}
    {count delay : Nat}
    (computed : supervisor.backoffDelay? count = some delay) :
    delay =
      min (fromSecs 30)
        (supervisor.strategy.baseBackoff *
          2 ^ min (count % 2 ^ 32 - 1) 30) := by
  simp only [SupervisorActor.backoffDelay?, mulDuration,
    Option.map_eq_some_iff, Option.ite_none_right_eq_some,
    Option.some.injEq] at computed
  obtain ⟨product, ⟨-, rfl⟩, rfl⟩ := computed
  exact Nat.min_comm _ _

/-- A product that can be represented is capped. -/
theorem backoffDelay_of_fits
    {supervisor : SupervisorActor}
    {count : Nat}
    (shift : Nat)
    (clamped : min (count % 2 ^ 32 - 1) 30 = shift)
    (fits : supervisor.strategy.baseBackoff * 2 ^ shift ≤ maxDuration) :
    supervisor.backoffDelay? count =
      some (min (supervisor.strategy.baseBackoff * 2 ^ shift)
        (fromSecs 30)) := by
  subst clamped
  simp only [SupervisorActor.backoffDelay?, mulDuration,
    SupervisorActor.baseBackoff, fits, ↓reduceIte, Option.map_some]

/-- Below the cap a product determines its exponent. -/
theorem shift_eq_of_below
    {base shift exponent : Nat}
    (positive : 0 < base)
    (below : base * 2 ^ shift < fromSecs 30)
    (same :
      min (fromSecs 30) (base * 2 ^ shift) =
        min (fromSecs 30) (base * 2 ^ exponent)) :
    shift = exponent := by
  have product : base * 2 ^ shift = base * 2 ^ exponent := by omega
  exact Nat.pow_right_injective (le_refl 2)
    (Nat.eq_of_mul_eq_mul_left positive product)

/-- The clamped shift reaches the cap exactly when its two bounds do. -/
theorem cap_le_clamped_iff (cap base shift : Nat) :
    cap ≤ base * 2 ^ min shift 30 ↔
      cap ≤ base * 2 ^ 30 ∧ cap ≤ base * 2 ^ shift := by
  have grows {lower upper : Nat} (le : lower ≤ upper) :
      base * 2 ^ lower ≤ base * 2 ^ upper :=
    Nat.mul_le_mul_left base (Nat.pow_le_pow_right (by decide) le)
  rcases Nat.le_total shift 30 with below | above
  · have more := grows below
    rw [Nat.min_eq_left below]
    omega
  · have more := grows above
    rw [Nat.min_eq_right above]
    omega

/-- The delay is the capped doubling exactly under this condition. -/
theorem delay_eq_cappedDoubling_iff
    {supervisor : SupervisorActor}
    {count delay : Nat}
    (computed : supervisor.backoffDelay? count = some delay) :
    delay = cappedDoubling supervisor.strategy.baseBackoff count ↔
      FollowsDoubling supervisor.strategy.baseBackoff count := by
  obtain rfl := backoffDelay_eq_some computed
  generalize supervisor.strategy.baseBackoff = base
  unfold cappedDoubling FollowsDoubling
  rw [← cap_le_clamped_iff]
  have shorter : min (count % 2 ^ 32 - 1) 30 ≤ count - 1 := by omega
  constructor
  · intro same
    by_contra fails
    simp only [not_or, Nat.not_le] at fails
    obtain ⟨nonzero, large, below⟩ := fails
    have exact :=
      shift_eq_of_below (Nat.pos_of_ne_zero nonzero) below same
    omega
  · rintro (rfl | small | reached)
    · simp
    · have unclamped : min (count % 2 ^ 32 - 1) 30 = count - 1 := by omega
      rw [unclamped]
    · have further :
          base * 2 ^ min (count % 2 ^ 32 - 1) 30 ≤ base * 2 ^ (count - 1) :=
        Nat.mul_le_mul_left base (Nat.pow_le_pow_right (by decide) shorter)
      omega

/-- No smaller count has a longer delay than the capped doubling allows. -/
theorem delay_le_cappedDoubling
    {supervisor : SupervisorActor}
    {earlier count delay : Nat}
    (computed : supervisor.backoffDelay? earlier = some delay)
    (order : earlier ≤ count) :
    delay ≤ cappedDoubling supervisor.strategy.baseBackoff count := by
  obtain rfl := backoffDelay_eq_some computed
  have exponent : min (earlier % 2 ^ 32 - 1) 30 ≤ count - 1 := by omega
  exact min_le_min_left (fromSecs 30)
    (Nat.mul_le_mul_left _ (Nat.pow_le_pow_right (by decide) exponent))

/-- From the thirty-sixth restart on, every backoff is doubled to the cap. -/
theorem cappedDoubling_eq_cap
    {base count : Nat}
    (positive : 0 < base)
    (large : 36 ≤ count) :
    cappedDoubling base count = fromSecs 30 := by
  have grown : 2 ^ 35 ≤ base * 2 ^ (count - 1) := by
    calc 2 ^ 35 ≤ 2 ^ (count - 1) :=
          Nat.pow_le_pow_right (by decide) (by omega)
      _ ≤ base * 2 ^ (count - 1) := Nat.le_mul_of_pos_left _ positive
  have cap : fromSecs 30 ≤ 2 ^ 35 := by decide
  exact Nat.min_eq_left (cap.trans grown)

/-- A base that the clamped shift takes to the cap reaches it without
overflowing: the product that first does is below twice the cap, or the base. -/
theorem exists_capped
    {supervisor : SupervisorActor}
    (representable : supervisor.strategy.baseBackoff ≤ maxDuration)
    (reaches :
      fromSecs 30 ≤ supervisor.strategy.baseBackoff * 2 ^ 30) :
    ∃ count, 1 ≤ count ∧ count ≤ 31 ∧
      supervisor.backoffDelay? count = some (fromSecs 30) := by
  have enough : ∃ shift,
      fromSecs 30 ≤ supervisor.strategy.baseBackoff * 2 ^ shift :=
    ⟨30, reaches⟩
  have least := Nat.find_spec enough
  have clamped : Nat.find enough ≤ 30 := Nat.find_min' enough reaches
  have fits :
      supervisor.strategy.baseBackoff * 2 ^ Nat.find enough ≤ maxDuration := by
    cases shape : Nat.find enough with
    | zero => simpa using representable
    | succ shift =>
        have before :
            ¬ fromSecs 30 ≤ supervisor.strategy.baseBackoff * 2 ^ shift :=
          Nat.find_min enough (by omega)
        have room : 2 * fromSecs 30 ≤ maxDuration := by decide
        rw [Nat.pow_succ, ← Nat.mul_assoc]
        omega
  refine ⟨Nat.find enough + 1, Nat.le_add_left 1 _, by omega, ?_⟩
  rw [backoffDelay_of_fits _ (by omega) fits, Nat.min_eq_right least]

/--
For every count whose delay is computed, the delay is the capped doubling, no
smaller count has a longer one, and the cap is reached in time, exactly when the
count follows the doubling.  A base that is not zero reaches the cap at some
count exactly when thirty doublings take it there.
-/
theorem backoff_doubles_iff
    (supervisor : SupervisorActor)
    (representable : supervisor.strategy.baseBackoff ≤ maxDuration) :
    (∀ count delay,
        1 ≤ count →
        supervisor.backoffDelay? count = some delay →
        ((delay = cappedDoubling supervisor.strategy.baseBackoff count ∧
            (∀ earlier shorter,
              1 ≤ earlier →
              earlier ≤ count →
              supervisor.backoffDelay? earlier = some shorter →
              shorter ≤ delay) ∧
            (0 < supervisor.strategy.baseBackoff →
              36 ≤ count →
              delay = fromSecs 30)) ↔
          FollowsDoubling supervisor.strategy.baseBackoff count)) ∧
      (0 < supervisor.strategy.baseBackoff →
        ((∃ count, 1 ≤ count ∧ count < 2 ^ 64 ∧
            supervisor.backoffDelay? count = some (fromSecs 30)) ↔
          fromSecs 30 ≤ supervisor.strategy.baseBackoff * 2 ^ 30)) := by
  refine ⟨fun count delay first computed => ?_, fun positive => ?_⟩
  · rw [← delay_eq_cappedDoubling_iff computed]
    constructor
    · exact fun doubles => doubles.1
    · intro same
      refine ⟨same, fun earlier shorter _ order before => ?_,
        fun positive large => ?_⟩
      · rw [same]
        exact delay_le_cappedDoubling before order
      · rw [same]
        exact cappedDoubling_eq_cap positive large
  · constructor
    · rintro ⟨count, -, -, capped⟩
      have reached := (Nat.le_min.mp (backoffDelay_eq_some capped).le).2
      exact ((cap_le_clamped_iff _ _ _).mp reached).1
    · intro reaches
      obtain ⟨count, first, small, capped⟩ :=
        exists_capped representable reaches
      exact ⟨count, first, by omega, capped⟩

/-- One hundred milliseconds, at the fifth restart. -/
theorem backoff_doubles_iff_fifth :
    ∃ delay,
      (SupervisorActor.new (.oneForOne 5 (fromSecs 60) (10 ^ 8))).backoffDelay?
          5 = some delay ∧
        delay = 16 * 10 ^ 8 ∧
        delay = cappedDoubling (10 ^ 8) 5 := by
  refine ⟨16 * 10 ^ 8, rfl, rfl, ?_⟩
  exact
    (((backoff_doubles_iff
        (SupervisorActor.new (.oneForOne 5 (fromSecs 60) (10 ^ 8)))
        (by decide)).1 5 (16 * 10 ^ 8) (by decide) rfl).mpr
      (.inr (.inl (by decide)))).1

/-- A base of one nanosecond never gets past thirty doublings, and a count of
`2 ^ 32 + 1` is truncated to one, long after the cap was reached. -/
theorem backoff_not_doubled :
    ((SupervisorActor.new (.oneForOne 40 (fromSecs 60) 1)).backoffDelay? 36 =
          some (2 ^ 30) ∧
        2 ^ 30 ≠ cappedDoubling 1 36) ∧
      ((SupervisorActor.new (.oneForOne 40 (fromSecs 60) (10 ^ 8))
            ).backoffDelay? 10 = some (fromSecs 30) ∧
        (SupervisorActor.new (.oneForOne 40 (fromSecs 60) (10 ^ 8))
            ).backoffDelay? (2 ^ 32 + 1) = some (10 ^ 8) ∧
        10 ^ 8 ≠ cappedDoubling (10 ^ 8) (2 ^ 32 + 1)) := by
  refine ⟨⟨?_, ?_⟩, ?_, ?_, ?_⟩
  · rw [backoffDelay_of_fits 30 (by decide) (by decide)]
    decide
  · rw [cappedDoubling_eq_cap (by decide) (by decide)]
    decide
  · rw [backoffDelay_of_fits 9 (by decide) (by decide)]
    decide
  · rw [backoffDelay_of_fits 0 (by decide) (by decide)]
    decide
  · rw [cappedDoubling_eq_cap (by decide) (by decide)]
    decide

end Runact.Supervised
