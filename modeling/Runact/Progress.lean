import Runact.Machine

namespace Runact.Machine

/-!
# Budgets and progress of labelled machines

Rules about runs that are proved from single steps.  A budget bounds how often
something is made visible: every step pays for what it shows out of a potential
that no step refills.  Progress by rank reaches a goal: wherever it is not
reached yet, some continuation lowers a rank that cannot be lowered for ever.

This module is independent of any particular program.
-/

universe u v w

variable {State : Type u} {Label : Type v} {Event : Type w}
  {machine : Machine State Label Event}

namespace Run

/-- A property of states kept by every step, together with what each of its
steps makes visible, counted against a potential. -/
theorem budget
    (closed : State → Prop)
    (counts : Event → Bool)
    (potential : State → Nat)
    (pays :
      ∀ {before label after events},
        closed before →
        machine.step? before label = some (after, events) →
        closed after ∧
          events.countP counts + potential after ≤ potential before)
    {initial final : State}
    {log : List Event}
    (run : Run machine initial log final)
    (initially : closed initial) :
    closed final ∧
      log.countP counts + potential final ≤ potential initial := by
  induction run with
  | nil =>
      exact ⟨initially, by simp⟩
  | snoc label earlier last inductionHypothesis =>
      obtain ⟨stillClosed, earlierPaid⟩ := inductionHypothesis
      obtain ⟨nowClosed, paid⟩ := pays stillClosed last
      refine ⟨nowClosed, ?_⟩
      rw [List.countP_append]
      omega

/-- What is shown by a run, weighed, is what a balance has gained over it. -/
theorem balance
    (closed : State → Prop)
    (gains : Event → Bool)
    (level : State → Nat)
    (balanced :
      ∀ {before label after events},
        closed before →
        machine.step? before label = some (after, events) →
        closed after ∧
          level after = level before + events.countP gains)
    {initial final : State}
    {log : List Event}
    (run : Run machine initial log final)
    (initially : closed initial) :
    closed final ∧ level final = level initial + log.countP gains := by
  induction run with
  | nil =>
      exact ⟨initially, by simp⟩
  | snoc label earlier last inductionHypothesis =>
      obtain ⟨stillClosed, earlierLevel⟩ := inductionHypothesis
      obtain ⟨nowClosed, level⟩ := balanced stillClosed last
      refine ⟨nowClosed, ?_⟩
      rw [level, earlierLevel, List.countP_append]
      exact Nat.add_assoc _ _ _

/-- Where an event is always the first of its step, a run that shows it leads up
to the step that does. -/
theorem upTo
    {event : Event}
    (first :
      ∀ {before label after events front back},
        machine.step? before label = some (after, events) →
        events = front ++ event :: back →
        front = [])
    {initial final : State}
    {log earlier later : List Event}
    (run : Run machine initial log final)
    (shape : log = earlier ++ event :: later) :
    ∃ middle label after back,
      Run machine initial earlier middle ∧
        machine.step? middle label = some (after, event :: back) := by
  induction run generalizing later with
  | nil => simp at shape
  | @snoc log events middle final label previous last inductionHypothesis =>
      obtain ⟨front, rfl, newest⟩ | ⟨back, rfl, newest⟩ :=
        List.append_eq_append_iff.mp shape
      · obtain rfl := first last newest
        obtain rfl : events = event :: later := newest
        rw [List.append_nil]
        exact ⟨middle, label, final, later, previous, last⟩
      · cases back with
        | nil =>
            obtain rfl : event :: later = events := newest
            rw [List.append_nil] at previous
            exact ⟨middle, label, final, later, previous, last⟩
        | cons same back =>
            obtain ⟨rfl, -⟩ := List.cons.inj newest
            exact inductionHypothesis rfl

end Run

/-- A step with one of these labels can be taken. -/
def Enabled
    (machine : Machine State Label Event)
    (state : State)
    (owns : Label → Bool) : Prop :=
  ∃ label after events,
    owns label = true ∧ machine.step? state label = some (after, events)

/-- An execution that goes on for ever. -/
structure Execution (machine : Machine State Label Event) where
  states : Nat → State
  labels : Nat → Label
  events : Nat → List Event
  valid :
    ∀ time,
      machine.step? (states time) (labels time) =
        some (states (time + 1), events time)

namespace Execution

variable (execution : Execution machine)

/-- A property of states kept by every step holds from then on. -/
theorem invariant
    (property : State → Prop)
    (preserved :
      ∀ {before label after events},
        property before →
        machine.step? before label = some (after, events) →
        property after)
    {time later : Nat}
    (notBefore : time ≤ later)
    (holds : property (execution.states time)) :
    property (execution.states later) := by
  induction later, notBefore using Nat.le_induction with
  | base => exact holds
  | succ later notBefore inductionHypothesis =>
      exact preserved inductionHypothesis (execution.valid later)

/-- Labels one of which can always be taken from some time on are taken. -/
def Fair (owns : Label → Bool) : Prop :=
  ∀ time,
    (∀ later, time ≤ later →
      machine.Enabled (execution.states later) owns) →
    ∃ later, time ≤ later ∧ owns (execution.labels later) = true

/-- The same of a party that is under way only in some states. -/
def FairWhile (under : State → Prop) (owns : Label → Bool) : Prop :=
  ∀ time,
    (∀ later, time ≤ later →
      under (execution.states later) ∧
        machine.Enabled (execution.states later) owns) →
    ∃ later, time ≤ later ∧ owns (execution.labels later) = true

/-- A party that is always under way. -/
theorem FairWhile.fair
    {execution : Execution machine}
    {owns : Label → Bool}
    (fair : execution.FairWhile (fun _ => True) owns) :
    execution.Fair owns :=
  fun time enabled =>
    fair time fun later notBefore => ⟨trivial, enabled later notBefore⟩

/-- One step, and then an execution. -/
def cons
    {state : State}
    {label : Label}
    {shown : List Event}
    (first :
      machine.step? state label = some (execution.states 0, shown)) :
    Execution machine where
  states
    | 0 => state
    | time + 1 => execution.states time
  labels
    | 0 => label
    | time + 1 => execution.labels time
  events
    | 0 => shown
    | time + 1 => execution.events time
  valid
    | 0 => first
    | time + 1 => execution.valid time

theorem FairWhile.cons
    {execution : Execution machine}
    {state : State}
    {label : Label}
    {shown : List Event}
    {under : State → Prop}
    {owns : Label → Bool}
    (fair : execution.FairWhile under owns)
    (first :
      machine.step? state label = some (execution.states 0, shown)) :
    (execution.cons first).FairWhile under owns := by
  intro time enabled
  obtain ⟨later, notBefore, own⟩ :=
    fair (time - 1) fun later notBefore =>
      enabled (later + 1) (Nat.sub_le_iff_le_add.mp notBefore)
  exact ⟨later + 1, Nat.sub_le_iff_le_add.mp notBefore, own⟩

/-- What other steps keep holds as long as a label is not taken. -/
theorem kept_until
    {execution : Execution machine}
    {owns : Label → Bool}
    (property : State → Prop)
    (kept :
      ∀ {before label after events},
        property before →
        machine.step? before label = some (after, events) →
        owns label = false →
        property after)
    {time later : Nat}
    (notBefore : time ≤ later)
    (holds : property (execution.states time))
    (idle :
      ∀ moment, time ≤ moment → moment < later →
        owns (execution.labels moment) = false) :
    property (execution.states later) := by
  induction later, notBefore using Nat.le_induction with
  | base => exact holds
  | succ later notBefore inductionHypothesis =>
      refine kept (inductionHypothesis fun moment since earlier => ?_)
        (execution.valid later) (idle later notBefore (Nat.lt_succ_self later))
      exact idle moment since (Nat.lt_succ_of_lt earlier)

/-- What other steps keep holds when a label is first taken. -/
theorem taken_with
    {execution : Execution machine}
    {owns : Label → Bool}
    (property : State → Prop)
    (kept :
      ∀ {before label after events},
        property before →
        machine.step? before label = some (after, events) →
        owns label = false →
        property after)
    {time : Nat}
    (holds : property (execution.states time))
    (taken : ∃ later, time ≤ later ∧ owns (execution.labels later) = true) :
    ∃ later, time ≤ later ∧
      owns (execution.labels later) = true ∧
      property (execution.states later) := by
  classical
  obtain ⟨notBefore, own⟩ := Nat.find_spec taken
  refine ⟨Nat.find taken, notBefore, own,
    kept_until property kept notBefore holds fun moment since earlier => ?_⟩
  have notTaken := Nat.find_min taken earlier
  exact Bool.eq_false_iff.mpr fun own => notTaken ⟨since, own⟩

/-- Labels that can always be taken while their party is under way, as long as
they are not taken, are taken. -/
theorem FairWhile.taken
    {execution : Execution machine}
    {under : State → Prop}
    {owns : Label → Bool}
    (fair : execution.FairWhile under owns)
    (property : State → Prop)
    (kept :
      ∀ {before label after events},
        property before →
        machine.step? before label = some (after, events) →
        owns label = false →
        property after)
    (enabled :
      ∀ {state}, property state → under state ∧ machine.Enabled state owns)
    {time : Nat}
    (holds : property (execution.states time)) :
    ∃ later, time ≤ later ∧
      owns (execution.labels later) = true ∧
      property (execution.states later) := by
  apply taken_with property kept holds
  by_contra never
  apply never
  apply fair time
  intro later notBefore
  apply enabled
  refine kept_until property kept notBefore holds fun moment since _ => ?_
  exact Bool.eq_false_iff.mpr fun own => never ⟨moment, since, own⟩

/--
Labels that can be taken once somebody else has helped are taken: while they are
not free the helper can take a step, which frees them for good.
-/
theorem Fair.helped
    {execution : Execution machine}
    {owns helps : Label → Bool}
    (fair : execution.Fair owns)
    (helper : execution.Fair helps)
    (waiting free : State → Prop)
    (kept :
      ∀ {before label after events},
        waiting before →
        machine.step? before label = some (after, events) →
        owns label = false →
        waiting after ∧ (free before → free after))
    (enabled :
      ∀ {state}, waiting state → free state → machine.Enabled state owns)
    (helpable :
      ∀ {state}, waiting state → ¬ free state → machine.Enabled state helps)
    (frees :
      ∀ {before label after events},
        waiting before →
        machine.step? before label = some (after, events) →
        helps label = true →
        free after)
    {time : Nat}
    (holds : waiting (execution.states time)) :
    ∃ later, time ≤ later ∧ owns (execution.labels later) = true := by
  by_contra never
  have idle (later : Nat) (notBefore : time ≤ later) :
      owns (execution.labels later) = false :=
    Bool.eq_false_iff.mpr fun own => never ⟨later, notBefore, own⟩
  have waits (later : Nat) (notBefore : time ≤ later) :
      waiting (execution.states later) :=
    kept_until waiting (fun waits step own => (kept waits step own).1)
      notBefore holds fun moment since _ => idle moment since
  obtain ⟨freed, notBefore, isFree⟩ :
      ∃ freed, time ≤ freed ∧ free (execution.states freed) := by
    by_contra neverFree
    obtain ⟨moment, notBefore, helping⟩ := helper time fun later notBefore =>
      helpable (waits later notBefore) fun isFree =>
        neverFree ⟨later, notBefore, isFree⟩
    exact neverFree
      ⟨moment + 1, notBefore.trans (Nat.le_succ moment),
        frees (waits moment notBefore) (execution.valid moment) helping⟩
  obtain ⟨moment, since, own⟩ := fair freed fun later since => by
    have both :
        waiting (execution.states later) ∧ free (execution.states later) :=
      kept_until (fun state => waiting state ∧ free state)
        (fun both step own =>
          ⟨(kept both.1 step own).1, (kept both.1 step own).2 both.2⟩)
        since ⟨waits freed notBefore, isFree⟩
        fun moment after _ => idle moment (notBefore.trans after)
    exact enabled both.1 both.2
  exact never ⟨moment, notBefore.trans since, own⟩

/-- Where a rank is lowered again and again until a goal is reached, the goal is
reached. -/
theorem eventually_by_rank
    {Rank : Type*} [Preorder Rank] [WellFoundedLT Rank]
    (rank : State → Rank)
    (goal : State → Prop)
    {time : Nat}
    (progress :
      ∀ moment, time ≤ moment →
        ∃ later, moment ≤ later ∧
          (goal (execution.states later) ∨
            rank (execution.states later) < rank (execution.states moment))) :
    ∃ later, time ≤ later ∧ goal (execution.states later) := by
  suffices below :
      ∀ bound moment,
        time ≤ moment →
        rank (execution.states moment) = bound →
        ∃ later, time ≤ later ∧ goal (execution.states later) from
    below _ time (le_refl time) rfl
  intro bound
  induction bound using WellFoundedLT.induction with
  | ind bound inductionHypothesis =>
      rintro moment notBefore rfl
      obtain ⟨later, since, reached | lowered⟩ := progress moment notBefore
      · exact ⟨later, notBefore.trans since, reached⟩
      · apply inductionHypothesis _ lowered later
        · exact notBefore.trans since
        · rfl

/--
A party that gets closer to a goal by each step of its own, and is not taken
further away from it by the steps of others, reaches it, if it always takes
another step; and it waits until then.
-/
theorem reaches
    {Rank : Type*} [Preorder Rank] [WellFoundedLT Rank]
    {owns : Label → Bool}
    (waiting : State → Prop)
    (goal : Nat → Prop)
    (rank : State → Rank)
    {time : Nat}
    (moves :
      ∀ moment, time ≤ moment →
        waiting (execution.states moment) →
        goal moment ∨
          waiting (execution.states (moment + 1)) ∧
            rank (execution.states (moment + 1)) ≤
              rank (execution.states moment) ∧
            (owns (execution.labels moment) = true →
              rank (execution.states (moment + 1)) <
                rank (execution.states moment)))
    (taken :
      ∀ moment, time ≤ moment →
        (∀ later, moment ≤ later → waiting (execution.states later)) →
        ∃ later, moment ≤ later ∧ owns (execution.labels later) = true)
    (holds : waiting (execution.states time)) :
    ∃ later, time ≤ later ∧ goal later ∧
      waiting (execution.states later) ∧
        ∀ moment, time ≤ moment → moment < later → ¬ goal moment := by
  classical
  -- the party waits as long as the goal is not reached
  have waitsBefore (later : Nat) (notBefore : time ≤ later)
      (unreached : ∀ moment, time ≤ moment → moment < later → ¬ goal moment) :
      waiting (execution.states later) := by
    induction later, notBefore using Nat.le_induction with
    | base => exact holds
    | succ later notBefore inductionHypothesis =>
        have waits := inductionHypothesis fun moment since earlier =>
          unreached moment since (Nat.lt_succ_of_lt earlier)
        exact ((moves later notBefore waits).resolve_left
          (unreached later notBefore (Nat.lt_succ_self later))).1
  suffices reached : ∃ later, time ≤ later ∧ goal later by
    obtain ⟨notBefore, atGoal⟩ := Nat.find_spec reached
    have unreached (moment : Nat) (since : time ≤ moment)
        (earlier : moment < Nat.find reached) :
        ¬ goal moment :=
      fun early => Nat.find_min reached earlier ⟨since, early⟩
    exact ⟨Nat.find reached, notBefore, atGoal,
      waitsBefore _ notBefore unreached, unreached⟩
  by_contra never
  have waits (moment : Nat) (notBefore : time ≤ moment) :
      waiting (execution.states moment) :=
    waitsBefore moment notBefore fun earlier since _ reached =>
      never ⟨earlier, since, reached⟩
  have moved (moment : Nat) (notBefore : time ≤ moment) :=
    (moves moment notBefore (waits moment notBefore)).resolve_left
      fun reached => never ⟨moment, notBefore, reached⟩
  have notFurther (moment later : Nat) (notBefore : time ≤ moment)
      (since : moment ≤ later) :
      rank (execution.states later) ≤ rank (execution.states moment) := by
    induction later, since using Nat.le_induction with
    | base => exact le_refl _
    | succ later since inductionHypothesis =>
        have still := notBefore.trans since
        exact (moved later still).2.1.trans inductionHypothesis
  -- the party goes on taking steps, and each of them lowers the rank
  have ends : ∃ later, time ≤ later ∧ False := by
    apply execution.eventually_by_rank rank (fun _ => False)
    intro moment notBefore
    obtain ⟨later, since, own⟩ := taken moment notBefore fun later since =>
      waits later (notBefore.trans since)
    have still := notBefore.trans since
    have closer := (moved later still).2.2 own
    exact ⟨later + 1, since.trans (Nat.le_succ later),
      .inr (closer.trans_le (notFurther moment later notBefore since))⟩
  obtain ⟨-, -, impossible⟩ := ends
  exact impossible

/-- A party that can always take a step reaches its goal in a fair execution. -/
theorem Fair.reaches
    {Rank : Type*} [Preorder Rank] [WellFoundedLT Rank]
    {execution : Execution machine}
    {owns : Label → Bool}
    (fair : execution.Fair owns)
    (waiting goal : State → Prop)
    (rank : State → Rank)
    {time : Nat}
    (moves :
      ∀ moment, time ≤ moment →
        waiting (execution.states moment) →
        goal (execution.states (moment + 1)) ∨
          waiting (execution.states (moment + 1)) ∧
            rank (execution.states (moment + 1)) ≤
              rank (execution.states moment) ∧
            (owns (execution.labels moment) = true →
              rank (execution.states (moment + 1)) <
                rank (execution.states moment)))
    (enabled : ∀ {state}, waiting state → machine.Enabled state owns)
    (holds : waiting (execution.states time)) :
    ∃ later, time ≤ later ∧ goal (execution.states later) := by
  obtain ⟨later, notBefore, reached, -⟩ :=
    execution.reaches waiting
      (fun moment => goal (execution.states (moment + 1))) rank moves
      (fun moment _ waits =>
        fair moment fun later since => enabled (waits later since))
      holds
  exact ⟨later + 1, notBefore.trans (Nat.le_succ later), reached⟩

/-! ### Finite parts of an execution -/

/-- What that many steps show. -/
def log (time : Nat) : Nat → List Event
  | 0 => []
  | count + 1 => log time count ++ execution.events (time + count)

theorem run (time count : Nat) :
    Run machine (execution.states time) (execution.log time count)
      (execution.states (time + count)) := by
  induction count with
  | zero => exact .nil
  | succ count inductionHypothesis =>
      exact .snoc _ inductionHypothesis (execution.valid (time + count))

theorem log_add (time count later : Nat) :
    execution.log time (count + later) =
      execution.log time count ++ execution.log (time + count) later := by
  induction later with
  | zero => rw [log, List.append_nil, Nat.add_zero]
  | succ later inductionHypothesis =>
      rw [← Nat.add_assoc, log, log, inductionHypothesis,
        List.append_assoc, Nat.add_assoc]

theorem mem_log
    {time count : Nat}
    {event : Event}
    (shown : event ∈ execution.log time count) :
    ∃ moment,
      time ≤ moment ∧ moment < time + count ∧
        event ∈ execution.events moment := by
  induction count with
  | zero => cases shown
  | succ count inductionHypothesis =>
      obtain earlier | last := List.mem_append.mp shown
      · obtain ⟨moment, notBefore, inside, found⟩ := inductionHypothesis earlier
        exact ⟨moment, notBefore, Nat.lt_succ_of_lt inside, found⟩
      · exact ⟨time + count, Nat.le_add_right time count,
          Nat.lt_succ_self _, last⟩

/-- Only the listed steps are taken. -/
theorem label_of_taken
    {state : State}
    {labels : List Label}
    {step : State × Label}
    (among : step ∈ machine.taken state labels) :
    step.2 ∈ labels := by
  induction labels generalizing state with
  | nil => cases among
  | cons label rest inductionHypothesis =>
      unfold taken at among
      obtain rfl | later := List.mem_cons.mp among
      · exact List.mem_cons_self
      · split at later
        · cases later
        · exact List.mem_cons_of_mem label (inductionHypothesis later)

/-- The states that an executed list of labels goes through. -/
theorem states_of_run?
    {initial final : State}
    (labels : List Label)
    {log : List Event}
    (executed : machine.run? initial labels = some (final, log)) :
    ∃ (states : Nat → State) (events : Nat → List Event),
      states 0 = initial ∧ states labels.length = final ∧
        ∀ (index : Nat) (inside : index < labels.length),
          (states index, labels.get ⟨index, inside⟩) ∈
              machine.taken initial labels ∧
            machine.step? (states index) (labels.get ⟨index, inside⟩) =
              some (states (index + 1), events index) := by
  induction labels generalizing initial log with
  | nil =>
      simp only [run?, Option.some.injEq, Prod.mk.injEq] at executed
      exact ⟨fun _ => initial, fun _ => [], rfl, executed.1,
        fun index inside => (Nat.not_lt_zero index inside).elim⟩
  | cons label rest inductionHypothesis =>
      unfold run? at executed
      cases stepped : machine.step? initial label with
      | none => simp [stepped] at executed
      | some outcome =>
          obtain ⟨next, shown⟩ := outcome
          simp only [stepped, Option.map_eq_some_iff,
            Prod.exists, Prod.mk.injEq] at executed
          obtain ⟨last, later, restExecuted, rfl, rfl⟩ := executed
          obtain ⟨states, events, starts, ends, steps⟩ :=
            inductionHypothesis restExecuted
          refine ⟨fun | 0 => initial | index + 1 => states index,
            fun | 0 => shown | index + 1 => events index,
            rfl, ends, fun index inside => ?_⟩
          simp only [taken, stepped]
          cases index with
          | zero => exact ⟨List.mem_cons_self, starts ▸ stepped⟩
          | succ index =>
              obtain ⟨among, step⟩ :=
                steps index (Nat.lt_of_succ_lt_succ inside)
              exact ⟨List.mem_cons_of_mem _ among, step⟩

/-- Steps that lead back to where they start, again and again. -/
theorem exists_of_cycle
    {state : State}
    (cycle : List Label)
    (nonempty : cycle ≠ [])
    {log : List Event}
    (executed : machine.run? state cycle = some (state, log)) :
    ∃ execution : Execution machine,
      execution.states 0 = state ∧
        (∀ time,
          (execution.states time, execution.labels time) ∈
            machine.taken state cycle) ∧
        ∀ under owns,
          cycle.any owns = true ∨
            ¬ (under state ∧ machine.Enabled state owns) →
          execution.FairWhile under owns := by
  obtain ⟨states, events, starts, ends, steps⟩ :=
    states_of_run? cycle executed
  have length := List.length_pos_of_ne_nil nonempty
  have inside (time : Nat) : time % cycle.length < cycle.length :=
    Nat.mod_lt time length
  have valid (time : Nat) :
      machine.step? (states (time % cycle.length))
          (cycle.get ⟨time % cycle.length, inside time⟩) =
        some (states ((time + 1) % cycle.length),
          events (time % cycle.length)) := by
    rw [(steps _ (inside time)).2, ← Nat.mod_add_mod]
    by_cases last : time % cycle.length + 1 = cycle.length
    · rw [last, Nat.mod_self, ends, starts]
    · have further := lt_of_le_of_ne (Nat.succ_le_of_lt (inside time)) last
      rw [Nat.mod_eq_of_lt further]
  have again (time index : Nat) (inside : index < cycle.length) :
      time ≤ cycle.length * time + index ∧
        (cycle.length * time + index) % cycle.length = index :=
    ⟨(Nat.le_mul_of_pos_left time length).trans (Nat.le_add_right _ index),
      (Nat.mul_add_mod _ time index).trans (Nat.mod_eq_of_lt inside)⟩
  refine ⟨⟨fun time => states (time % cycle.length), _, _, valid⟩,
    (congrArg states (Nat.zero_mod _)).trans starts,
    fun time => (steps _ (inside time)).1, ?_⟩
  rintro under owns (taken | disabled) time enabled
  · obtain ⟨label, member, own⟩ := List.any_eq_true.mp taken
    obtain ⟨⟨index, inside⟩, rfl⟩ := List.get_of_mem member
    obtain ⟨notBefore, same⟩ := again time index inside
    refine ⟨_, notBefore, ?_⟩
    simp only [same]
    exact own
  · obtain ⟨notBefore, same⟩ := again time 0 length
    have still := enabled _ notBefore
    simp only [same, starts] at still
    exact (disabled still).elim

/--
The listed steps, and then a cycle for ever: fair to everybody who takes a step
of the cycle, is not under way where it starts, or can take no step there.
-/
theorem exists_of_lasso
    {initial state : State}
    (labels : List Label)
    {log : List Event}
    (executed : machine.run? initial labels = some (state, log))
    (cycle : List Label)
    (nonempty : cycle ≠ [])
    {shown : List Event}
    (again : machine.run? state cycle = some (state, shown)) :
    ∃ execution : Execution machine,
      execution.states 0 = initial ∧
        execution.states labels.length = state ∧
        (∀ time,
          (execution.states time, execution.labels time) ∈
            machine.taken initial labels ++ machine.taken state cycle) ∧
        ∀ under owns,
          cycle.any owns = true ∨
            ¬ (under state ∧ machine.Enabled state owns) →
          execution.FairWhile under owns := by
  induction labels generalizing initial log with
  | nil =>
      simp only [run?, Option.some.injEq, Prod.mk.injEq] at executed
      obtain ⟨rfl, rfl⟩ := executed
      obtain ⟨execution, starts, among, fair⟩ :=
        exists_of_cycle cycle nonempty again
      exact ⟨execution, starts, starts, among, fair⟩
  | cons label rest inductionHypothesis =>
      unfold run? at executed
      cases stepped : machine.step? initial label with
      | none => simp [stepped] at executed
      | some outcome =>
          obtain ⟨next, events⟩ := outcome
          simp only [stepped, Option.map_eq_some_iff,
            Prod.exists, Prod.mk.injEq] at executed
          obtain ⟨last, later, restExecuted, rfl, rfl⟩ := executed
          obtain ⟨execution, rfl, arrives, among, fair⟩ :=
            inductionHypothesis restExecuted
          refine ⟨execution.cons stepped, rfl, arrives, fun time => ?_,
            fun under owns condition => (fair under owns condition).cons stepped⟩
          simp only [taken, stepped]
          cases time with
          | zero => exact List.mem_cons_self
          | succ time => exact List.mem_cons_of_mem _ (among time)

/-- The listed steps, and then for ever one that changes nothing. -/
theorem exists_of_run?
    {initial final : State}
    (labels : List Label)
    {log shown : List Event}
    (executed : machine.run? initial labels = some (final, log))
    (idle : Label)
    (stays : machine.step? final idle = some (final, shown)) :
    ∃ execution : Execution machine,
      execution.states 0 = initial ∧
        ∀ under owns,
          ¬ (under final ∧ machine.Enabled final owns) →
          execution.FairWhile under owns := by
  have again : machine.run? final [idle] = some (final, shown ++ []) := by
    simp [run?, stays]
  obtain ⟨execution, starts, -, -, fair⟩ :=
    exists_of_lasso labels executed [idle] (List.cons_ne_nil idle []) again
  exact ⟨execution, starts, fun under owns disabled =>
    fair under owns (.inr disabled)⟩

end Execution

/-!
## Threads that come to an end

The threads of a machine stand at positions.  Only its own steps move a thread,
and each of them lowers the rank of its position.  Where no thread stands still
before it has ended, all of them end.
-/

/-- A machine made of threads, under an invariant of its states. -/
structure Threads
    (machine : Machine State Label Event)
    (Thread : Type*) (Position : Type*) (Rank : Type*) [Preorder Rank] where
  position : State → Thread → Position
  owns : Thread → Label → Bool
  rank : Position → Rank
  ended : Position → Bool
  good : State → Prop
  preserved :
    ∀ {before label after events},
      good before →
      machine.step? before label = some (after, events) →
      good after
  unmoved :
    ∀ {before label after events thread},
      good before →
      machine.step? before label = some (after, events) →
      owns thread label = false →
      position after thread = position before thread
  lowered :
    ∀ {before label after events thread},
      good before →
      machine.step? before label = some (after, events) →
      owns thread label = true →
      rank (position after thread) < rank (position before thread)

namespace Threads

variable {Thread Position Rank : Type*} [Preorder Rank]

/-- No step raises the rank of any thread. -/
theorem ranks_le
    (threads : Threads machine Thread Position Rank)
    {before after : State}
    {label : Label}
    {events : List Event}
    (isGood : threads.good before)
    (step : machine.step? before label = some (after, events)) :
    (fun thread => threads.rank (threads.position after thread)) ≤
      fun thread => threads.rank (threads.position before thread) := by
  intro thread
  cases own : threads.owns thread label with
  | true => exact (threads.lowered isGood step own).le
  | false =>
      exact (congrArg threads.rank (threads.unmoved isGood step own)).le

/-- The ranks of the threads only go down. -/
theorem ranks_antitone
    (threads : Threads machine Thread Position Rank)
    (execution : Execution machine)
    {time later : Nat}
    (notBefore : time ≤ later)
    (isGood : threads.good (execution.states time)) :
    (fun thread =>
        threads.rank (threads.position (execution.states later) thread)) ≤
      fun thread =>
        threads.rank (threads.position (execution.states time) thread) := by
  induction later, notBefore using Nat.le_induction with
  | base => exact le_refl _
  | succ later notBefore inductionHypothesis =>
      have goodThen :=
        execution.invariant threads.good threads.preserved notBefore isGood
      exact (threads.ranks_le goodThen (execution.valid later)).trans
        inductionHypothesis

/-- A thread without a step of its own stays where it is. -/
theorem stays
    (threads : Threads machine Thread Position Rank)
    (execution : Execution machine)
    {thread : Thread}
    {time later : Nat}
    (notBefore : time ≤ later)
    (isGood : threads.good (execution.states time))
    (idle :
      ∀ moment, time ≤ moment →
        threads.owns thread (execution.labels moment) = false) :
    threads.position (execution.states later) thread =
      threads.position (execution.states time) thread := by
  induction later, notBefore using Nat.le_induction with
  | base => rfl
  | succ later notBefore inductionHypothesis =>
      have goodThen :=
        execution.invariant threads.good threads.preserved notBefore isGood
      rw [threads.unmoved goodThen (execution.valid later)
        (idle later notBefore)]
      exact inductionHypothesis

/-- A thread that can always take a step until it has ended takes one. -/
theorem takes_step
    (threads : Threads machine Thread Position Rank)
    (enabled :
      ∀ {state thread},
        threads.good state →
        threads.ended (threads.position state thread) = false →
        machine.Enabled state (threads.owns thread))
    (execution : Execution machine)
    {thread : Thread}
    (fair : execution.Fair (threads.owns thread))
    {time : Nat}
    (isGood : threads.good (execution.states time))
    (running :
      threads.ended (threads.position (execution.states time) thread) =
        false) :
    ∃ later, time ≤ later ∧
      threads.owns thread (execution.labels later) = true := by
  by_contra never
  have idle (later : Nat) (notBefore : time ≤ later) :
      threads.owns thread (execution.labels later) = false :=
    Bool.eq_false_iff.mpr fun own => never ⟨later, notBefore, own⟩
  apply never
  apply fair time
  intro later notBefore
  apply enabled
  · exact execution.invariant threads.good threads.preserved notBefore isGood
  · rw [threads.stays execution notBefore isGood idle]
    exact running

/-- Where no thread stands still before it has ended, all threads end. -/
theorem eventually_ended
    [Finite Thread] [WellFoundedLT Rank]
    (threads : Threads machine Thread Position Rank)
    (execution : Execution machine)
    (moves :
      ∀ thread time,
        threads.good (execution.states time) →
        threads.ended (threads.position (execution.states time) thread) =
          false →
        ∃ later, time ≤ later ∧
          threads.owns thread (execution.labels later) = true)
    (time : Nat)
    (isGood : threads.good (execution.states time)) :
    ∃ later, time ≤ later ∧
      ∀ thread,
        threads.ended (threads.position (execution.states later) thread) =
          true := by
  have goodAt (later : Nat) (notBefore : time ≤ later) :
      threads.good (execution.states later) :=
    execution.invariant threads.good threads.preserved notBefore isGood
  apply execution.eventually_by_rank
    (fun state thread => threads.rank (threads.position state thread))
    (fun state =>
      ∀ thread, threads.ended (threads.position state thread) = true)
  intro moment notBefore
  by_cases allEnded :
      ∀ thread,
        threads.ended
          (threads.position (execution.states moment) thread) = true
  · exact ⟨moment, le_refl moment, .inl allEnded⟩
  · obtain ⟨thread, running⟩ := not_forall.mp allEnded
    obtain ⟨moving, since, own⟩ :=
      moves thread moment (goodAt moment notBefore)
        (Bool.eq_false_iff.mpr running)
    have stillGood := goodAt moving (notBefore.trans since)
    have lower :=
      Pi.lt_def.mpr
        ⟨threads.ranks_le stillGood (execution.valid moving), thread,
          threads.lowered stillGood (execution.valid moving) own⟩
    have notRaised :=
      threads.ranks_antitone execution since (goodAt moment notBefore)
    exact ⟨moving + 1, since.trans (Nat.le_succ moving),
      .inr (lower.trans_le notRaised)⟩

end Threads

end Runact.Machine
