import Mathlib

namespace Runact

/-!
# Labelled machines, their runs and simulations

A machine answers every scheduling choice either with nothing, when the choice
is not enabled, or with the next state and the events this step makes visible.
A run collects the visible events in order, so a history property relates the
log of a run to the state it ends in.

This module is independent of any particular program.
-/

universe u v w

/-- An executable transition system with scheduling labels and visible events. -/
structure Machine (State : Type u) (Label : Type v) (Event : Type w) where
  step? : State → Label → Option (State × List Event)

namespace Machine

variable {State : Type u} {Label : Type v} {Event : Type w}

/-- A finite run: the visible events so far and the state they lead to. -/
inductive Run
    (machine : Machine State Label Event)
    (initial : State) :
    List Event → State → Prop where
  | nil :
      Run machine initial [] initial
  | snoc
      {log events : List Event}
      {middle final : State}
      (label : Label)
      (earlier : Run machine initial log middle)
      (last : machine.step? middle label = some (final, events)) :
      Run machine initial (log ++ events) final

/-- A state is reachable when some run ends in it. -/
def Reachable
    (machine : Machine State Label Event)
    (initial state : State) : Prop :=
  ∃ log, Run machine initial log state

namespace Run

variable {machine : Machine State Label Event}

/-- One enabled step is a run. -/
theorem single
    {initial final : State}
    {events : List Event}
    (label : Label)
    (step : machine.step? initial label = some (final, events)) :
    Run machine initial events final := by
  simpa using Run.snoc label Run.nil step

/-- Runs compose, and their logs concatenate. -/
theorem append
    {initial middle final : State}
    {first later : List Event}
    (leading : Run machine initial first middle)
    (trailing : Run machine middle later final) :
    Run machine initial (first ++ later) final := by
  induction trailing with
  | nil =>
      simpa using leading
  | snoc label earlier last inductionHypothesis =>
      rw [← List.append_assoc]
      exact .snoc label inductionHypothesis last

/-- One step followed by a run is a run. -/
theorem cons
    {initial middle final : State}
    {events later : List Event}
    (label : Label)
    (first : machine.step? initial label = some (middle, events))
    (trailing : Run machine middle later final) :
    Run machine initial (events ++ later) final :=
  (single label first).append trailing

/-- A property of states kept by every step holds at the end of every run. -/
theorem invariant
    (property : State → Prop)
    (preserved :
      ∀ {before label after events},
        property before →
        machine.step? before label = some (after, events) →
        property after)
    {initial final : State}
    {log : List Event}
    (run : Run machine initial log final)
    (initially : property initial) :
    property final := by
  induction run with
  | nil =>
      exact initially
  | snoc label earlier last inductionHypothesis =>
      exact preserved inductionHypothesis last

/-- A relation between logs and states kept by every step holds of every run. -/
theorem history
    (property : List Event → State → Prop)
    (preserved :
      ∀ {log before label after events},
        property log before →
        machine.step? before label = some (after, events) →
        property (log ++ events) after)
    {initial final : State}
    {log : List Event}
    (run : Run machine initial log final)
    (initially : property [] initial) :
    property log final := by
  induction run with
  | nil =>
      exact initially
  | snoc label earlier last inductionHypothesis =>
      exact preserved inductionHypothesis last

end Run

/-- The machine that takes only the steps a test on its state allows. -/
def restrict
    (machine : Machine State Label Event)
    (allowed : State → Label → Bool) : Machine State Label Event where
  step? state label :=
    if allowed state label then machine.step? state label else none

theorem restrict_step_iff
    {machine : Machine State Label Event}
    {allowed : State → Label → Bool}
    {before after : State}
    {label : Label}
    {events : List Event} :
    (machine.restrict allowed).step? before label = some (after, events) ↔
      allowed before label = true ∧
        machine.step? before label = some (after, events) := by
  simp [restrict]

/-- A run under a test is a run. -/
theorem Run.of_restrict
    {machine : Machine State Label Event}
    {allowed : State → Label → Bool}
    {initial final : State}
    {log : List Event}
    (run : Run (machine.restrict allowed) initial log final) :
    Run machine initial log final := by
  induction run with
  | nil => exact .nil
  | snoc label earlier last inductionHypothesis =>
      exact .snoc label inductionHypothesis (restrict_step_iff.mp last).2

/-- A run under a test is a run under every weaker one. -/
theorem Run.restrict_mono
    {machine : Machine State Label Event}
    {allowed wider : State → Label → Bool}
    (weaker :
      ∀ state label, allowed state label = true → wider state label = true)
    {initial final : State}
    {log : List Event}
    (run : Run (machine.restrict allowed) initial log final) :
    Run (machine.restrict wider) initial log final := by
  induction run with
  | nil => exact .nil
  | snoc label earlier last inductionHypothesis =>
      obtain ⟨permitted, step⟩ := restrict_step_iff.mp last
      exact .snoc label inductionHypothesis
        (restrict_step_iff.mpr ⟨weaker _ _ permitted, step⟩)

/-- A run whose every step meets a condition on the log so far, the state and
the choice made in it. -/
inductive RunWhile
    (machine : Machine State Label Event)
    (condition : List Event → State → Label → Prop)
    (initial : State) : List Event → State → Prop where
  | nil :
      RunWhile machine condition initial [] initial
  | snoc
      {log events : List Event}
      {middle final : State}
      (label : Label)
      (earlier : RunWhile machine condition initial log middle)
      (met : condition log middle label)
      (last : machine.step? middle label = some (final, events)) :
      RunWhile machine condition initial (log ++ events) final

/-- Without its condition it is a run. -/
theorem RunWhile.run
    {machine : Machine State Label Event}
    {condition : List Event → State → Label → Prop}
    {initial final : State}
    {log : List Event}
    (run : RunWhile machine condition initial log final) :
    Run machine initial log final := by
  induction run with
  | nil => exact .nil
  | snoc label earlier met last inductionHypothesis =>
      exact .snoc label inductionHypothesis last

/-- Execute a list of scheduling labels, collecting the visible events. -/
def run?
    (machine : Machine State Label Event) :
    State → List Label → Option (State × List Event)
  | state, [] =>
      some (state, [])
  | state, label :: rest =>
      match machine.step? state label with
      | none =>
          none
      | some (next, events) =>
          (machine.run? next rest).map fun outcome =>
            (outcome.1, events ++ outcome.2)

/-- A run with the steps it took: each state, and the choice made in it. -/
inductive Trace
    (machine : Machine State Label Event)
    (initial : State) :
    List (State × Label) → List Event → State → Prop where
  | nil :
      Trace machine initial [] [] initial
  | snoc
      {steps : List (State × Label)}
      {log events : List Event}
      {middle final : State}
      (label : Label)
      (earlier : Trace machine initial steps log middle)
      (last : machine.step? middle label = some (final, events)) :
      Trace machine initial (steps ++ [(middle, label)])
        (log ++ events) final

namespace Trace

variable {machine : Machine State Label Event}

theorem run
    {initial final : State}
    {steps : List (State × Label)}
    {log : List Event}
    (trace : Trace machine initial steps log final) :
    Run machine initial log final := by
  induction trace with
  | nil => exact .nil
  | snoc label earlier last inductionHypothesis =>
      exact .snoc label inductionHypothesis last

/-- One step followed by a trace is a trace. -/
theorem cons
    {initial middle final : State}
    {steps : List (State × Label)}
    {events later : List Event}
    (label : Label)
    (first : machine.step? initial label = some (middle, events))
    (trailing : Trace machine middle steps later final) :
    Trace machine initial ((initial, label) :: steps)
      (events ++ later) final := by
  induction trailing with
  | nil => simpa using Trace.snoc label .nil first
  | snoc next earlier last inductionHypothesis =>
      rw [← List.append_assoc, ← List.cons_append]
      exact .snoc next inductionHypothesis last

end Trace

/-- What a step of a trace makes visible. -/
def shown
    (machine : Machine State Label Event)
    (step : State × Label) : List Event :=
  match machine.step? step.1 step.2 with
  | some (_, events) => events
  | none => []

theorem shown_of_step
    {machine : Machine State Label Event}
    {before after : State}
    {label : Label}
    {events : List Event}
    (step : machine.step? before label = some (after, events)) :
    machine.shown (before, label) = events := by
  simp [shown, step]

/-- The log of a trace is what its steps show, one after the other. -/
theorem Trace.log_eq
    {machine : Machine State Label Event}
    {initial final : State}
    {steps : List (State × Label)}
    {log : List Event}
    (trace : Trace machine initial steps log final) :
    log = steps.flatMap machine.shown := by
  induction trace with
  | nil => rfl
  | snoc label earlier last inductionHypothesis =>
      rw [List.flatMap_append, ← inductionHypothesis,
        List.flatMap_singleton, shown_of_step last]

/-- The steps an executed label list takes. -/
def taken
    (machine : Machine State Label Event) :
    State → List Label → List (State × Label)
  | _, [] =>
      []
  | state, label :: rest =>
      (state, label) ::
        match machine.step? state label with
        | none =>
            []
        | some (next, _) =>
            machine.taken next rest

/-- Up to one of its steps, a trace is a trace to the state of that step. -/
theorem Trace.upTo
    {machine : Machine State Label Event}
    {initial final state : State}
    {steps earlier later : List (State × Label)}
    {log : List Event}
    {label : Label}
    (trace : Trace machine initial steps log final)
    (shape : steps = earlier ++ (state, label) :: later) :
    ∃ shown, Trace machine initial earlier shown state := by
  induction trace generalizing later with
  | nil => simp at shape
  | snoc newest previous last inductionHypothesis =>
      rcases List.eq_nil_or_concat later with rfl | ⟨front, latest, rfl⟩
      · obtain ⟨rfl, same⟩ := List.append_inj' shape rfl
        obtain ⟨rfl, -⟩ := Prod.mk.inj (List.singleton_inj.mp same)
        exact ⟨_, previous⟩
      · rw [List.concat_eq_append, ← List.cons_append, ← List.append_assoc]
          at shape
        exact inductionHypothesis (List.append_inj' shape rfl).1

/-- An executed label list is the trace of the steps it takes. -/
theorem run?_taken
    {machine : Machine State Label Event}
    {initial final : State}
    (labels : List Label)
    {log : List Event}
    (executed : machine.run? initial labels = some (final, log)) :
    Trace machine initial (machine.taken initial labels) log final := by
  induction labels generalizing initial log with
  | nil =>
      simp only [run?, Option.some.injEq, Prod.mk.injEq] at executed
      obtain ⟨rfl, rfl⟩ := executed
      exact .nil
  | cons label rest inductionHypothesis =>
      unfold run? at executed
      unfold taken
      cases stepped : machine.step? initial label with
      | none =>
          simp [stepped] at executed
      | some outcome =>
          obtain ⟨next, events⟩ := outcome
          simp only [stepped, Option.map_eq_some_iff,
            Prod.exists, Prod.mk.injEq] at executed
          obtain ⟨last, later, restExecuted, rfl, rfl⟩ := executed
          exact .cons label stepped (inductionHypothesis restExecuted)

/-- An executed label list is a trace. -/
theorem run?_trace
    {machine : Machine State Label Event}
    {initial final : State}
    (labels : List Label)
    {log : List Event}
    (executed : machine.run? initial labels = some (final, log)) :
    ∃ steps, Trace machine initial steps log final :=
  ⟨_, run?_taken labels executed⟩

/-- An executed label list is a run. -/
theorem run?_sound
    {machine : Machine State Label Event}
    {initial final : State}
    (labels : List Label)
    {log : List Event}
    (executed : machine.run? initial labels = some (final, log)) :
    Run machine initial log final :=
  (run?_taken labels executed).run

/--
A simulation of a concrete machine by an abstract one.

`good` is an invariant of the concrete machine that the step obligation may
use; one concrete step may take any number of abstract steps.
-/
structure Simulation
    {State' : Type u} {Label' : Type v} {Event' : Type w}
    (concrete : Machine State Label Event)
    (abstract : Machine State' Label' Event') where
  view : State → State'
  observe : Event → List Event'
  good : State → Prop
  preserved :
    ∀ {before label after events},
      good before →
      concrete.step? before label = some (after, events) →
      good after
  matched :
    ∀ {before label after events},
      good before →
      concrete.step? before label = some (after, events) →
      Run abstract (view before)
        (events.flatMap observe) (view after)

/-- Every concrete run from a good state is observed as an abstract run. -/
theorem Simulation.run
    {State' : Type u} {Label' : Type v} {Event' : Type w}
    {concrete : Machine State Label Event}
    {abstract : Machine State' Label' Event'}
    (simulation : Simulation concrete abstract)
    {initial final : State}
    {log : List Event}
    (run : Run concrete initial log final)
    (initially : simulation.good initial) :
    Run abstract (simulation.view initial)
      (log.flatMap simulation.observe)
      (simulation.view final) := by
  induction run with
  | nil =>
      exact .nil
  | snoc label earlier last inductionHypothesis =>
      rw [List.flatMap_append]
      exact inductionHypothesis.append
        (simulation.matched
          (earlier.invariant simulation.good simulation.preserved initially)
          last)

end Machine

/-- Each event of a log, seen with the log before it, has the property. -/
def AtEach
    {Event : Type w}
    (property : List Event → Event → Prop)
    (log : List Event) : Prop :=
  ∀ earlier event later,
    log = earlier ++ event :: later → property earlier event

namespace AtEach

variable {Event : Type w} {property : List Event → Event → Prop}
  {log : List Event}

theorem nil : AtEach property [] := by
  intro earlier event later shape
  simp at shape

/-- A log with one more event: the new event is seen with all before it. -/
theorem snoc
    {event : Event}
    (atEach : AtEach property log)
    (newest : property log event) :
    AtEach property (log ++ [event]) := by
  intro earlier shown later shape
  rcases List.eq_nil_or_concat later with rfl | ⟨front, last, rfl⟩
  · obtain ⟨rfl, same⟩ := List.append_inj' shape rfl
    obtain rfl : event = shown := by simpa using same
    exact newest
  · have regrouped :
        log ++ [event] = (earlier ++ shown :: front) ++ [last] := by
      simpa using shape
    obtain ⟨rfl, -⟩ := List.append_inj' regrouped rfl
    exact atEach earlier shown front rfl

/-- A step with two events. -/
theorem snoc_two
    {first second : Event}
    (atEach : AtEach property log)
    (one : property log first)
    (two : property (log ++ [first]) second) :
    AtEach property (log ++ [first, second]) := by
  have both := (atEach.snoc one).snoc two
  simpa using both

/-- Events that have the property whatever comes before them. -/
theorem append
    {events : List Event}
    (atEach : AtEach property log)
    (newest : ∀ event ∈ events, ∀ earlier, property earlier event) :
    AtEach property (log ++ events) := by
  induction events generalizing log with
  | nil =>
      simpa using atEach
  | cons event rest inductionHypothesis =>
      have extended :=
        atEach.snoc (newest event List.mem_cons_self log)
      have all :=
        inductionHypothesis extended fun other member =>
          newest other (List.mem_cons_of_mem event member)
      simpa using all

end AtEach

/-- An event with the property has occurred since the last one that clears. -/
def SinceLast
    {Event : Type w}
    (clears property : Event → Prop)
    (log : List Event) : Prop :=
  ∃ earlier event later,
    log = earlier ++ event :: later ∧ property event ∧
      ∀ other ∈ later, ¬ clears other

namespace SinceLast

variable {Event : Type w} {clears property : Event → Prop} {log : List Event}

theorem not_nil : ¬ SinceLast clears property [] := by
  rintro ⟨earlier, event, later, shape, -⟩
  simp at shape

/-- One more event: it has the property, or leaves things as they were. -/
theorem snoc_iff {event : Event} :
    SinceLast clears property (log ++ [event]) ↔
      property event ∨ ¬ clears event ∧ SinceLast clears property log := by
  constructor
  · rintro ⟨earlier, shown, later, shape, holds, keeps⟩
    rcases List.eq_nil_or_concat later with rfl | ⟨front, last, rfl⟩
    · obtain ⟨-, same⟩ := List.append_inj' shape rfl
      obtain rfl : event = shown := by simpa using same
      exact .inl holds
    · have regrouped :
          log ++ [event] = (earlier ++ shown :: front) ++ [last] := by
        simpa using shape
      obtain ⟨rfl, same⟩ := List.append_inj' regrouped rfl
      obtain rfl : event = last := by simpa using same
      exact .inr ⟨keeps event (by simp), earlier, shown, front, rfl, holds,
        fun other member => keeps other (by simp [member])⟩
  · rintro (holds | ⟨keeps, earlier, shown, later, rfl, holds, kept⟩)
    · exact ⟨log, event, [], rfl, holds, by simp⟩
    · refine ⟨earlier, shown, later ++ [event], by simp, holds, ?_⟩
      intro other member
      rcases List.mem_append.mp member with older | newest
      · exact kept other older
      · rwa [List.mem_singleton.mp newest]

/-- Events without the property cannot bring it about. -/
theorem of_append
    {events : List Event}
    (since : SinceLast clears property (log ++ events))
    (lacks : ∀ event ∈ events, ¬ property event) :
    SinceLast clears property log := by
  obtain ⟨earlier, event, later, shape, holds, kept⟩ := since
  rcases List.append_eq_append_iff.mp shape with
    ⟨front, -, rest⟩ | ⟨back, rfl, rest⟩
  · have member : event ∈ events := by
      rw [rest]
      simp
    exact absurd holds (lacks event member)
  · cases back with
    | nil =>
        have member : event ∈ events := by
          rw [← List.nil_append events, ← rest]
          exact List.mem_cons_self
        exact absurd holds (lacks event member)
    | cons first back =>
        obtain ⟨rfl, rfl⟩ := List.cons.inj rest
        exact ⟨earlier, event, back, rfl, holds, fun other member =>
          kept other (List.mem_append_left events member)⟩

/-- Events that neither have the property nor clear. -/
theorem append_iff
    {events : List Event}
    (silent : ∀ event ∈ events, ¬ property event ∧ ¬ clears event) :
    SinceLast clears property (log ++ events) ↔
      SinceLast clears property log := by
  induction events generalizing log with
  | nil => simp
  | cons event rest inductionHypothesis =>
      obtain ⟨lacks, keeps⟩ := silent event List.mem_cons_self
      rw [← List.singleton_append, ← List.append_assoc,
        inductionHypothesis fun other member =>
          silent other (List.mem_cons_of_mem event member), snoc_iff]
      simp [lacks, keeps]

end SinceLast

/-- A subsequence of a log with one more event uses that event or does not. -/
theorem sublist_snoc_iff
    {Event : Type w}
    (front : List Event)
    (last : Event)
    {log : List Event}
    {event : Event} :
    (front ++ [last]).Sublist (log ++ [event]) ↔
      (front ++ [last]).Sublist log ∨ last = event ∧ front.Sublist log := by
  constructor
  · intro sublist
    obtain ⟨first, second, shape, earlier, newest⟩ :=
      List.sublist_append_iff.mp sublist
    rcases List.sublist_singleton.mp newest with rfl | rfl
    · rw [List.append_nil] at shape
      exact .inl (shape ▸ earlier)
    · obtain ⟨rfl, same⟩ := List.append_inj' shape rfl
      exact .inr ⟨by simpa using same, earlier⟩
  · rintro (older | ⟨rfl, earlier⟩)
    · exact older.trans (List.sublist_append_left log [event])
    · exact earlier.append (List.Sublist.refl [last])

end Runact
