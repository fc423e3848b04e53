import Runact.Scheduler

namespace Runact.Scheduler

/-!
# One pass of an idle worker

A worker that finds its own queue empty scans the queues of all others, in
order, and stops at the first that gives something away.  `steal_half` rounds
down, so a queue with one task gives nothing: what the pass obtains depends on
whether some other queue holds two.
-/

universe u

variable {workers : Nat} {Task : Type u}

/-- The next step of one worker, as long as it is not back at the top of its
loop. -/
def insidePass
    (id : Fin workers)
    (scheduler : Scheduler workers Task) : Label workers Task → Bool
  | .worker other =>
      decide (other = id) &&
        match scheduler.positions id with
        | .checkingStop => false
        | _ => true
  | _ => false

/-- The worker goes on alone until it is back at the top of its loop. -/
structure Pass
    [NeZero workers]
    (id : Fin workers)
    (before after : Scheduler workers Task)
    (log : List (Event workers Task)) : Prop where
  alone :
    ∃ count,
      ((machine workers Task).restrict (insidePass id)).run? before
          (List.replicate count (.worker id)) = some (after, log)
  ended : after.positions id = .checkingStop

/-- What a pass that starts with an empty queue ends in. -/
inductive PassOutcome
    (id : Fin workers)
    (before : Scheduler workers Task) :
    Scheduler workers Task → List (Event workers Task) → Prop where
  | stole (victim : Fin workers) (batch kept : List Task) :
      victim ≠ id →
      (before.queues victim).stealHalf = (batch, kept) →
      batch ≠ [] →
      PassOutcome id before
        (((before.setQueue victim kept).setQueue id batch).setPosition
          id .checkingStop)
        (.stolen victim id batch :: batch.map (.repushed id))
  | idle :
      (∀ other, other ≠ id → (before.queues other).length ≤ 1) →
      PassOutcome id before (before.setPosition id .checkingStop) []

/-- Where the worker stood before does not matter to the outcome. -/
theorem PassOutcome.of_setPosition
    {id : Fin workers}
    {position : WorkerPosition workers Task}
    {before after : Scheduler workers Task}
    {log : List (Event workers Task)}
    (outcome : PassOutcome id (before.setPosition id position) after log) :
    PassOutcome id before after log := by
  cases outcome with
  | stole victim batch kept different shape nonempty =>
      have stole : PassOutcome id before _ _ :=
        .stole victim batch kept different shape nonempty
      simpa [setPosition, setQueue] using stole
  | idle short =>
      have idle : PassOutcome id before _ _ := .idle short
      simpa [setPosition] using idle

/-- A queue gives nothing away exactly when it holds at most one task. -/
theorem stealHalf_eq_nil_iff (queue : RunQueue Task) :
    queue.stealHalf.1 = [] ↔ queue.length ≤ 1 := by
  constructor
  · intro nothing
    by_contra long
    have taken : (queue.take (queue.length / 2)).length = 0 := by
      simpa [RunQueue.stealHalf, long] using nothing
    rw [List.length_take] at taken
    omega
  · intro short
    rw [RunQueue.stealHalf_of_length_le_one short]

section

variable [NeZero workers] {id : Fin workers}

theorem pass_ended
    {scheduler : Scheduler workers Task}
    (position : scheduler.positions id = .checkingStop) :
    Pass id scheduler scheduler [] where
  alone := ⟨0, rfl⟩
  ended := position

/-- A step of the worker, and the rest of the pass. -/
theorem Pass.cons
    {before middle after : Scheduler workers Task}
    {events later : List (Event workers Task)}
    (begun : before.positions id ≠ .checkingStop)
    (step : WorkerStep before id middle events)
    (pass : Pass id middle after later) :
    Pass id before after (events ++ later) where
  alone := by
    obtain ⟨count, executed⟩ := pass.alone
    have allowed : insidePass id before (.worker id) = true := by
      cases position : before.positions id <;>
        simp_all [insidePass]
    have taken :
        ((machine workers Task).restrict (insidePass id)).step? before
            (.worker id) = some (middle, events) :=
      Machine.restrict_step_iff.mpr ⟨allowed, workerStep?_iff.mpr step⟩
    refine ⟨count + 1, ?_⟩
    rw [List.replicate_succ]
    simp [Machine.run?, taken, executed]
  ended := pass.ended

/-- The worker pushes its batch, task by task. -/
theorem pass_pushing
    {batch : List Task}
    {scheduler : Scheduler workers Task}
    (position : scheduler.positions id = .pushing batch) :
    Pass id scheduler
      ((scheduler.setQueue id (scheduler.queues id ++ batch)).setPosition
        id .checkingStop)
      (batch.map (.repushed id)) := by
  have begun : scheduler.positions id ≠ .checkingStop := by
    simp [position]
  induction batch generalizing scheduler with
  | nil =>
      have unchanged :
          scheduler.setQueue id (scheduler.queues id ++ []) =
            scheduler := by
        simp [setQueue]
      rw [unchanged]
      exact Pass.cons begun (.pushed position)
        (pass_ended (by simp))
  | cons task rest inductionHypothesis =>
      have pushed :=
        Pass.cons begun (.repush task rest position)
          (inductionHypothesis (by simp)
            (by simp))
      simpa [setPosition, setQueue, RunQueue.push] using pushed

/-- The scan: it stops at the first target that gives something away. -/
theorem pass_stealing
    {targets : List (Fin workers)}
    {scheduler : Scheduler workers Task}
    (position : scheduler.positions id = .stealing targets)
    (empty : scheduler.queues id = [])
    (notOwn : id ∉ targets)
    (others :
      ∀ other, other ≠ id → other ∉ targets →
        (scheduler.queues other).length ≤ 1) :
    ∃ after log,
      Pass id scheduler after log ∧ PassOutcome id scheduler after log := by
  have begun : scheduler.positions id ≠ .checkingStop := by
    simp [position]
  induction targets generalizing scheduler with
  | nil =>
      exact ⟨_, [], Pass.cons begun (.yield position)
        (pass_ended (by simp)),
        .idle fun other different => others other different (by simp)⟩
  | cons target rest inductionHypothesis =>
      have different : target ≠ id := fun same =>
        notOwn (by simp [same])
      rcases shape : (scheduler.queues target).stealHalf with ⟨batch, kept⟩
      by_cases nothing : batch = []
      · -- this queue is too short, the scan goes on
        have refused : (scheduler.queues target).stealHalf.1 = [] := by
          rw [shape, nothing]
        have short := (stealHalf_eq_nil_iff _).mp refused
        obtain ⟨after, log, pass, outcome⟩ :
            ∃ after log,
              Pass id (scheduler.setPosition id (.stealing rest))
                  after log ∧
                PassOutcome id (scheduler.setPosition id (.stealing rest))
                  after log := by
          refine inductionHypothesis (by simp) empty
            (fun member => notOwn (by simp [member]))
            (fun other notId unlisted => ?_) (by simp)
          by_cases here : other = target
          · rw [here]
            exact short
          · exact others other notId (by simp [here, unlisted])
        exact ⟨after, log,
          Pass.cons begun (.refused target rest position refused) pass,
          outcome.of_setPosition⟩
      · have pushing :
            ((scheduler.setQueue target kept).setPosition id
              (.pushing batch)).positions id = .pushing batch := by
          simp
        have stolen :=
          Pass.cons begun (.steal target rest batch kept position shape
            nothing) (pass_pushing pushing)
        have own :
            Function.update scheduler.queues target kept id = [] := by
          rw [Function.update_of_ne different.symm, empty]
        refine ⟨_, _, ?_, .stole target batch kept different shape nothing⟩
        simpa [setPosition, setQueue, own] using stolen

/--
A pass that starts with an empty queue obtains tasks exactly when some other
queue holds at least two; the worker is idle after it only if every other queue
holds at most one.
-/
theorem pass_obtains_iff
    {scheduler : Scheduler workers Task}
    (popping : scheduler.positions id = .popping)
    (empty : scheduler.queues id = []) :
    ∃ after log,
      Pass id scheduler after log ∧
        PassOutcome id scheduler after log ∧
        (after.queues id ≠ [] ↔
          ∃ other, other ≠ id ∧ 2 ≤ (scheduler.queues other).length) := by
  have scanning :
      (scheduler.setPosition id (.stealing (stealTargets id))).positions id =
        .stealing (stealTargets id) := by
    simp
  have all (other : Fin workers) (different : other ≠ id) :
      other ∈ stealTargets id := by
    simp [stealTargets, different]
  obtain ⟨after, log, pass, outcome⟩ :=
    pass_stealing scanning empty (by simp [stealTargets])
      (fun other different unlisted =>
        absurd (all other different) unlisted)
  have begun : scheduler.positions id ≠ .checkingStop := by
    simp [popping]
  have outcome := outcome.of_setPosition
  refine ⟨after, log, Pass.cons begun (.empty popping empty) pass, outcome,
    ?_⟩
  cases outcome with
  | stole victim batch kept different shape nonempty =>
      refine iff_of_true (by simpa [setPosition, setQueue])
        ⟨victim, different, ?_⟩
      by_contra short
      have nothing :=
        (stealHalf_eq_nil_iff (scheduler.queues victim)).mpr (by omega)
      rw [shape] at nothing
      exact nonempty nothing
  | idle short =>
      refine iff_of_false (by simpa [setPosition] using empty) ?_
      rintro ⟨other, different, long⟩
      have bound := short other different
      omega

end

/-- The second worker has run its own task, and the first has two waiting. -/
def twoWaiting
    {workers : Nat}
    (second : Fin workers) : List (Label workers Nat) :=
  [.claim 10, .push 0, .claim 11, .push 0, .claim 12, .push 0,
    .worker second, .worker second, .finish second, .worker second]

theorem pass_obtains_iff_twoWaiting :
    ∃ scheduler log after later,
      (machine 2 Nat).run? (new 2 Nat) (twoWaiting 1) =
          some (scheduler, log) ∧
        scheduler.queues 0 = [10, 12] ∧
        Pass 1 scheduler after later ∧
        (after.queues 1 ≠ [] ↔
          ∃ other, other ≠ 1 ∧ 2 ≤ (scheduler.queues other).length) := by
  obtain ⟨scheduler, log, executed, waiting, popping, empty⟩ :
      ∃ scheduler log,
        (machine 2 Nat).run? (new 2 Nat) (twoWaiting 1) =
            some (scheduler, log) ∧
          scheduler.queues 0 = [10, 12] ∧
          scheduler.positions 1 = .popping ∧
          scheduler.queues 1 = [] :=
    ⟨_, _, rfl, rfl, rfl, rfl⟩
  obtain ⟨after, later, pass, -, obtains⟩ := pass_obtains_iff popping empty
  exact ⟨scheduler, log, after, later, executed, waiting, pass, obtains⟩

/-- The only task of the first worker's queue is refused to the second, which
goes idle beside it. -/
theorem single_task_refused :
    ∃ scheduler log after,
      (machine 2 Nat).run? (new 2 Nat) [.claim 7, .push 0, .worker 1] =
          some (scheduler, log) ∧
        scheduler.positions 1 = .popping ∧
        scheduler.queues 1 = [] ∧
        scheduler.queues 0 = [7] ∧
        Pass 1 scheduler after [] ∧
        after.queues 1 = [] :=
  ⟨_, _, _, rfl, rfl, rfl, rfl, ⟨⟨3, rfl⟩, rfl⟩, rfl⟩

end Runact.Scheduler
