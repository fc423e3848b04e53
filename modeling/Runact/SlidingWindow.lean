import Mathlib

namespace Runact.SlidingWindow

/-!
# Counting in sliding windows

How many of some points of time lie in a closed window.  Two groups of points
that lie further apart than the window is wide are never counted together, so a
bound on each group bounds their union.

This module is independent of any particular program.
-/

/-- The time lies in the closed window. -/
def inWindow (start stop time : Nat) : Bool :=
  decide (start ≤ time ∧ time ≤ stop)

/-- How many of the times lie in the window. -/
def countIn (start stop : Nat) (times : List Nat) : Nat :=
  times.countP (inWindow start stop)

@[simp] theorem countIn_nil (start stop : Nat) :
    countIn start stop [] = 0 :=
  List.countP_nil

@[simp] theorem countIn_append
    (start stop : Nat)
    (earlier later : List Nat) :
    countIn start stop (earlier ++ later) =
      countIn start stop earlier + countIn start stop later :=
  List.countP_append

theorem countIn_replicate
    (start stop count time : Nat) :
    countIn start stop (List.replicate count time) =
      if inWindow start stop time then count else 0 :=
  List.countP_replicate

theorem countIn_le_length
    (start stop : Nat)
    (times : List Nat) :
    countIn start stop times ≤ times.length :=
  List.countP_le_length

/-- Everything is counted exactly when everything lies in the window. -/
theorem countIn_eq_length_iff
    {start stop : Nat}
    {times : List Nat} :
    countIn start stop times = times.length ↔
      ∀ time ∈ times, start ≤ time ∧ time ≤ stop := by
  simp [countIn, List.countP_eq_length, inWindow]

/-- A window that reaches a time is too short for times too far behind it. -/
theorem countIn_eq_zero_of_apart
    {start width : Nat}
    {times : List Nat}
    {reached : Nat}
    (inside : start ≤ reached)
    (apart : ∀ time ∈ times, reached + width < time) :
    countIn start (start + width) times = 0 := by
  refine List.countP_eq_zero.mpr fun time member => ?_
  have far := apart time member
  simp only [inWindow, decide_eq_true_eq]
  omega

/-- Groups further apart than the window is wide do not add up. -/
theorem countIn_append_le
    {width bound : Nat}
    {earlier later : List Nat}
    (apart :
      ∀ first ∈ earlier, ∀ second ∈ later, first + width < second)
    (start : Nat)
    (earlierBound : countIn start (start + width) earlier ≤ bound)
    (laterBound : countIn start (start + width) later ≤ bound) :
    countIn start (start + width) (earlier ++ later) ≤ bound := by
  rw [countIn_append]
  by_cases none : countIn start (start + width) earlier = 0
  · omega
  · obtain ⟨first, member, inside⟩ :=
      List.countP_pos_iff.mp (Nat.pos_of_ne_zero none)
    simp only [inWindow, decide_eq_true_eq] at inside
    have empty : countIn start (start + width) later = 0 :=
      countIn_eq_zero_of_apart inside.1 (apart first member)
    omega

end Runact.SlidingWindow
