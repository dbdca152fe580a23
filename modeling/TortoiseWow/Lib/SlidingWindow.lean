import Mathlib

/-!
Limits on how often something happens within any window of a fixed width. A log
of times that is extended only while the entries still in reach of the present
leave room never breaks the limit, wherever the window starts.
-/

namespace Lib

def inWindow (start width time : Nat) : Bool := decide (start ≤ time ∧ time < start + width)

def Limited (max width : Nat) (times : List Nat) : Prop :=
  ∀ start, times.countP (inWindow start width) ≤ max

theorem limited_nil (max width : Nat) : Limited max width [] := fun _ => Nat.zero_le _

/-- The last entry decides: a window it falls into holds only entries it can see. -/
theorem Limited.cons {max width now : Nat} {times : List Nat} (h : Limited max width times)
    (past : ∀ time ∈ times, time ≤ now)
    (room : times.countP (fun time => decide (now < time + width)) < max) :
    Limited max width (now :: times) := by
  intro start
  rw [List.countP_cons]
  split
  · rename_i inside
    simp only [inWindow, decide_eq_true_eq] at inside
    have seen : times.countP (inWindow start width) ≤
        times.countP (fun time => decide (now < time + width)) := by
      apply List.countP_mono_left
      intro time mem hit
      simp only [inWindow, decide_eq_true_eq] at hit ⊢
      have := past time mem
      omega
    omega
  · exact h start

end Lib
