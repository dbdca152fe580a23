import Mathlib.Data.List.Basic
import Mathlib.Tactic.Ring

/-!
Numbers by their bytes, the lowest one first.
-/

namespace Lib

def leBytes : Nat → Nat → List UInt8
  | 0, _ => []
  | count + 1, n => UInt8.ofNat n :: leBytes count (n / 256)

def leValue : List UInt8 → Nat
  | [] => 0
  | byte :: rest => byte.toNat + 256 * leValue rest

@[simp] theorem length_leBytes (count n : Nat) : (leBytes count n).length = count := by
  induction count generalizing n with
  | zero => rfl
  | succ count ih => rw [leBytes, List.length_cons, ih]

theorem leValue_leBytes {count n : Nat} (small : n < 256 ^ count) :
    leValue (leBytes count n) = n := by
  induction count generalizing n with
  | zero =>
      rw [Nat.pow_zero] at small
      rw [leBytes, leValue]
      omega
  | succ count ih =>
      have rest : n / 256 < 256 ^ count := by
        rw [Nat.pow_succ, Nat.mul_comm] at small
        exact Nat.div_lt_of_lt_mul small
      rw [leBytes, leValue, ih rest, UInt8.toNat_ofNat']
      omega

end Lib
