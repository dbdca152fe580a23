import Mathlib

/-!
The order of the fixed-width integers, as ordered maps with such keys need it, and
masks over disjunctions of flags.
-/

namespace Lib

instance linearOrderUInt8 : LinearOrder UInt8 where
  le_refl _ := UInt8.le_refl _
  le_trans _ _ _ := UInt8.le_trans
  le_antisymm _ _ := UInt8.le_antisymm
  le_total := UInt8.le_total
  lt_iff_le_not_ge _ _ := UInt8.lt_iff_le_and_ne.trans
    ⟨fun h => ⟨h.1, fun hge => h.2 (UInt8.le_antisymm h.1 hge)⟩,
      fun h => ⟨h.1, fun heq => h.2 (heq ▸ UInt8.le_refl _)⟩⟩
  toDecidableLE := inferInstance

instance linearOrderUInt32 : LinearOrder UInt32 where
  le_refl _ := UInt32.le_refl _
  le_trans _ _ _ := UInt32.le_trans
  le_antisymm _ _ := UInt32.le_antisymm
  le_total := UInt32.le_total
  lt_iff_le_not_ge _ _ := UInt32.lt_iff_le_and_ne.trans
    ⟨fun h => ⟨h.1, fun hge => h.2 (UInt32.le_antisymm h.1 hge)⟩,
      fun h => ⟨h.1, fun heq => h.2 (heq ▸ UInt32.le_refl _)⟩⟩
  toDecidableLE := inferInstance

instance linearOrderUInt64 : LinearOrder UInt64 where
  le_refl _ := UInt64.le_refl _
  le_trans _ _ _ := UInt64.le_trans
  le_antisymm _ _ := UInt64.le_antisymm
  le_total := UInt64.le_total
  lt_iff_le_not_ge _ _ := UInt64.lt_iff_le_and_ne.trans
    ⟨fun h => ⟨h.1, fun hge => h.2 (UInt64.le_antisymm h.1 hge)⟩,
      fun h => ⟨h.1, fun heq => h.2 (heq ▸ UInt64.le_refl _)⟩⟩
  toDecidableLE := inferInstance

section Masks

theorem or_and_uint8 (a b c : UInt8) : (a ||| b) &&& c = a &&& c ||| b &&& c := by
  apply UInt8.toBitVec_inj.mp
  simp only [UInt8.toBitVec_and, UInt8.toBitVec_or]
  exact BitVec.and_or_distrib_right

theorem or_and_uint32 (a b c : UInt32) : (a ||| b) &&& c = a &&& c ||| b &&& c := by
  apply UInt32.toBitVec_inj.mp
  simp only [UInt32.toBitVec_and, UInt32.toBitVec_or]
  exact BitVec.and_or_distrib_right

theorem and_or_uint32 (a b c : UInt32) : a &&& (b ||| c) = a &&& b ||| a &&& c := by
  apply UInt32.toBitVec_inj.mp
  simp only [UInt32.toBitVec_and, UInt32.toBitVec_or]
  exact BitVec.and_or_distrib_left

/-- A mask of one bit leaves nothing or itself. -/
theorem and_bit_uint32 (a : UInt32) {bit : UInt32} {i : Nat} (single : bit.toNat = 2 ^ i) :
    a &&& bit = 0 ∨ a &&& bit = bit := by
  have value : (a &&& bit).toNat = (a.toNat.testBit i).toNat * bit.toNat := by
    rw [UInt32.toNat_and, single]
    exact Nat.and_two_pow a.toNat i
  cases set : a.toNat.testBit i with
  | false =>
      left
      apply UInt32.toNat_inj.mp
      rw [value, set, Bool.toNat_false, Nat.zero_mul]
      rfl
  | true =>
      right
      apply UInt32.toNat_inj.mp
      rw [value, set, Bool.toNat_true, Nat.one_mul]

end Masks

end Lib
