import Mathlib

/-!
The purse. `Player::ModifyMoney` takes a signed 32-bit delta and clamps at zero
and at `MAX_MONEY_AMOUNT`, with the comparisons made on unsigned values as the
source makes them. The money-changed script hook is taken to leave the delta
alone. Signed negation and casts are two's complement.

The two main results say for which amounts a call really moves the amount it
was asked to move.
-/

namespace TortoiseWow

def maxMoneyAmount : UInt32 := 0x7FFFFFFE

def modifyMoney (money : UInt32) (d : Int32) : UInt32 :=
  if d < 0 then
    if money > (-d).toUInt32 then money + d.toUInt32 else 0
  else
    if money < maxMoneyAmount - d.toUInt32 then money + d.toUInt32 else maxMoneyAmount

theorem toInt32_neg_iff (m : UInt32) : m.toInt32 < 0 ↔ 2147483648 ≤ m.toNat := by
  have value := m.toBitVec.toInt_eq_toNat_cond
  have bound := m.toNat_lt
  rw [UInt32.toNat_toBitVec] at value
  rw [Int32.lt_iff_toInt_lt]
  change m.toBitVec.toInt < 0 ↔ _
  rw [value]
  split <;> omega

/-- The purse after a delta given by its unsigned pattern, in natural numbers. -/
theorem toNat_modifyMoney (money u : UInt32) :
    (modifyMoney money u.toInt32).toNat =
      if 2147483648 ≤ u.toNat then
        if 4294967296 - u.toNat < money.toNat then money.toNat + u.toNat - 4294967296 else 0
      else if u.toNat = 2147483647 then
        if money.toNat < 4294967295 then (money.toNat + u.toNat) % 4294967296 else 2147483646
      else if money.toNat + u.toNat < 2147483646 then money.toNat + u.toNat
      else 2147483646 := by
  have hu := u.toNat_lt
  have hm := money.toNat_lt
  have back : (-u.toInt32).toUInt32 = -u := rfl
  have negated : (-u).toNat = (4294967296 - u.toNat) % 4294967296 := UInt32.toNat_neg u
  have cap : maxMoneyAmount.toNat = 2147483646 := rfl
  have room : (maxMoneyAmount - u).toNat =
      (4294967296 - u.toNat + 2147483646) % 4294967296 := by
    rw [UInt32.toNat_sub, cap]
  unfold modifyMoney
  rw [back]
  simp only [toInt32_neg_iff, UInt32.toUInt32_toInt32, gt_iff_lt, UInt32.lt_iff_toNat_lt,
    negated, room]
  split
  · split
    · rw [UInt32.toNat_add, if_pos (by omega)]
      omega
    · rw [if_neg (by omega)]
      rfl
  · split
    · rw [UInt32.toNat_add]
      split_ifs <;> omega
    · rw [cap]
      split_ifs <;> omega

/-- A credit adds exactly its amount when the purse has room, and also for the one amount
above the cap at which the unsigned comparison wraps. -/
theorem modifyMoney_credit_iff (money m : UInt32) :
    (modifyMoney money m.toInt32).toNat = money.toNat + m.toNat ↔
      money.toNat + m.toNat ≤ 2147483646 ∨
        m.toNat = 2147483647 ∧ money.toNat + m.toNat < 4294967296 := by
  have hm := m.toNat_lt
  have hp := money.toNat_lt
  rw [toNat_modifyMoney]
  split_ifs <;> omega

/-- A debit that the purse covers takes exactly its amount up to `2^31 + 1`; a debit of
nothing still clamps the purse. -/
theorem modifyMoney_debit_iff {money m : UInt32} (covered : m.toNat ≤ money.toNat) :
    (modifyMoney money (-m.toInt32)).toNat + m.toNat = money.toNat ↔
      m.toNat ≤ 2147483649 ∧ (m.toNat = 0 → money.toNat ≤ 2147483646) := by
  have hm := m.toNat_lt
  have hp := money.toNat_lt
  have negated : (-m).toNat = (4294967296 - m.toNat) % 4294967296 := UInt32.toNat_neg m
  have cast : -m.toInt32 = (-m).toInt32 := rfl
  rw [cast, toNat_modifyMoney, negated]
  split_ifs <;> omega

theorem modifyMoney_debit {money m : UInt32} (covered : m.toNat ≤ money.toNat)
    (positive : 0 < m.toNat) (small : m.toNat ≤ 2147483649) :
    (modifyMoney money (-m.toInt32)).toNat + m.toNat = money.toNat :=
  (modifyMoney_debit_iff covered).mpr ⟨small, fun zero => by omega⟩

end TortoiseWow
