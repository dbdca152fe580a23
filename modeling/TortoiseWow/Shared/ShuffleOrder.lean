import Mathlib.Algebra.Order.Field.Rat
import Mathlib.Data.Nat.Cast.Order.Ring
import Mathlib.Tactic.NormNum
import TortoiseWow.Shared.PositiveWeightedShuffle

/-!
The tree holds the weights that are still to be drawn, so that a round of the shuffle selects
what a scan of the remaining suffix selects.
-/

namespace TortoiseWow.ManTech

open Lib Lib.Fenwick

variable {α β : Type}

theorem add64_of_le {a b : Nat} (le : a + b ≤ 2 ^ 64 - 1) : add64 a b = a + b :=
  Nat.mod_eq_of_lt (by omega)

theorem sub64_add {a b : Nat} (small : a + b < 2 ^ 64) : sub64 (a + b) b = a := by
  have wrapped : a + b + (2 ^ 64 - b) = a + 2 ^ 64 := by omega
  rw [sub64, wrapped, Nat.add_mod_right, Nat.mod_eq_of_lt (by omega)]

theorem swap_length (xs : List α) (i j : Nat) : (swap xs i j).length = xs.length := by
  rw [swap, Array.length_toList, Array.size_swapIfInBounds, List.size_toArray]

theorem swap_perm (xs : List α) (i j : Nat) : (swap xs i j).Perm xs := by
  rw [swap, Array.swapIfInBounds]
  split
  · split
    · exact (Array.swap_perm _ _).toList
    · exact List.Perm.refl xs
  · exact List.Perm.refl xs

theorem getElem_swap {xs : List α} {i j k : Nat} (hi : i < xs.length) (hj : j < xs.length)
    (hk : k < xs.length) (inside : k < (swap xs i j).length) :
    (swap xs i j)[k] = if k = i then xs[j] else if k = j then xs[i] else xs[k] := by
  simp only [swap, Array.getElem_toList, Array.getElem_swapIfInBounds, List.getElem_toArray,
    List.size_toArray, hi, hj, and_true]
  rfl

theorem swap_self {xs : List α} {i : Nat} (hi : i < xs.length) : swap xs i i = xs := by
  apply List.ext_getElem (swap_length xs i i)
  intro k _ inside
  rw [getElem_swap hi hi inside]
  split
  · next same => subst same; rfl
  · rfl

theorem getD_swap {xs : List α} {i j : Nat} (hi : i < xs.length) (hj : j < xs.length) (k : Nat)
    (d : α) : (swap xs i j).getD k d =
      if k = i then xs.getD j d else if k = j then xs.getD i d else xs.getD k d := by
  by_cases inside : k < xs.length
  · have placed : k < (swap xs i j).length := by rwa [swap_length]
    rw [List.getD_eq_getElem _ _ placed, List.getD_eq_getElem _ _ inside,
      List.getD_eq_getElem _ _ hi, List.getD_eq_getElem _ _ hj, getElem_swap hi hj inside]
  · have placed : (swap xs i j).length ≤ k := by rw [swap_length]; omega
    have notI : k ≠ i := by omega
    have notJ : k ≠ j := by omega
    rw [if_neg notI, if_neg notJ, List.getD_eq_default _ _ placed,
      List.getD_eq_default _ _ (Nat.le_of_not_lt inside)]

theorem zip_swap {xs : List α} {ys : List β} {i j : Nat} (same : xs.length = ys.length)
    (hi : i < xs.length) (hj : j < xs.length) :
    (swap xs i j).zip (swap ys i j) = swap (xs.zip ys) i j := by
  have length : (xs.zip ys).length = xs.length := by rw [List.length_zip, ← same, Nat.min_self]
  apply List.ext_getElem
  · rw [List.length_zip, swap_length, swap_length, swap_length, List.length_zip]
  · intro k inside _
    have hk : k < xs.length := by
      rw [List.length_zip, swap_length, swap_length, ← same, Nat.min_self] at inside
      exact inside
    rw [List.getElem_zip, getElem_swap hi hj hk, getElem_swap (same ▸ hi) (same ▸ hj) (same ▸ hk),
      getElem_swap (length ▸ hi) (length ▸ hj) (length ▸ hk)]
    split
    · exact List.getElem_zip.symm
    · split
      · exact List.getElem_zip.symm
      · exact List.getElem_zip.symm

/-- The weight at a position of the tree when so many were drawn. -/
def remaining (weights : List Nat) (first p : Nat) : Nat :=
  if p ≤ first then 0 else weights.getD (p - 1) 0

theorem sum_remaining (weights : List Nat) (first b : Nat) :
    ∑ p ∈ Finset.Ioc 0 b, remaining weights first p =
      ((weights.drop first).take (b - first)).sum := by
  induction b with
  | zero => simp
  | succ b ih =>
      rw [← Finset.insert_Ioc_right_eq_Ioc_add_one (Nat.zero_le b),
        Finset.sum_insert (by simp), ih, remaining]
      by_cases drawn : b + 1 ≤ first
      · rw [if_pos drawn, Nat.sub_eq_zero_of_le drawn, Nat.sub_eq_zero_of_le (by omega)]
        rfl
      · have next : b + 1 - first = b - first + 1 := by omega
        have place : first + (b - first) = b := by omega
        rw [if_neg drawn, next, List.take_add_one, List.getElem?_drop, place, List.sum_append,
          Nat.add_sub_cancel, Nat.add_comm, List.getD_eq_getElem?_getD]
        cases weights[b]? with
        | none => simp
        | some weight => simp

theorem sum_remaining_all {weights : List Nat} {first : Nat} :
    ∑ p ∈ Finset.Ioc 0 weights.length, remaining weights first p = (weights.drop first).sum := by
  rw [sum_remaining, ← List.length_drop, List.take_length]

theorem sum_Ioc_update {weight : Nat → Nat} {index value lo hi : Nat}
    (inside : lo < index ∧ index ≤ hi) :
    ∑ p ∈ Finset.Ioc lo hi, Function.update weight index value p + weight index =
      ∑ p ∈ Finset.Ioc lo hi, weight p + value := by
  have change := @sum_Ioc_change lo hi weight (Function.update weight index value) index
    (fun p other => Function.update_of_ne other _ _) inside
  rwa [Function.update_self] at change

/-- A scan stops at the one place where the sum before it is below the target and the sum with
it is not. -/
theorem reaching_eq {target : ℚ} {sum i : Nat} {weights : List Nat} (inside : i < weights.length)
    (before : i = 0 ∨ ((sum + (weights.take i).sum : Nat) : ℚ) < target)
    (after : target ≤ ((sum + (weights.take (i + 1)).sum : Nat) : ℚ)) :
    reaching target sum weights = i := by
  induction weights generalizing sum i with
  | nil => exact absurd inside (Nat.not_lt_zero i)
  | cons weight weights ih =>
      rw [reaching]
      cases i with
      | zero =>
          rw [List.take_succ_cons, List.take_zero, List.sum_cons, List.sum_nil,
            Nat.add_zero] at after
          rw [if_pos after]
      | succ i =>
          have short := before.resolve_left (Nat.succ_ne_zero i)
          rw [List.take_succ_cons, List.sum_cons, ← Nat.add_assoc] at short after
          have notYet : ¬ target ≤ ((sum + weight : Nat) : ℚ) := by
            intro reached
            have grows : ((sum + weight : Nat) : ℚ) ≤
                ((sum + weight + (weights.take i).sum : Nat) : ℚ) :=
              Nat.cast_le.mpr (Nat.le_add_right _ _)
            exact absurd (reached.trans grows) (not_le.mpr short)
          rw [if_neg notYet, ih (Nat.lt_of_succ_lt_succ inside) (Or.inr short) after]

namespace PositiveWeightedShuffle

variable {s s' : PositiveWeightedShuffle α} {weight : Nat → Nat} {count first : Nat}

/-- The entries are the sums of these weights, and nothing was subtracted that was not there. -/
structure Holds (count : Nat) (weight : Nat → Nat) (s : PositiveWeightedShuffle α) : Prop where
  length : s.items.length = count
  represents : Represents 64 count weight s.tree
  clean : s.underflow = false

theorem covered_le {i : Nat} (le : i ≤ count) :
    ∑ p ∈ Finset.Ioc (i - lowBit 64 i) i, weight p ≤ ∑ p ∈ Finset.Ioc 0 count, weight p :=
  Finset.sum_le_sum_of_subset (Finset.Ioc_subset_Ioc (Nat.zero_le _) le)

theorem Holds.subtract {index value : Nat} (holds : Holds count weight s) (small : count < 2 ^ 64)
    (bounded : ∑ p ∈ Finset.Ioc 0 count, weight p < 2 ^ 64) (own : value = weight (index + 1)) :
    Holds count (Function.update weight (index + 1) 0) (s.subtract index value) where
  length := holds.length
  represents := by
    obtain rfl := holds.length
    apply holds.represents.climb (Nat.succ_pos index) small
    · intro p other
      exact Function.update_of_ne other _ _
    · intro i le covers
      have change := @sum_Ioc_update weight (index + 1) 0 _ _ covers
      have within := @covered_le weight _ i le
      rw [← own] at change
      have whole : ∑ p ∈ Finset.Ioc (i - lowBit 64 i) i, weight p =
          ∑ p ∈ Finset.Ioc (i - lowBit 64 i) i, Function.update weight (index + 1) 0 p + value :=
        change.symm
      rw [whole]
      exact sub64_add (by omega)
  clean := by
    obtain rfl := holds.length
    have passed : climbAny 64 s.items.length (fun sum => decide (sum < value)) s.items.length
        (index + 1) s.tree = false := by
      apply climbAny_eq_false (Nat.succ_pos index) small
      intro i le covers
      have part : weight (index + 1) ≤ ∑ p ∈ Finset.Ioc (i - lowBit 64 i) i, weight p :=
        Finset.single_le_sum (fun _ _ => Nat.zero_le _) (Finset.mem_Ioc.mpr covers)
      rw [holds.represents.entry_eq i (Nat.lt_of_lt_of_le (Nat.succ_pos index) covers.2) le,
        decide_eq_false_iff_not]
      omega
    simp only [PositiveWeightedShuffle.subtract, holds.clean, passed, Bool.or_false]

theorem Holds.add {index value : Nat} (holds : Holds count weight s) (small : count < 2 ^ 64)
    (bounded : ∑ p ∈ Finset.Ioc 0 count, weight p + value < 2 ^ 64)
    (free : weight (index + 1) = 0) :
    Holds count (Function.update weight (index + 1) value) (s.add index value) where
  length := holds.length
  represents := by
    obtain rfl := holds.length
    apply holds.represents.climb (Nat.succ_pos index) small
    · intro p other
      exact Function.update_of_ne other _ _
    · intro i le covers
      have change := @sum_Ioc_update weight (index + 1) value _ _ covers
      have within := @covered_le weight _ i le
      rw [free, Nat.add_zero] at change
      rw [change]
      exact add64_of_le (by omega)
  clean := holds.clean

structure Left (first : Nat) (s : PositiveWeightedShuffle α) : Prop where
  same : s.weights.length = s.items.length
  positive : ∀ weight ∈ s.weights, 0 < weight
  holds : Holds s.items.length (remaining s.weights first) s
  total : s.total = (s.weights.drop first).sum
  bounded : s.total ≤ 2 ^ 53
  short : s.items.length ≤ 2 ^ 53

theorem Left.sum_eq (left : Left first s) :
    ∑ p ∈ Finset.Ioc 0 s.items.length, remaining s.weights first p = s.total := by
  rw [← left.same, sum_remaining_all, left.total]

/-- The search ends right before the first prefix sum that reaches the target. -/
theorem Left.search {draw : ℚ} (left : Left first s) (pos : 0 < draw * s.total)
    (high : draw < 1) :
    let b := s.select first draw
    b < s.items.length ∧
      ((∑ p ∈ Finset.Ioc 0 b, remaining s.weights first p : Nat) : ℚ) < draw * s.total ∧
      draw * s.total ≤ ((∑ p ∈ Finset.Ioc 0 (b + 1), remaining s.weights first p : Nat) : ℚ) := by
  intro b
  have short := left.short
  have less : draw * s.total < s.total := by
    have some_ : (0 : ℚ) < s.total := by
      by_contra none_
      have zero : (s.total : ℚ) = 0 := le_antisymm (not_lt.mp none_) (Nat.cast_nonneg _)
      rw [zero, mul_zero] at pos
      exact lt_irrefl _ pos
    exact mul_lt_of_lt_one_left some_ high
  obtain ⟨t, top, le, above⟩ := @topBit_spec s.items.length 63 0 (by omega)
  let fits : Nat → Bool := fun sum => decide ((sum : ℚ) < draw * s.total)
  have start : Between s.items.length fits (remaining s.weights first) (2 ^ (t + 1)) 0 :=
    { le := Nat.zero_le _
      dvd := Nat.dvd_zero _
      lower := by simpa [fits] using pos
      upper := fun inside => by omega }
  have between := left.holds.represents.descend (by omega : s.items.length < 2 ^ 64)
    (fun _ _ => add64_of_le) (by have sum := left.sum_eq; have bounded := left.bounded; omega)
    (by omega : t + 1 ≤ 64) start
  have half : 2 ^ (t + 1) / 2 = topBit s.items.length 63 1 := by
    rw [Nat.pow_succ, Nat.mul_div_cancel _ (by decide)]
    exact top.symm
  rw [half, Finset.Ioc_self, Finset.sum_empty] at between
  have lower := of_decide_eq_true between.lower
  have found : descend s.items.length add64 fits s.tree 64 (topBit s.items.length 63 1) 0 0 <
      s.items.length := by
    apply Nat.lt_of_le_of_ne between.le
    intro last
    rw [last, left.sum_eq] at lower
    exact absurd lower (not_lt.mpr less.le)
  have selected : b = descend s.items.length add64 fits s.tree 64
      (topBit s.items.length 63 1) 0 0 := by
    rw [show b = s.select first draw from rfl, select, if_pos pos]
    exact Nat.min_eq_left (Nat.le_sub_one_of_lt found)
  rw [selected]
  exact ⟨found, lower, not_lt.mp (of_decide_eq_false (between.upper found))⟩

theorem Left.select_eq {draw : ℚ} (left : Left first s) (inside : first < s.items.length)
    (high : draw < 1) :
    ∃ i, first + i < s.items.length ∧ s.select first draw = first + i ∧
      reaching (draw * (s.weights.drop first).sum) 0 (s.weights.drop first) = i := by
  rw [← left.total]
  have length : (s.weights.drop first).length = s.items.length - first := by
    rw [List.length_drop, left.same]
  by_cases pos : 0 < draw * s.total
  · obtain ⟨found, lower, upper⟩ := left.search pos high
    rw [sum_remaining] at lower upper
    have behind : first ≤ s.select first draw := by
      by_contra before
      rw [Nat.sub_eq_zero_of_le (by omega), List.take_zero, List.sum_nil, Nat.cast_zero] at upper
      exact absurd pos (not_lt.mpr upper)
    refine ⟨s.select first draw - first, by omega, by omega, ?_⟩
    apply reaching_eq (by omega)
    · right
      rwa [Nat.zero_add]
    · have next : s.select first draw + 1 - first = s.select first draw - first + 1 := by omega
      rwa [Nat.zero_add, ← next]
  · have none_ : draw * s.total ≤ 0 := not_lt.mp pos
    refine ⟨0, inside, ?_, ?_⟩
    · rw [select, if_neg pos]
      rfl
    · apply reaching_eq (by omega) (Or.inl rfl)
      exact none_.trans (Nat.cast_nonneg _)

def pairs (s : PositiveWeightedShuffle α) : List (α × Nat) := s.items.zip s.weights

theorem Left.weights_drop (left : Left first s) :
    (s.pairs.drop first).map Prod.snd = s.weights.drop first := by
  rw [List.map_drop, pairs, List.map_snd_zip (Nat.le_of_eq left.same)]

theorem remaining_swap {weights : List Nat} {selected : Nat} (inside : first < weights.length)
    (found : selected < weights.length) (behind : first < selected) :
    Function.update (Function.update (Function.update (remaining weights first) (selected + 1) 0)
      (selected + 1) (weights.getD first 0)) (first + 1) 0 =
      remaining (swap weights first selected) (first + 1) := by
  funext p
  simp only [Function.update_apply, remaining, getD_swap inside found]
  by_cases drawn : p ≤ first + 1
  · have other : p ≠ selected + 1 := by omega
    by_cases front : p = first + 1
    · simp [front]
    · have before : p ≤ first := by omega
      simp [front, other, before, drawn]
  · have front : ¬ p = first + 1 := by omega
    have notFirst : ¬ p - 1 = first := by omega
    have before : ¬ p ≤ first := by omega
    rw [if_neg front, if_neg drawn, if_neg notFirst]
    by_cases chosen : p = selected + 1
    · subst chosen
      simp
    · have notSelected : ¬ p - 1 = selected := by omega
      rw [if_neg chosen, if_neg chosen, if_neg before, if_neg notSelected]

theorem remaining_first {weights : List Nat} :
    Function.update (remaining weights first) (first + 1) 0 = remaining weights (first + 1) := by
  funext p
  simp only [Function.update_apply, remaining]
  split
  · next front => rw [if_pos (Nat.le_of_eq front)]
  · next front =>
      by_cases before : p ≤ first
      · rw [if_pos before, if_pos (Nat.le_succ_of_le before)]
      · rw [if_neg before, if_neg (by omega)]

theorem remaining_own {weights : List Nat} {p : Nat} (behind : first ≤ p) :
    remaining weights first (p + 1) = weights.getD p 0 := by
  rw [remaining, if_neg (by omega), Nat.add_sub_cancel]

theorem remaining_le_total (left : Left first s) {p : Nat} (behind : first ≤ p)
    (inside : p < s.items.length) : s.weights.getD p 0 ≤ s.total := by
  rw [← left.sum_eq, ← remaining_own behind]
  exact Finset.single_le_sum (fun _ _ => Nat.zero_le _)
    (Finset.mem_Ioc.mpr ⟨Nat.succ_pos p, inside⟩)

/-- What a round leaves in the tree is what it leaves of the weights. -/
theorem Left.exchange {selected : Nat} (left : Left first s)
    (found : selected < s.items.length) (behind : first < selected) :
    Holds s.items.length (remaining (swap s.weights first selected) (first + 1))
        ((s.exchange first selected (s.weights.getD selected 0)).subtract first
          (s.weights.getD first 0)) ∧
      ((swap s.weights first selected).drop (first + 1)).sum + s.weights.getD selected 0 =
        s.total := by
  have same := left.same
  have bounded := left.bounded
  have inside := behind.trans found
  have small : s.items.length < 2 ^ 64 := Nat.lt_of_le_of_lt left.short (by decide)
  have whole := left.sum_eq
  have front := remaining_le_total left (Nat.le_refl first) inside
  have own : s.weights.getD selected 0 = remaining s.weights first (selected + 1) :=
    (remaining_own behind.le).symm
  have away : first + 1 ≠ selected + 1 := by omega
  have taken := @sum_Ioc_update (remaining s.weights first) (selected + 1) 0 0 s.items.length
    ⟨Nat.succ_pos _, found⟩
  have moved := @sum_Ioc_update (Function.update (remaining s.weights first) (selected + 1) 0)
    (selected + 1) (s.weights.getD first 0) 0 s.items.length ⟨Nat.succ_pos _, found⟩
  have drawn := @sum_Ioc_update (Function.update (Function.update (remaining s.weights first)
    (selected + 1) 0) (selected + 1) (s.weights.getD first 0)) (first + 1) 0 0 s.items.length
    ⟨Nat.succ_pos _, inside⟩
  rw [Function.update_self] at moved
  rw [Function.update_of_ne away, Function.update_of_ne away, remaining_own (Nat.le_refl first),
    remaining_swap (same.symm ▸ inside) (same.symm ▸ found) behind] at drawn
  constructor
  · have removed := left.holds.subtract small (by omega) own
    have added := removed.add small (by omega : _ + s.weights.getD first 0 < _)
      (Function.update_self _ _ _)
    have moved : Holds _ _ (s.exchange first selected (s.weights.getD selected 0)) :=
      ⟨swap_length s.items first selected, added.represents, added.clean⟩
    have rest := moved.subtract small (by omega)
      (by rw [Function.update_of_ne away, Function.update_of_ne away,
            remaining_own (Nat.le_refl first)] : s.weights.getD first 0 = _)
    rwa [remaining_swap (same.symm ▸ inside) (same.symm ▸ found) behind] at rest
  · rw [← sum_remaining_all, swap_length, same]
    omega

theorem Left.first_weights (left : Left first s) (inside : first < s.items.length) :
    Holds s.items.length (remaining s.weights (first + 1))
        (s.subtract first (s.weights.getD first 0)) ∧
      (s.weights.drop (first + 1)).sum + s.weights.getD first 0 = s.total := by
  have bounded := left.bounded
  have whole := left.sum_eq
  constructor
  · have rest := left.holds.subtract (Nat.lt_of_le_of_lt left.short (by decide)) (by omega)
      (remaining_own (Nat.le_refl first)).symm
    rwa [remaining_first] at rest
  · have place : first < s.weights.length := left.same.symm ▸ inside
    rw [left.total, List.drop_eq_getElem_cons place, List.sum_cons, Nat.add_comm,
      List.getD_eq_getElem _ _ place]

theorem Left.sub64_total {rest value : Nat} (left : Left first s) (sum : rest + value = s.total) :
    sub64 s.total value = rest := by
  have bounded := left.bounded
  rw [← sum]
  exact sub64_add (by omega)

theorem Left.round_eq {draw : ℚ} (left : Left first s) (inside : first < s.items.length)
    (high : draw < 1) :
    ∃ s', s.round first draw = some s' ∧ Left (first + 1) s' ∧
      s'.items.length = s.items.length ∧ s'.pairs = weightedShuffleRound first draw s.pairs := by
  obtain ⟨i, found, selected, scanned⟩ := left.select_eq inside high
  have same := left.same
  have bounded := left.bounded
  have ahead : ¬ first + i < first := by omega
  have length : s.pairs.length = s.items.length := by
    rw [pairs, List.length_zip, same, Nat.min_self]
  have scan : weightedShuffleRound first draw s.pairs = swap s.pairs first (first + i) := by
    simp only [weightedShuffleRound, left.weights_drop, scanned]
  rw [scan]
  simp only [PositiveWeightedShuffle.round, selected, if_neg ahead]
  by_cases front : first + i = first
  · obtain ⟨holds, sum⟩ := left.first_weights inside
    have rest := left.sub64_total sum
    simp only [front, if_true]
    refine ⟨_, rfl, ⟨same, left.positive, ⟨rfl, holds.represents, holds.clean⟩, rest, ?_,
      left.short⟩, rfl, (swap_self (length ▸ inside)).symm⟩
    show sub64 s.total _ ≤ _
    omega
  · obtain ⟨holds, sum⟩ := left.exchange found (by omega)
    have rest := left.sub64_total sum
    have moved : (s.exchange first (first + i) (s.weights.getD (first + i) 0)).weights.getD
        (first + i) 0 = s.weights.getD first 0 := by
      show (swap s.weights first (first + i)).getD (first + i) 0 = _
      rw [getD_swap (same.symm ▸ inside) (same.symm ▸ found), if_neg front, if_pos rfl]
    have items := swap_length s.items first (first + i)
    have weights := swap_length s.weights first (first + i)
    simp only [if_neg front, moved]
    refine ⟨_, rfl, ⟨?_, ?_, ⟨rfl, ?_, holds.clean⟩, rest, ?_, ?_⟩, items, ?_⟩
    · exact weights.trans (same.trans items.symm)
    · intro weight inside
      exact left.positive weight ((swap_perm _ _ _).mem_iff.mp inside)
    · have represents := holds.represents
      rw [← items] at represents
      exact represents
    · show sub64 s.total _ ≤ _
      omega
    · exact Nat.le_trans (Nat.le_of_eq items) left.short
    · exact zip_swap same.symm inside found

theorem Left.rounds_eq {draws : Nat → ℚ} {left : Nat} (start : Left first s)
    (enough : first + left = s.items.length) (high : ∀ i, draws i < 1) :
    ∃ s', rounds draws left first s = some s' ∧ Left (first + left) s' ∧
      s'.items.length = s.items.length ∧
      s'.pairs = weightedShuffleRounds draws left first s.pairs := by
  induction left generalizing first s with
  | zero => exact ⟨s, rfl, start, rfl, rfl⟩
  | succ left ih =>
      obtain ⟨next, drawn, rest, items, pairs⟩ := start.round_eq (by omega) (high first)
      obtain ⟨last, run, done, length, order⟩ := ih rest (by omega)
      refine ⟨last, ?_, ?_, length.trans items, ?_⟩
      · rw [rounds, drawn]
        exact run
      · rwa [Nat.add_right_comm, Nat.add_assoc] at done
      · rw [weightedShuffleRounds, order, pairs]

end PositiveWeightedShuffle

theorem weightedShuffleRounds_perm (draws : Nat → ℚ) (left first : Nat) (pairs : List (α × Nat)) :
    (weightedShuffleRounds draws left first pairs).Perm pairs := by
  induction left generalizing first pairs with
  | zero => exact List.Perm.refl pairs
  | succ left ih => exact (ih _ _).trans (swap_perm _ _ _)

theorem sum_take_succ (weights : List Nat) (i : Nat) :
    (weights.take (i + 1)).sum = (weights.take i).sum + weights.getD i 0 := by
  rw [List.take_add_one, List.sum_append, List.getD_eq_getElem?_getD]
  cases weights[i]? with
  | none => rfl
  | some weight => simp

theorem build_spec {weights : List Nat} (positive : ∀ weight ∈ weights, 0 < weight)
    (small : weights.sum < 2 ^ 64) {i : Nat} (le : i ≤ weights.length) :
    ∃ tree, build weights i = some (tree, (weights.take i).sum) ∧
      Filled 64 weights.length (remaining weights 0) i tree := by
  have length : weights.length ≤ weights.sum := List.length_le_sum_of_one_le weights positive
  have whole : ∑ p ∈ Finset.Ioc 0 weights.length, remaining weights 0 p ≤ 2 ^ 64 - 1 := by
    rw [sum_remaining_all, List.drop_zero]
    omega
  induction i with
  | zero => exact ⟨_, rfl, Filled.zero _⟩
  | succ i ih =>
      obtain ⟨tree, built, filled⟩ := ih (Nat.le_of_succ_le le)
      have inside : i < weights.length := le
      have pos : 0 < weights.getD i 0 := by
        rw [List.getD_eq_getElem _ _ inside]
        exact positive _ (List.getElem_mem inside)
      have part : (weights.take (i + 1)).sum ≤ weights.sum :=
        List.Sublist.sum_le_sum (List.take_sublist _ _) fun _ _ => Nat.zero_le _
      have total : add64 (weights.take i).sum (weights.getD i 0) = (weights.take (i + 1)).sum := by
        rw [sum_take_succ] at part ⊢
        exact add64_of_le (by omega)
      have step : buildStep 64 weights.length add64 (fun p => weights.getD (p - 1) 0) (i + 1) tree =
          buildStep 64 weights.length add64 (remaining weights 0) (i + 1) tree := by
        simp only [buildStep, PositiveWeightedShuffle.remaining_own (Nat.zero_le i),
          Nat.add_sub_cancel]
      refine ⟨_, ?_, filled.succ le (by omega) (fun _ _ => add64_of_le) whole⟩
      simp only [build, built, if_pos pos, total, step]

/-- For weights whose sum a double has exactly, the shuffle is the quadratic algorithm. -/
theorem positiveWeightedShuffle_eq {items : List α} {weights : List Nat} {draws : Nat → ℚ}
    (same : items.length = weights.length) (positive : ∀ weight ∈ weights, 0 < weight)
    (unit : ∀ i, 0 ≤ draws i ∧ draws i < 1) (bounded : weights.sum ≤ 2 ^ 53) :
    ∃ s, positiveWeightedShuffle items weights draws = some s ∧
      s.items.length = s.weights.length ∧
      s.items.zip s.weights = weightedShuffle draws (items.zip weights) ∧
      (s.items.zip s.weights).Perm (items.zip weights) ∧ s.underflow = false := by
  have pairs_length : (items.zip weights).length = items.length := by
    rw [List.length_zip, ← same, Nat.min_self]
  by_cases empty : items.length = 0
  · obtain rfl := List.eq_nil_of_length_eq_zero empty
    obtain rfl := List.eq_nil_of_length_eq_zero same.symm
    exact ⟨_, rfl, rfl, rfl, List.Perm.refl _, rfl⟩
  · have length : weights.length ≤ weights.sum := List.length_le_sum_of_one_le weights positive
    obtain ⟨tree, built, filled⟩ := build_spec positive (by omega) (Nat.le_refl weights.length)
    rw [List.take_length] at built
    have start : PositiveWeightedShuffle.Left 0
        { items, weights, tree, total := weights.sum } :=
      { same := same.symm
        positive
        holds := ⟨rfl, same ▸ filled.represents, rfl⟩
        total := by rw [List.drop_zero]
        bounded
        short := by
          rw [same]
          exact length.trans bounded }
    obtain ⟨s, run, rest, _, order⟩ :=
      start.rounds_eq (Nat.zero_add items.length) fun i => (unit i).2
    have agrees : s.items.zip s.weights = weightedShuffle draws (items.zip weights) := by
      rw [weightedShuffle, pairs_length]
      exact order
    refine ⟨s, ?_, rest.same.symm, agrees, ?_, rest.holds.clean⟩
    · simp only [positiveWeightedShuffle, ne_eq, same, not_true_eq_false, if_false, built]
      rw [if_neg (same ▸ empty), if_pos bounded, ← same]
      exact run
    · rw [agrees]
      exact weightedShuffleRounds_perm _ _ _ _

theorem three_items_shuffled : ∃ s,
    positiveWeightedShuffle ["a", "b", "c"] [1, 2, 1] (fun _ => 1 / 2) = some s ∧
      s.items.length = s.weights.length ∧
      s.items.zip s.weights =
        weightedShuffle (fun _ => 1 / 2) (["a", "b", "c"].zip [1, 2, 1]) ∧
      (s.items.zip s.weights).Perm (["a", "b", "c"].zip [1, 2, 1]) ∧ s.underflow = false :=
  positiveWeightedShuffle_eq rfl (by decide) (fun _ => by norm_num) (by decide)

/-- The assertion on the total fails. -/
theorem positiveWeightedShuffle_over {items : List α} {weights : List Nat} {draws : Nat → ℚ}
    (same : items.length = weights.length) (positive : ∀ weight ∈ weights, 0 < weight)
    (small : weights.sum < 2 ^ 64) (heavy : 2 ^ 53 < weights.sum) :
    positiveWeightedShuffle items weights draws = none := by
  obtain ⟨tree, built, _⟩ := build_spec positive small (Nat.le_refl weights.length)
  rw [List.take_length] at built
  have some_ : weights.length ≠ 0 := by
    intro empty
    rw [List.eq_nil_of_length_eq_zero empty] at heavy
    exact absurd heavy (by decide)
  simp only [positiveWeightedShuffle, ne_eq, same, not_true_eq_false, if_false, built,
    if_neg some_, if_neg (Nat.not_le_of_lt heavy)]

theorem heavy_list_not_shuffled :
    positiveWeightedShuffle (List.replicate (2 ^ 21 + 1) ())
      (List.replicate (2 ^ 21 + 1) (2 ^ 32 - 1)) (fun _ => 0) = none := by
  apply positiveWeightedShuffle_over
  · rw [List.length_replicate, List.length_replicate]
  · intro weight inside
    rw [List.eq_of_mem_replicate inside]
    decide
  · rw [List.sum_replicate]
    decide
  · rw [List.sum_replicate]
    decide

end TortoiseWow.ManTech
