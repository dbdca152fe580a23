import Mathlib

/-!
The honor rank of rank points and the bounds that are shown for it. Rank points are rational
numbers.
-/

namespace TortoiseWow.Honor

def negativeHonorRankCount : Nat := 4

def positiveHonorRankCount : Nat := 15

def honorRankCount : Nat := 19

def rankPointBounds : List (ℚ × ℚ) :=
  [(0, 0), (0, 2000), (2000, 5000), (5000, 10000), (10000, 20000), (20000, 35000), (35000, 55000),
    (55000, 80000), (80000, 110000), (110000, 145000), (145000, 185000), (185000, 300000),
    (300000, 475000), (475000, 700000), (700000, 1000000)]

def boundsOf (visualRank : Nat) : ℚ × ℚ := rankPointBounds.getD visualRank (0, 0)

structure HonorRankInfo where
  rank : UInt8 := 0
  visualRank : Int8 := 0
  maxRP : ℚ := 0
  minRP : ℚ := 0
  positive : Bool := true
  deriving DecidableEq

def initRankInfo : HonorRankInfo := { maxRP := 2000 }

def calculateRankInfo (prk : HonorRankInfo) : HonorRankInfo :=
  if prk.rank = 0 then initRankInfo
  else
    let prk := { prk with
      visualRank := Int8.ofInt (if negativeHonorRankCount < prk.rank.toNat then
        prk.rank.toNat - negativeHonorRankCount else -prk.rank.toNat) }
    if prk.positive ∧ 0 < prk.visualRank.toInt then
      let visualRank := min prk.visualRank.toInt.toNat (positiveHonorRankCount - 1)
      { prk with minRP := (boundsOf visualRank).1, maxRP := (boundsOf visualRank).2 }
    else
      let rank := Int8.ofInt (prk.rank.toNat - negativeHonorRankCount)
      let maxRP : ℚ := rank.toInt * 5000
      let maxRP := if maxRP < 0 then -maxRP else maxRP
      { prk with maxRP, minRP := if 5000 < maxRP then maxRP - 5000 else 2000 }

def negativeRank (rankPoints : ℚ) : UInt8 :=
  if rankPoints < 2000 then UInt8.ofNat negativeHonorRankCount
  else if (negativeHonorRankCount - 1) * 5000 < rankPoints then 1
  else UInt8.ofNat negativeHonorRankCount - UInt8.ofNat (⌊rankPoints / 5000⌋₊ + 1)

def positiveRank (rankPoints : ℚ) : UInt8 :=
  match (List.range' 1 (positiveHonorRankCount - 1)).find? fun visualRank =>
      rankPoints < (boundsOf visualRank).2 with
  | some visualRank => UInt8.ofNat (negativeHonorRankCount + visualRank)
  | none => UInt8.ofNat (honorRankCount - 1)

def calculateRank (rankPoints : ℚ) : HonorRankInfo :=
  if rankPoints = 0 then initRankInfo
  else if 0 < rankPoints then
    calculateRankInfo { initRankInfo with rank := positiveRank rankPoints }
  else
    calculateRankInfo { initRankInfo with rank := negativeRank (-rankPoints), positive := false }

def visualRankOf (rankPoints : ℚ) : Nat :=
  ((List.range' 1 14).find? fun visualRank => rankPoints < (boundsOf visualRank).2).getD 14

theorem positiveRank_eq (rankPoints : ℚ) :
    positiveRank rankPoints = UInt8.ofNat (4 + visualRankOf rankPoints) := by
  simp only [positiveRank, visualRankOf]
  change (match (List.range' 1 14).find? _ with | some visualRank => _ | none => _) = _
  cases (List.range' 1 14).find? fun visualRank => decide (rankPoints < (boundsOf visualRank).2) <;>
    rfl

theorem visualRankOf_spec (rankPoints : ℚ) :
    (1 ≤ visualRankOf rankPoints ∧ visualRankOf rankPoints ≤ 14) ∧
      (rankPoints < (boundsOf (visualRankOf rankPoints)).2 ∨ visualRankOf rankPoints = 14) ∧
      ∀ lower, 1 ≤ lower → lower < visualRankOf rankPoints → (boundsOf lower).2 ≤ rankPoints := by
  rw [visualRankOf]
  cases found : (List.range' 1 14).find? fun visualRank =>
      decide (rankPoints < (boundsOf visualRank).2) with
  | none =>
      rw [List.find?_eq_none] at found
      refine ⟨by decide, .inr rfl, fun lower from_one below => ?_⟩
      have here := found lower (List.mem_range'_1.mpr ⟨from_one, by simp at below; omega⟩)
      simpa using here
  | some visualRank =>
      rw [List.find?_range'_eq_some] at found
      obtain ⟨below, inside, first⟩ := found
      rw [List.mem_range'_1] at inside
      refine ⟨⟨inside.1, Nat.le_of_lt_succ inside.2⟩, .inl (by simpa using below), ?_⟩
      intro lower from_one less
      simpa using first lower from_one less

theorem visualRankOf_mono {rankPoints rankPoints' : ℚ} (le : rankPoints ≤ rankPoints') :
    visualRankOf rankPoints ≤ visualRankOf rankPoints' := by
  obtain ⟨⟨-, high⟩, -, above⟩ := visualRankOf_spec rankPoints
  obtain ⟨⟨low', -⟩, below', -⟩ := visualRankOf_spec rankPoints'
  refine Nat.le_of_not_lt fun less => ?_
  rcases below' with below' | top
  · exact absurd below' (not_lt.mpr ((above _ low' less).trans le))
  · omega

/-- Each rank begins where the one before it ends. -/
theorem boundsOf_chain : ∀ visualRank ∈ List.range' 1 14,
    (boundsOf visualRank).1 < (boundsOf visualRank).2 ∧
      (boundsOf visualRank).1 = (boundsOf (visualRank - 1)).2 := by
  decide +kernel

theorem calculateRankInfo_positive : ∀ visualRank ∈ List.range' 1 14,
    calculateRankInfo { initRankInfo with rank := UInt8.ofNat (4 + visualRank) } =
      { rank := UInt8.ofNat (4 + visualRank)
        visualRank := Int8.ofNat visualRank
        minRP := (boundsOf visualRank).1
        maxRP := (boundsOf visualRank).2 } := by
  decide +kernel

/-- The rank is one, a negative one exactly for negative points, and the points are within its
bounds; the highest and the lowest rank have no end. -/
structure Ranked (rankPoints : ℚ) (prk : HonorRankInfo) : Prop where
  range : 1 ≤ prk.rank.toNat ∧ prk.rank.toNat ≤ 18
  negative : prk.rank.toNat ≤ 4 ↔ rankPoints < 0
  minRP : prk.minRP ≤ |rankPoints|
  order : prk.minRP < prk.maxRP
  maxRP : prk.rank.toNat ≠ 1 → prk.rank.toNat ≠ 18 → |rankPoints| ≤ prk.maxRP

theorem calculateRank_positive {rankPoints : ℚ} (positive : 0 < rankPoints) :
    calculateRank rankPoints =
      { rank := UInt8.ofNat (4 + visualRankOf rankPoints)
        visualRank := Int8.ofNat (visualRankOf rankPoints)
        minRP := (boundsOf (visualRankOf rankPoints)).1
        maxRP := (boundsOf (visualRankOf rankPoints)).2 } := by
  obtain ⟨⟨low, high⟩, -⟩ := visualRankOf_spec rankPoints
  rw [calculateRank, if_neg positive.ne', if_pos positive, positiveRank_eq]
  exact calculateRankInfo_positive _ (List.mem_range'_1.mpr ⟨low, by omega⟩)

theorem toNat_positiveRank {rankPoints : ℚ} (positive : 0 < rankPoints) :
    (calculateRank rankPoints).rank.toNat = 4 + visualRankOf rankPoints := by
  obtain ⟨⟨-, high⟩, -⟩ := visualRankOf_spec rankPoints
  rw [calculateRank_positive positive]
  exact UInt8.toNat_ofNat_of_lt' (Nat.lt_of_le_of_lt (Nat.add_le_add_left high 4) (by decide))

theorem ranked_positive {rankPoints : ℚ} (positive : 0 < rankPoints) :
    Ranked rankPoints (calculateRank rankPoints) := by
  obtain ⟨⟨low, high⟩, below, above⟩ := visualRankOf_spec rankPoints
  obtain ⟨order, chain⟩ := boundsOf_chain _ (List.mem_range'_1.mpr ⟨low, by omega⟩)
  have rank := toNat_positiveRank positive
  constructor
  · omega
  · rw [rank]
    exact iff_of_false (by omega) (not_lt.mpr positive.le)
  · rw [calculateRank_positive positive, abs_of_pos positive]
    change (boundsOf (visualRankOf rankPoints)).1 ≤ rankPoints
    rw [chain]
    by_cases first : visualRankOf rankPoints = 1
    · rw [first]
      exact positive.le
    · exact above _ (by omega) (by omega)
  · rw [calculateRank_positive positive]
    exact order
  · rw [rank, calculateRank_positive positive, abs_of_pos positive]
    intro _ notTop
    rcases below with below | top
    · exact below.le
    · omega

theorem negativeRank_eq (rankPoints : ℚ) :
    negativeRank rankPoints =
      if rankPoints < 2000 then 4
      else if rankPoints < 5000 then 3
      else if rankPoints < 10000 then 2
      else if rankPoints = 15000 then 0
      else 1 := by
  have quotient : ∀ n : Nat, (n : ℚ) * 5000 ≤ rankPoints → rankPoints < (n + 1) * 5000 →
      ⌊rankPoints / 5000⌋₊ = n := by
    intro n low high
    have nonneg : (0 : ℚ) ≤ n := Nat.cast_nonneg n
    rw [Nat.floor_eq_iff (by linarith), le_div_iff₀ (by norm_num), div_lt_iff₀ (by norm_num)]
    exact ⟨low, high⟩
  have limit : ((negativeHonorRankCount : ℚ) - 1) * 5000 = 15000 := by
    norm_num [negativeHonorRankCount]
  rw [negativeRank, limit]
  split
  · rfl
  · next fourth =>
    split
    · next beyond =>
      rw [if_neg (by linarith), if_neg (by linarith), if_neg beyond.ne']
    · next within =>
      split
      · rw [quotient 0 (by norm_num; linarith) (by norm_num; linarith)]
        rfl
      · split
        · rw [quotient 1 (by norm_num; linarith) (by norm_num; linarith)]
          rfl
        · split
          · next edge =>
            rw [quotient 3 (by norm_num [edge]) (by norm_num [edge])]
            rfl
          · next inside =>
            have below : rankPoints < 15000 := lt_of_le_of_ne (not_lt.mp within) inside
            rw [quotient 2 (by norm_num; linarith) (by norm_num; linarith)]
            rfl

theorem calculateRank_negative {rankPoints : ℚ} (negative : rankPoints < 0) :
    calculateRank rankPoints =
      if -2000 < rankPoints then
        { rank := 4, visualRank := -4, minRP := 2000, maxRP := 0, positive := false }
      else if -5000 < rankPoints then
        { rank := 3, visualRank := -3, minRP := 2000, maxRP := 5000, positive := false }
      else if -10000 < rankPoints then
        { rank := 2, visualRank := -2, minRP := 5000, maxRP := 10000, positive := false }
      else if rankPoints = -15000 then initRankInfo
      else { rank := 1, visualRank := -1, minRP := 10000, maxRP := 15000, positive := false } := by
  rw [calculateRank, if_neg negative.ne, if_neg (not_lt.mpr negative.le), negativeRank_eq]
  simp only [neg_lt (a := rankPoints), neg_eq_iff_eq_neg]
  split
  · decide +kernel
  split
  · decide +kernel
  split
  · decide +kernel
  split
  · decide +kernel
  · decide +kernel

def Regular (rankPoints : ℚ) : Prop := 0 < rankPoints ∨ rankPoints ≤ -2000 ∧ rankPoints ≠ -15000

theorem ranked_negative {rankPoints : ℚ} (low : rankPoints ≤ -2000) (inside : rankPoints ≠ -15000) :
    Ranked rankPoints (calculateRank rankPoints) := by
  have negative : rankPoints < 0 := by linarith
  rw [calculateRank_negative negative, if_neg (not_lt.mpr low)]
  split
  case isTrue third =>
    exact
      { range := by decide
        negative := iff_of_true (by decide) negative
        minRP := by rw [abs_of_neg negative]; linarith
        order := by norm_num
        maxRP := fun _ _ => by rw [abs_of_neg negative]; linarith }
  split
  case isTrue second =>
    exact
      { range := by decide
        negative := iff_of_true (by decide) negative
        minRP := by rw [abs_of_neg negative]; linarith
        order := by norm_num
        maxRP := fun _ _ => by rw [abs_of_neg negative]; linarith }
  case isFalse first =>
    exact
      { range := by decide
        negative := iff_of_true (by decide) negative
        minRP := by rw [abs_of_neg negative]; linarith
        order := by norm_num
        maxRP := fun notLowest => absurd rfl notLowest }

theorem ranked_iff {rankPoints : ℚ} (some : rankPoints ≠ 0) :
    Ranked rankPoints (calculateRank rankPoints) ↔ Regular rankPoints := by
  constructor
  · intro ranked
    rcases lt_or_gt_of_ne some with negative | positive
    · refine .inr ⟨le_of_not_gt fun fourth => ?_, fun edge => ?_⟩
      · have order := ranked.order
        rw [calculateRank_negative negative, if_pos fourth] at order
        norm_num at order
      · have range := ranked.range.1
        rw [edge] at range
        exact absurd range (by decide +kernel)
    · exact .inl positive
  · rintro (positive | ⟨low, inside⟩)
    · exact ranked_positive positive
    · exact ranked_negative low inside

theorem rank_mono {rankPoints rankPoints' : ℚ} (regular : Regular rankPoints)
    (regular' : Regular rankPoints') (le : rankPoints ≤ rankPoints') :
    (calculateRank rankPoints).rank.toNat ≤ (calculateRank rankPoints').rank.toNat := by
  rcases regular' with positive' | ⟨low', inside'⟩
  · have rank' := toNat_positiveRank positive'
    rcases regular with positive | ⟨low, inside⟩
    · rw [toNat_positiveRank positive, rank']
      exact Nat.add_le_add_left (visualRankOf_mono le) 4
    · have rank := (ranked_negative low inside).negative.mpr (by linarith)
      omega
  · have low : rankPoints ≤ -2000 := le.trans low'
    have inside : rankPoints ≠ -15000 := by
      rcases regular with positive | ⟨-, inside⟩
      · linarith
      · exact inside
    rw [calculateRank_negative (by linarith), calculateRank_negative (by linarith),
      if_neg (not_lt.mpr low), if_neg (not_lt.mpr low'), if_neg inside, if_neg inside']
    split <;> split <;> (try split) <;> (try split) <;> first | decide | (exfalso; linarith)

/-- For points other than 0: the rank does not fall when the points grow, and both are ranked, if
and only if none of them is between minus 2000 and 0 or is minus 15000. -/
theorem calculateRank_iff {rankPoints rankPoints' : ℚ} (some : rankPoints ≠ 0)
    (some' : rankPoints' ≠ 0) (le : rankPoints ≤ rankPoints') :
    ((calculateRank rankPoints).rank.toNat ≤ (calculateRank rankPoints').rank.toNat ∧
        Ranked rankPoints (calculateRank rankPoints) ∧
        Ranked rankPoints' (calculateRank rankPoints')) ↔
      Regular rankPoints ∧ Regular rankPoints' := by
  rw [ranked_iff some, ranked_iff some']
  exact ⟨fun all => all.2, fun both => ⟨rank_mono both.1 both.2 le, both⟩⟩

theorem calculateRank_ranks :
    (calculateRank (-7000)).rank.toNat ≤ (calculateRank 2000).rank.toNat ∧
      Ranked (-7000) (calculateRank (-7000)) ∧ Ranked 2000 (calculateRank 2000) :=
  (calculateRank_iff (by norm_num) (by norm_num) (by norm_num)).mpr
    ⟨.inr ⟨by norm_num, by norm_num⟩, .inl (by norm_num)⟩

/-- More points and a lower rank, which is none; and bounds that are the wrong way round. -/
theorem edge_of_lowest_rank :
    (¬ ((calculateRank (-15001)).rank.toNat ≤ (calculateRank (-15000)).rank.toNat ∧
        Ranked (-15001) (calculateRank (-15001)) ∧ Ranked (-15000) (calculateRank (-15000)))) ∧
      (calculateRank (-15000)).rank = 0 ∧
      (calculateRank (-1)).minRP = 2000 ∧ (calculateRank (-1)).maxRP = 0 := by
  refine ⟨fun all => absurd all.1 (by decide +kernel), ?_⟩
  decide +kernel

end TortoiseWow.Honor
