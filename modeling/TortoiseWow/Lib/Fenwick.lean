import Mathlib.Algebra.BigOperators.Intervals
import Mathlib.Data.Nat.Bitwise
import Mathlib.Data.Nat.Factorization.Basic
import Mathlib.Algebra.Order.BigOperators.Group.Finset
import Mathlib.Tactic.Ring

/-!
Prefix sums in a tree of words that is stored in a vector: the entry of an index has the sum of
as many weights, up to that index, as the lowest bit of the index says. Indices begin at one.
-/

namespace Lib.Fenwick

def lowBit (width i : Nat) : Nat := i &&& (2 ^ width - i)

structure IsLow (i b : Nat) : Prop where
  power : ∃ k, b = 2 ^ k
  le : b ≤ i
  dvd : b ∣ i
  odd : 2 * b ∣ i + b

theorem lowBit_eq {width k m : Nat} (small : 2 ^ (k + 1) * m + 2 ^ k < 2 ^ width) :
    lowBit width (2 ^ (k + 1) * m + 2 ^ k) = 2 ^ k := by
  have pos : 0 < 2 ^ k := Nat.two_pow_pos k
  have before : 2 ^ (k + 1) * m + 2 ^ k = 2 ^ (k + 1) * m + (2 ^ k - 1) + 1 := by omega
  have half : 2 ^ k < 2 ^ (k + 1) := Nat.pow_lt_pow_right (by decide) (Nat.lt_succ_self k)
  have less : 2 ^ k - 1 < 2 ^ (k + 1) := by omega
  have inside : k < width := by
    by_contra outside
    have le : 2 ^ width ≤ 2 ^ k := Nat.pow_le_pow_right (by decide) (Nat.le_of_not_lt outside)
    omega
  apply Nat.eq_of_testBit_eq
  intro j
  have complement : (2 ^ width - (2 ^ (k + 1) * m + 2 ^ k)).testBit j =
      (decide (j < width) && !(2 ^ (k + 1) * m + (2 ^ k - 1)).testBit j) := by
    rw [before]
    exact Nat.testBit_two_pow_sub_succ (by omega) j
  rw [lowBit, Nat.testBit_and, complement, Nat.testBit_two_pow_mul_add m half,
    Nat.testBit_two_pow_mul_add m less, Nat.testBit_two_pow, Nat.testBit_two_pow_sub_one]
  by_cases low : j < k + 1
  · rw [if_pos low, if_pos low]
    by_cases same : k = j
    · subst same
      simp [inside]
    · simp [same]
  · rw [if_neg low, if_neg low]
    have other : ¬ k = j := by omega
    cases m.testBit (j - (k + 1)) <;> simp [other]

theorem lowBit_isLow {width i : Nat} (pos : 0 < i) (small : i < 2 ^ width) :
    IsLow i (lowBit width i) := by
  obtain ⟨k, m, odd, rfl⟩ := Nat.exists_eq_two_pow_mul_odd pos.ne'
  obtain ⟨m, rfl⟩ := odd
  have form : 2 ^ k * (2 * m + 1) = 2 ^ (k + 1) * m + 2 ^ k := by
    rw [Nat.pow_succ]
    ring
  rw [form] at small ⊢
  rw [lowBit_eq small]
  refine ⟨⟨k, rfl⟩, Nat.le_add_left _ _, ?_, ?_⟩
  · rw [← form]
    exact Nat.dvd_mul_right _ _
  · exact ⟨m + 1, by rw [Nat.pow_succ]; ring⟩

theorem add_le_of_dvd {d a b : Nat} (ha : d ∣ a) (hb : d ∣ b) (less : a < b) : a + d ≤ b := by
  have gap : d ∣ b - a := Nat.dvd_sub hb ha
  have le := Nat.le_of_dvd (Nat.sub_pos_of_lt less) gap
  omega

variable {i j n p b c : Nat}

theorem IsLow.pos (low : IsLow i b) : 0 < b := by
  obtain ⟨k, rfl⟩ := low.power
  exact Nat.two_pow_pos k

theorem IsLow.dvd_sub (low : IsLow i b) : 2 * b ∣ i - b := by
  have same : i - b = i + b - 2 * b := by
    have le := low.le
    omega
  rw [same]
  exact Nat.dvd_sub low.odd (Nat.dvd_refl _)

/-- Of two lowest bits the larger one is a multiple of the other, and of its double unless
they are equal. -/
theorem IsLow.dvd_of_le (low : IsLow i b) (other : IsLow j c) (le : b ≤ c) : b ∣ c := by
  obtain ⟨k, rfl⟩ := low.power
  obtain ⟨l, rfl⟩ := other.power
  exact Nat.pow_dvd_pow 2 ((Nat.pow_le_pow_iff_right (by decide)).mp le)

theorem IsLow.two_mul_dvd_of_lt (low : IsLow i b) (other : IsLow j c) (less : b < c) :
    2 * b ∣ c := by
  obtain ⟨k, rfl⟩ := low.power
  obtain ⟨l, rfl⟩ := other.power
  have lt : k < l := (Nat.pow_lt_pow_iff_right (by decide)).mp less
  rw [← Nat.pow_succ']
  exact Nat.pow_dvd_pow 2 lt

theorem IsLow.dvd_two_mul (low : IsLow i b) (other : IsLow j c) (le : b ≤ 2 * c) : b ∣ 2 * c := by
  obtain ⟨k, rfl⟩ := low.power
  obtain ⟨l, rfl⟩ := other.power
  rw [← Nat.pow_succ'] at le ⊢
  exact Nat.pow_dvd_pow 2 ((Nat.pow_le_pow_iff_right (by decide)).mp le)

/-- The lowest bit grows when it is added. -/
theorem IsLow.lt_parent (low : IsLow i b) (parent : IsLow (i + b) c) : b < c := by
  by_contra notLess
  have divides : c ∣ b := parent.dvd_of_le low (Nat.le_of_not_lt notLess)
  have whole : 2 * c ∣ i + b := (Nat.mul_dvd_mul_left 2 divides).trans low.odd
  have double : 2 * c ∣ c := (Nat.dvd_add_right whole).mp parent.odd
  have le := Nat.le_of_dvd parent.pos double
  have pos := parent.pos
  omega

/-- What an entry above covers, the next index on the way up does not pass. -/
theorem IsLow.next_le (low : IsLow i b) (from_ : IsLow p c) (covered : i - b < p) (less : p < i) :
    p + c ≤ i := by
  by_contra passed
  by_cases le : c ≤ b
  · exact passed (add_le_of_dvd from_.dvd ((from_.dvd_of_le low le).trans low.dvd) less)
  · have divides := (low.two_mul_dvd_of_lt from_ (Nat.lt_of_not_le le)).trans from_.dvd
    have far := add_le_of_dvd low.dvd_sub divides covered
    have inside := low.le
    have pos := low.pos
    omega

theorem IsLow.covers_trans (low : IsLow j b) (between : IsLow n c) (upper : j - b < n)
    (le : n ≤ j) (covered : n - c < p) : j - b < p := by
  by_contra notCovered
  have start : n - c < j - b := by omega
  by_cases wide : c ≤ 2 * b
  · -- the start of the upper range is a multiple of the lower bit, inside its range
    have divides : c ∣ j - b := (between.dvd_two_mul low wide).trans low.dvd_sub
    have far := add_le_of_dvd divides between.dvd upper
    have inside := between.le
    omega
  · have divides : 2 * b ∣ n :=
      (low.two_mul_dvd_of_lt between (by omega)).trans between.dvd
    have far := add_le_of_dvd low.dvd_sub divides upper
    have inside := low.le
    have pos := low.pos
    omega

def Covers (width i p : Nat) : Prop := i - lowBit width i < p ∧ p ≤ i

instance decidableCovers (width i p : Nat) : Decidable (Covers width i p) :=
  inferInstanceAs (Decidable (_ ∧ _))

variable {width count : Nat}

theorem Covers.self (pos : 0 < i) (small : i < 2 ^ width) : Covers width i i := by
  have low := (lowBit_isLow pos small).pos
  exact ⟨by omega, Nat.le_refl i⟩

theorem Covers.trans (upper : Covers width j n) (lower : Covers width n p)
    (small : j < 2 ^ width) : Covers width j p := by
  have pos : 0 < n := by
    have lo := upper.1
    omega
  have from_ := lowBit_isLow pos (Nat.lt_of_le_of_lt upper.2 small)
  have low := lowBit_isLow (Nat.lt_of_lt_of_le pos upper.2) small
  exact ⟨low.covers_trans from_ upper.1 upper.2 lower.1, lower.2.trans upper.2⟩

theorem Covers.parent (pos : 0 < i) (small : i + lowBit width i < 2 ^ width) :
    Covers width (i + lowBit width i) i := by
  have low := lowBit_isLow pos (Nat.lt_of_le_of_lt (Nat.le_add_right _ _) small)
  have more := low.lt_parent (lowBit_isLow (Nat.add_pos_left pos _) small)
  exact ⟨by omega, Nat.le_add_right _ _⟩

theorem Covers.next_le (covers : Covers width i p) (less : p < i) (small : i < 2 ^ width) :
    p + lowBit width p ≤ i := by
  have pos : 0 < p := by
    have lo := covers.1
    omega
  exact (lowBit_isLow (Nat.lt_trans pos less) small).next_le
    (lowBit_isLow pos (Nat.lt_trans less small)) covers.1 less

/-- The entries that cover an index are its own one and those that cover the next index. -/
theorem covers_iff (pos : 0 < p) (le : p ≤ i) (small : i < 2 ^ width) :
    Covers width i p ↔ i = p ∨ Covers width i (p + lowBit width p) := by
  constructor
  · intro covers
    rcases Nat.eq_or_lt_of_le le with same | less
    · exact Or.inl same.symm
    · have lo := covers.1
      exact Or.inr ⟨by omega, covers.next_le less small⟩
  · intro either
    rcases either with same | next
    · subst same
      exact Covers.self pos small
    · exact next.trans (Covers.parent pos (Nat.lt_of_le_of_lt next.2 small)) small

def entry (tree : List Nat) (i : Nat) : Nat := tree.getD i 0

theorem entry_modify {tree : List Nat} {i : Nat} (inside : i < tree.length) (f : Nat → Nat)
    (j : Nat) : entry (tree.modify i f) j = if i = j then f (entry tree j) else entry tree j := by
  rw [entry, entry, List.getD_eq_getElem?_getD, List.getElem?_modify, List.getD_eq_getElem?_getD]
  by_cases same : i = j
  · subst same
    simp [List.getElem?_eq_getElem inside]
  · simp [same]

def climb (width count : Nat) (f : Nat → Nat) : Nat → Nat → List Nat → List Nat
  | 0, _, tree => tree
  | fuel + 1, index, tree =>
      if index ≤ count then
        climb width count f fuel (index + lowBit width index) (tree.modify index f)
      else tree

theorem climb_length (f : Nat → Nat) (fuel index : Nat) (tree : List Nat) :
    (climb width count f fuel index tree).length = tree.length := by
  induction fuel generalizing index tree with
  | zero => rfl
  | succ fuel ih =>
      rw [climb]
      split
      · rw [ih, List.length_modify]
      · rfl

/-- The way up meets exactly the entries that cover the index it starts from. -/
theorem entry_climb (f : Nat → Nat) {fuel index : Nat} {tree : List Nat} (pos : 0 < index)
    (enough : count < fuel + index) (small : count < 2 ^ width) (length : tree.length = count + 1)
    {i : Nat} (le : i ≤ count) :
    entry (climb width count f fuel index tree) i =
      if Covers width i index then f (entry tree i) else entry tree i := by
  induction fuel generalizing index tree with
  | zero =>
      have outside : ¬ Covers width i index := fun covers => by
        have hi := covers.2
        omega
      rw [climb, if_neg outside]
  | succ fuel ih =>
      rw [climb]
      by_cases inside : index ≤ count
      · have low := (lowBit_isLow pos (Nat.lt_of_le_of_lt inside small)).pos
        have later := @ih (index + lowBit width index) (tree.modify index f) (by omega) (by omega)
          (by rw [List.length_modify, length])
        rw [if_pos inside, later, entry_modify (by omega)]
        by_cases same : index = i
        · subst same
          have passed : ¬ Covers width index (index + lowBit width index) := fun covers => by
            have hi := covers.2
            omega
          rw [if_neg passed, if_pos rfl, if_pos (Covers.self pos (by omega))]
        · rw [if_neg same]
          by_cases up : index ≤ i
          · have either := covers_iff pos up (Nat.lt_of_le_of_lt le small)
            simp only [either, Ne.symm same, false_or]
          · have outside : ¬ Covers width i index := fun covers => up covers.2
            have passed : ¬ Covers width i (index + lowBit width index) := fun covers => by
              have hi := covers.2
              omega
            rw [if_neg passed, if_neg outside]
      · have outside : ¬ Covers width i index := fun covers => by
          have hi := covers.2
          omega
        rw [if_neg inside, if_neg outside]

def climbAny (width count : Nat) (test : Nat → Bool) : Nat → Nat → List Nat → Bool
  | 0, _, _ => false
  | fuel + 1, index, tree =>
      if index ≤ count then
        test (entry tree index) || climbAny width count test fuel (index + lowBit width index) tree
      else false

theorem climbAny_eq_false {test : Nat → Bool} {fuel index : Nat} {tree : List Nat}
    (pos : 0 < index) (small : count < 2 ^ width)
    (passed : ∀ i, i ≤ count → Covers width i index → test (entry tree i) = false) :
    climbAny width count test fuel index tree = false := by
  induction fuel generalizing index with
  | zero => rfl
  | succ fuel ih =>
      rw [climbAny]
      split
      · next inside =>
          have own := passed index inside (Covers.self pos (by omega))
          rw [own, Bool.false_or]
          apply ih (Nat.add_pos_left pos _)
          intro i le covers
          have lower : index ≤ i := (Nat.le_add_right _ _).trans covers.2
          exact passed i le ((covers_iff pos lower (by omega)).mpr (Or.inr covers))
      · rfl

structure Represents (width count : Nat) (weight : Nat → Nat) (tree : List Nat) : Prop where
  length : tree.length = count + 1
  entry_eq : ∀ i, 0 < i → i ≤ count →
    entry tree i = ∑ p ∈ Finset.Ioc (i - lowBit width i) i, weight p

theorem sum_Ioc_congr {lo hi : Nat} {weight weight' : Nat → Nat} {index : Nat}
    (same : ∀ p, p ≠ index → weight' p = weight p) (outside : ¬ (lo < index ∧ index ≤ hi)) :
    ∑ p ∈ Finset.Ioc lo hi, weight' p = ∑ p ∈ Finset.Ioc lo hi, weight p := by
  apply Finset.sum_congr rfl
  intro p inside
  apply same
  intro found
  exact outside (found ▸ Finset.mem_Ioc.mp inside)

theorem sum_Ioc_change {lo hi : Nat} {weight weight' : Nat → Nat} {index : Nat}
    (same : ∀ p, p ≠ index → weight' p = weight p) (inside : lo < index ∧ index ≤ hi) :
    ∑ p ∈ Finset.Ioc lo hi, weight' p + weight index =
      ∑ p ∈ Finset.Ioc lo hi, weight p + weight' index := by
  have listed : index ∈ Finset.Ioc lo hi := Finset.mem_Ioc.mpr inside
  rw [← Finset.sum_erase_add _ _ listed, ← Finset.sum_erase_add _ _ listed]
  have others : ∑ p ∈ (Finset.Ioc lo hi).erase index, weight' p =
      ∑ p ∈ (Finset.Ioc lo hi).erase index, weight p :=
    Finset.sum_congr rfl fun p other => same p (Finset.ne_of_mem_erase other)
  rw [others]
  omega

theorem Represents.climb {weight weight' : Nat → Nat} {tree : List Nat} {index : Nat}
    (represents : Represents width count weight tree) (pos : 0 < index) (small : count < 2 ^ width)
    (same : ∀ p, p ≠ index → weight' p = weight p) {f : Nat → Nat}
    (change : ∀ i, i ≤ count → Covers width i index →
      f (∑ p ∈ Finset.Ioc (i - lowBit width i) i, weight p) =
        ∑ p ∈ Finset.Ioc (i - lowBit width i) i, weight' p) :
    Represents width count weight' (climb width count f count index tree) where
  length := by rw [climb_length, represents.length]
  entry_eq i above le := by
    rw [entry_climb f pos (by omega) small represents.length le, represents.entry_eq i above le]
    split
    · next covers => exact change i le covers
    · next outside => exact (sum_Ioc_congr same outside).symm

/-- An entry is filled, and its sum goes into the next one that covers it. -/
def buildStep (width count : Nat) (plus : Nat → Nat → Nat) (weight : Nat → Nat) (i : Nat)
    (tree : List Nat) : List Nat :=
  let tree := tree.modify i fun sum => plus sum (weight i)
  let parent := i + lowBit width i
  if parent ≤ count then tree.modify parent fun sum => plus sum (entry tree i) else tree

def Reached (width i j p : Nat) : Prop := Covers width j p ∧ ∀ c, Covers width c p → c < j → c ≤ i

theorem reached_iff_covers (le : j ≤ i + 1) : Reached width i j p ↔ Covers width j p := by
  constructor
  · exact fun reached => reached.1
  · exact fun covers => ⟨covers, fun c _ less => by omega⟩

theorem reached_succ (above : i + 1 < j) (small : j < 2 ^ width) :
    Reached width (i + 1) j p ↔
      Reached width i j p ∨ j = i + 1 + lowBit width (i + 1) ∧ Covers width (i + 1) p := by
  constructor
  · intro reached
    by_cases through : Covers width (i + 1) p
    · have up : Covers width j (i + 1) :=
        ⟨by have lo := reached.1.1; have le := through.2; omega, above.le⟩
      have le := up.next_le above small
      rcases Nat.eq_or_lt_of_le le with same | less
      · exact Or.inr ⟨same.symm, through⟩
      · have next := (Covers.parent (Nat.succ_pos i) (Nat.lt_trans less small)).trans through
          (Nat.lt_trans less small)
        have last := reached.2 _ next less
        have low := (lowBit_isLow (Nat.succ_pos i) (Nat.lt_trans above small)).pos
        omega
    · refine Or.inl ⟨reached.1, fun c covers less => ?_⟩
      have le := reached.2 c covers less
      have other : c ≠ i + 1 := fun same => through (same ▸ covers)
      omega
  · intro either
    rcases either with reached | ⟨same, through⟩
    · exact ⟨reached.1, fun c covers less => Nat.le_succ_of_le (reached.2 c covers less)⟩
    · subst same
      refine ⟨(Covers.parent (Nat.succ_pos i) small).trans through small, fun c covers less => ?_⟩
      by_contra beyond
      have up : Covers width c (i + 1) :=
        ⟨by have lo := covers.1; have le := through.2; omega, by omega⟩
      have le := up.next_le (by omega) (Nat.lt_trans less small)
      omega

noncomputable def gathered (width : Nat) (weight : Nat → Nat) (i j : Nat) : Nat :=
  open scoped Classical in ∑ p ∈ Finset.Ioc 0 i, if Reached width i j p then weight p else 0

section Gathered

open scoped Classical

variable {weight : Nat → Nat}

theorem gathered_le : gathered width weight i j ≤ ∑ p ∈ Finset.Ioc 0 i, weight p := by
  apply Finset.sum_le_sum
  intro p _
  split
  · exact Nat.le_refl _
  · exact Nat.zero_le _

theorem gathered_covers (le : j ≤ i) :
    gathered width weight i j = ∑ p ∈ Finset.Ioc (j - lowBit width j) j, weight p := by
  have same : Finset.Ioc (j - lowBit width j) j =
      (Finset.Ioc 0 i).filter fun p => Reached width i j p := by
    apply Finset.ext
    intro p
    rw [Finset.mem_filter, Finset.mem_Ioc, Finset.mem_Ioc,
      reached_iff_covers (Nat.le_succ_of_le le)]
    constructor
    · intro covers
      exact ⟨⟨Nat.zero_lt_of_lt covers.1, covers.2.trans le⟩, covers⟩
    · exact fun inside => inside.2
  rw [same, Finset.sum_filter]
  rfl

theorem gathered_next (small : i + 1 < 2 ^ width) :
    gathered width weight i (i + 1) + weight (i + 1) =
      gathered width weight (i + 1) (i + 1) := by
  rw [gathered, gathered, ← Finset.insert_Ioc_right_eq_Ioc_add_one (Nat.zero_le i),
    Finset.sum_insert (by simp), Nat.add_comm]
  have self : Covers width (i + 1) (i + 1) := Covers.self (Nat.succ_pos i) small
  rw [if_pos ((reached_iff_covers (Nat.le_succ _)).mpr self)]
  congr 1
  apply Finset.sum_congr rfl
  intro p _
  rw [reached_iff_covers (Nat.le_refl _), reached_iff_covers (Nat.le_succ _)]

theorem gathered_above (above : i + 1 < j) (small : j < 2 ^ width) :
    gathered width weight (i + 1) j = gathered width weight i j +
      if j = i + 1 + lowBit width (i + 1) then gathered width weight (i + 1) (i + 1) else 0 := by
  have self : Covers width (i + 1) (i + 1) :=
    Covers.self (Nat.succ_pos i) (Nat.lt_trans above small)
  have notReached : ∀ {p}, Covers width (i + 1) p → ¬ Reached width i j p := fun covers reached =>
    Nat.not_succ_le_self i (reached.2 _ covers above)
  have split : ∀ p, (if Reached width (i + 1) j p then weight p else 0) =
      (if Reached width i j p then weight p else 0) +
        if j = i + 1 + lowBit width (i + 1) then
          if Reached width (i + 1) (i + 1) p then weight p else 0 else 0 := by
    intro p
    rw [reached_succ above small, reached_iff_covers (Nat.le_succ _)]
    by_cases through : Covers width (i + 1) p
    · simp [through, notReached through]
    · simp [through]
  have before : ∑ p ∈ Finset.Ioc 0 (i + 1), (if Reached width i j p then weight p else 0) =
      gathered width weight i j := by
    rw [← Finset.insert_Ioc_right_eq_Ioc_add_one (Nat.zero_le i), Finset.sum_insert (by simp),
      if_neg (notReached self), Nat.zero_add]
    rfl
  rw [gathered, Finset.sum_congr rfl fun p _ => split p, Finset.sum_add_distrib, before]
  congr 1
  split
  · rfl
  · exact Finset.sum_const_zero

end Gathered

/-- The vector after the first indices were filled. -/
structure Filled (width count : Nat) (weight : Nat → Nat) (i : Nat) (tree : List Nat) : Prop where
  length : tree.length = count + 1
  entry_eq : ∀ j, 0 < j → j ≤ count → entry tree j = gathered width weight i j

theorem Filled.zero (weight : Nat → Nat) :
    Filled width count weight 0 (List.replicate (count + 1) 0) where
  length := List.length_replicate
  entry_eq j _ le := by
    have inside : j < count + 1 := Nat.lt_succ_of_le le
    simp [entry, gathered, List.getD_eq_getElem?_getD, inside]

theorem Filled.succ {plus : Nat → Nat → Nat} {weight : Nat → Nat} {tree : List Nat} {bound : Nat}
    (filled : Filled width count weight i tree) (inside : i + 1 ≤ count)
    (small : count < 2 ^ width) (exact_ : ∀ a b, a + b ≤ bound → plus a b = a + b)
    (bounded : ∑ p ∈ Finset.Ioc 0 count, weight p ≤ bound) :
    Filled width count weight (i + 1) (buildStep width count plus weight (i + 1) tree) := by
  have low : 0 < lowBit width (i + 1) :=
    (lowBit_isLow (Nat.succ_pos i) (Nat.lt_of_le_of_lt inside small)).pos
  have within : ∀ {k}, k ≤ count → ∀ j, gathered width weight k j ≤ bound := fun le j =>
    gathered_le.trans ((Finset.sum_le_sum_of_subset
      (Finset.Ioc_subset_Ioc_right le)).trans bounded)
  have own : plus (entry tree (i + 1)) (weight (i + 1)) =
      gathered width weight (i + 1) (i + 1) := by
    have sum := @gathered_next i width weight (Nat.lt_of_le_of_lt inside small)
    rw [filled.entry_eq _ (Nat.succ_pos i) inside, exact_ _ _ (sum ▸ within inside _), sum]
  have length : (tree.modify (i + 1) fun sum => plus sum (weight (i + 1))).length = count + 1 := by
    rw [List.length_modify, filled.length]
  refine ⟨?_, fun j pos le => ?_⟩
  · simp only [buildStep]
    split
    · rw [List.length_modify, length]
    · exact length
  · have first := entry_modify (by have l := filled.length; omega : i + 1 < tree.length)
      (fun sum => plus sum (weight (i + 1)))
    have second : entry (buildStep width count plus weight (i + 1) tree) j =
        if i + 1 + lowBit width (i + 1) = j then
          plus (entry (tree.modify (i + 1) fun sum => plus sum (weight (i + 1))) j)
            (gathered width weight (i + 1) (i + 1))
        else entry (tree.modify (i + 1) fun sum => plus sum (weight (i + 1))) j := by
      simp only [buildStep]
      split
      · rw [entry_modify (by omega), first (i + 1), if_pos rfl, own]
      · rw [if_neg (by omega)]
    rw [second, first j]
    rcases Nat.lt_trichotomy j (i + 1) with below | here | above
    · have met : j ≤ i := Nat.le_of_lt_succ below
      rw [if_neg (by omega), if_neg (by omega), filled.entry_eq j pos le, gathered_covers met,
        gathered_covers (Nat.le_succ_of_le met)]
    · subst here
      rw [if_neg (by omega), if_pos rfl, own]
    · have sum := @gathered_above i j width weight above (Nat.lt_of_le_of_lt le small)
      have le_bound := within inside j
      rw [if_neg (by omega : ¬ i + 1 = j), filled.entry_eq j pos le, sum]
      by_cases parent : i + 1 + lowBit width (i + 1) = j
      · rw [if_pos parent.symm] at sum ⊢
        rw [if_pos parent, exact_ _ _ (sum ▸ le_bound)]
      · rw [if_neg parent, if_neg (Ne.symm parent), Nat.add_zero]

theorem Filled.represents {weight : Nat → Nat} {tree : List Nat}
    (filled : Filled width count weight count tree) : Represents width count weight tree where
  length := filled.length
  entry_eq j pos le := by rw [filled.entry_eq j pos le, gathered_covers le]

def topBit (count : Nat) : Nat → Nat → Nat
  | 0, bit => bit
  | fuel + 1, bit => if bit ≤ count / 2 then topBit count fuel (2 * bit) else bit

theorem topBit_spec {fuel k : Nat} (enough : count < 2 ^ (k + fuel)) :
    ∃ t, topBit count fuel (2 ^ k) = 2 ^ t ∧ t ≤ k + fuel ∧ count < 2 ^ (t + 1) := by
  induction fuel generalizing k with
  | zero =>
      refine ⟨k, rfl, Nat.le_refl _, ?_⟩
      rw [Nat.pow_succ]
      rw [Nat.add_zero] at enough
      omega
  | succ fuel ih =>
      rw [topBit]
      split
      · obtain ⟨t, same, le, less⟩ := @ih (k + 1) (by rwa [Nat.add_right_comm, Nat.add_assoc])
        refine ⟨t, ?_, by omega, less⟩
        rw [← same, Nat.pow_succ']
      · refine ⟨k, rfl, by omega, ?_⟩
        rw [Nat.pow_succ]
        omega

def descend (count : Nat) (plus : Nat → Nat → Nat) (fits : Nat → Bool) (tree : List Nat) :
    Nat → Nat → Nat → Nat → Nat
  | 0, _, below, _ => below
  | fuel + 1, bit, below, sum =>
      if bit = 0 then below
      else
        let next := below + bit
        if next ≤ count && fits (plus sum (entry tree next)) then
          descend count plus fits tree fuel (bit / 2) next (plus sum (entry tree next))
        else descend count plus fits tree fuel (bit / 2) below sum

/-- The sum up to `below` fits, that up to one `width` more does not or is past the end. -/
structure Between (count : Nat) (fits : Nat → Bool) (weight : Nat → Nat) (step below : Nat) :
    Prop where
  le : below ≤ count
  dvd : step ∣ below
  lower : fits (∑ p ∈ Finset.Ioc 0 below, weight p) = true
  upper : below + step ≤ count → fits (∑ p ∈ Finset.Ioc 0 (below + step), weight p) = false

theorem sum_Ioc_append (weight : Nat → Nat) (a b : Nat) :
    ∑ p ∈ Finset.Ioc 0 a, weight p + ∑ p ∈ Finset.Ioc a (a + b), weight p =
      ∑ p ∈ Finset.Ioc 0 (a + b), weight p :=
  Finset.sum_Ioc_consecutive weight (Nat.zero_le a) (Nat.le_add_right a b)

theorem Represents.entry_next {weight : Nat → Nat} {tree : List Nat} {k below : Nat}
    (represents : Represents width count weight tree) (small : count < 2 ^ width)
    (dvd : 2 ^ (k + 1) ∣ below) (le : below + 2 ^ k ≤ count) :
    ∑ p ∈ Finset.Ioc 0 below, weight p + entry tree (below + 2 ^ k) =
      ∑ p ∈ Finset.Ioc 0 (below + 2 ^ k), weight p := by
  obtain ⟨m, rfl⟩ := dvd
  have pos := Nat.two_pow_pos k
  rw [represents.entry_eq _ (Nat.add_pos_right _ pos) le,
    lowBit_eq (Nat.lt_of_le_of_lt le small), Nat.add_sub_cancel, sum_Ioc_append]

theorem Between.advance {fits : Nat → Bool} {weight : Nat → Nat} {k below : Nat}
    (between : Between count fits weight (2 ^ (k + 1)) below) (le : below + 2 ^ k ≤ count)
    (fit : fits (∑ p ∈ Finset.Ioc 0 (below + 2 ^ k), weight p) = true) :
    Between count fits weight (2 ^ k) (below + 2 ^ k) where
  le := le
  dvd := Nat.dvd_add ((Nat.pow_dvd_pow 2 (Nat.le_succ k)).trans between.dvd) (Nat.dvd_refl _)
  lower := fit
  upper := by
    have twice : below + 2 ^ k + 2 ^ k = below + 2 ^ (k + 1) := by
      rw [Nat.pow_succ]
      omega
    rw [twice]
    exact between.upper

theorem Between.stay {fits : Nat → Bool} {weight : Nat → Nat} {k below : Nat}
    (between : Between count fits weight (2 ^ (k + 1)) below)
    (refused : below + 2 ^ k ≤ count →
      fits (∑ p ∈ Finset.Ioc 0 (below + 2 ^ k), weight p) = false) :
    Between count fits weight (2 ^ k) below where
  le := between.le
  dvd := (Nat.pow_dvd_pow 2 (Nat.le_succ k)).trans between.dvd
  lower := between.lower
  upper := refused

theorem Represents.descend {plus : Nat → Nat → Nat} {fits : Nat → Bool} {weight : Nat → Nat}
    {tree : List Nat} {bound fuel k below : Nat} (represents : Represents width count weight tree)
    (small : count < 2 ^ width) (exact_ : ∀ a b, a + b ≤ bound → plus a b = a + b)
    (bounded : ∑ p ∈ Finset.Ioc 0 count, weight p ≤ bound) (enough : k ≤ fuel)
    (between : Between count fits weight (2 ^ k) below) :
    Between count fits weight 1 (descend count plus fits tree fuel (2 ^ k / 2) below
      (∑ p ∈ Finset.Ioc 0 below, weight p)) := by
  induction fuel generalizing k below with
  | zero =>
      obtain rfl := Nat.le_zero.mp enough
      exact between
  | succ fuel ih =>
      cases k with
      | zero => exact between
      | succ k =>
          have half : 2 ^ (k + 1) / 2 = 2 ^ k := by
            rw [Nat.pow_succ]
            exact Nat.mul_div_cancel _ (by decide)
          have bit : ¬ 2 ^ k = 0 := (Nat.two_pow_pos k).ne'
          simp only [half, Fenwick.descend, if_neg bit, Bool.and_eq_true, decide_eq_true_eq]
          by_cases le : below + 2 ^ k ≤ count
          · have sum := represents.entry_next small between.dvd le
            have within := (Finset.sum_le_sum_of_subset
              (Finset.Ioc_subset_Ioc_right le)).trans bounded
            rw [exact_ _ _ (sum ▸ within), sum]
            split
            · next fit => exact ih (by omega) (between.advance le fit.2)
            · next refused =>
                exact ih (by omega) (between.stay fun _ =>
                  Bool.eq_false_iff.mpr fun fit => refused ⟨le, fit⟩)
          · rw [if_neg fun both => le both.1]
            exact ih (by omega) (between.stay fun inside => absurd inside le)

end Lib.Fenwick
