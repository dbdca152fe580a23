import Mathlib.Algebra.BigOperators.Group.Finset.Basic
import Mathlib.Algebra.BigOperators.Group.List.Basic
import Mathlib.Algebra.Order.BigOperators.Group.Finset
import Mathlib.Data.Finset.SDiff
import Mathlib.Tactic.Ring

/-!
An amount that is spread over places: each takes what it has room for until nothing is left, and a
place that comes up again is passed over.
-/

namespace Lib

universe u

structure Filling (κ : Type u) where
  put : List (κ × Nat)
  left : Nat

namespace Filling

variable {κ : Type u}

def keys (s : Filling κ) : List κ := s.put.map Prod.fst

def total (s : Filling κ) : Nat := (s.put.map Prod.snd).sum

def Measures (room : κ → Nat) (places : List (κ × Nat)) : Prop :=
  ∀ place ∈ places, place.2 = room place.1

variable [DecidableEq κ]

def visit (s : Filling κ) (place : κ × Nat) : Filling κ :=
  if s.left = 0 ∨ place.1 ∈ s.keys then s
  else ⟨s.put ++ [(place.1, min place.2 s.left)], s.left - min place.2 s.left⟩

def fill (s : Filling κ) (places : List (κ × Nat)) : Filling κ := places.foldl visit s

@[simp] theorem fill_nil (s : Filling κ) : s.fill [] = s := rfl

@[simp] theorem fill_cons (s : Filling κ) (place : κ × Nat) (places : List (κ × Nat)) :
    s.fill (place :: places) = (s.visit place).fill places := rfl

theorem fill_append (s : Filling κ) (front back : List (κ × Nat)) :
    s.fill (front ++ back) = (s.fill front).fill back := List.foldl_append

theorem visit_passed {s : Filling κ} {place : κ × Nat} (passed : s.left = 0 ∨ place.1 ∈ s.keys) :
    s.visit place = s := by
  rw [visit, if_pos passed]

theorem visit_new {s : Filling κ} {place : κ × Nat} (some_left : s.left ≠ 0)
    (new : place.1 ∉ s.keys) :
    s.visit place =
      ⟨s.put ++ [(place.1, min place.2 s.left)], s.left - min place.2 s.left⟩ := by
  rw [visit, if_neg]
  rintro (none_left | old)
  · exact some_left none_left
  · exact new old

theorem fill_of_left_eq_zero {s : Filling κ} (none_left : s.left = 0)
    (places : List (κ × Nat)) : s.fill places = s := by
  induction places with
  | nil => rfl
  | cons place places ih => rw [fill_cons, visit_passed (.inl none_left), ih]

theorem visit_total (s : Filling κ) (place : κ × Nat) :
    (s.visit place).total + (s.visit place).left = s.total + s.left := by
  by_cases passed : s.left = 0 ∨ place.1 ∈ s.keys
  · rw [visit_passed passed]
  · obtain ⟨some_left, new⟩ := not_or.mp passed
    rw [visit_new some_left new]
    simp only [total, List.map_append, List.map_cons, List.map_nil, List.sum_append,
      List.sum_cons, List.sum_nil]
    omega

theorem fill_total (s : Filling κ) (places : List (κ × Nat)) :
    (s.fill places).total + (s.fill places).left = s.total + s.left := by
  induction places generalizing s with
  | nil => rfl
  | cons place places ih => rw [fill_cons, ih, visit_total]

theorem visit_keys {s : Filling κ} {place : κ × Nat} (some_left : s.left ≠ 0)
    (new : place.1 ∉ s.keys) : (s.visit place).keys = s.keys ++ [place.1] := by
  rw [visit_new some_left new]
  simp only [keys, List.map_append, List.map_cons, List.map_nil]

theorem visit_left {s : Filling κ} {place : κ × Nat} (some_left : s.left ≠ 0)
    (new : place.1 ∉ s.keys) : (s.visit place).left = s.left - place.2 := by
  rw [visit_new some_left new]
  change s.left - min place.2 s.left = s.left - place.2
  omega

theorem sum_passed (room : κ → Nat) {s : Filling κ} {place : κ × Nat} (old : place.1 ∈ s.keys)
    (places : List (κ × Nat)) :
    ∑ k ∈ ((place :: places).map Prod.fst).toFinset \ s.keys.toFinset, room k =
      ∑ k ∈ (places.map Prod.fst).toFinset \ s.keys.toFinset, room k := by
  rw [List.map_cons, List.toFinset_cons,
    Finset.insert_sdiff_of_mem _ (List.mem_toFinset.mpr old)]

theorem sum_new (room : κ → Nat) {s : Filling κ} {place : κ × Nat} (some_left : s.left ≠ 0)
    (new : place.1 ∉ s.keys) (places : List (κ × Nat)) :
    ∑ k ∈ ((place :: places).map Prod.fst).toFinset \ s.keys.toFinset, room k =
      room place.1 +
        ∑ k ∈ (places.map Prod.fst).toFinset \ (s.visit place).keys.toFinset, room k := by
  have outside : place.1 ∉ s.keys.toFinset := fun inside => new (List.mem_toFinset.mp inside)
  have rest : (places.map Prod.fst).toFinset \ (s.visit place).keys.toFinset =
      ((places.map Prod.fst).toFinset \ s.keys.toFinset).erase place.1 := by
    rw [visit_keys some_left new]
    ext k
    simp only [Finset.mem_sdiff, List.mem_toFinset, List.mem_append, List.mem_singleton,
      Finset.mem_erase]
    tauto
  rw [rest, ← Finset.sum_insert (Finset.notMem_erase _ _), List.map_cons, List.toFinset_cons,
    Finset.insert_sdiff_of_notMem _ outside]
  congr 1
  ext k
  simp only [Finset.mem_insert, Finset.mem_erase]
  tauto

theorem fill_left {room : κ → Nat} (s : Filling κ) {places : List (κ × Nat)}
    (measures : Measures room places) :
    (s.fill places).left =
      s.left - ∑ k ∈ (places.map Prod.fst).toFinset \ s.keys.toFinset, room k := by
  induction places generalizing s with
  | nil => simp
  | cons place places ih =>
      have later : Measures room places := fun p inside =>
        measures p (List.mem_cons_of_mem _ inside)
      rw [fill_cons, ih _ later]
      by_cases none_left : s.left = 0
      · rw [visit_passed (.inl none_left), none_left, Nat.zero_sub, Nat.zero_sub]
      · by_cases old : place.1 ∈ s.keys
        · rw [visit_passed (.inr old), sum_passed room old]
        · rw [sum_new room none_left old, visit_left none_left old,
            measures place List.mem_cons_self, Nat.sub_sub]

theorem fill_left_le {room : κ → Nat} (s : Filling κ) {places : List (κ × Nat)}
    (at_least : ∀ place ∈ places, room place.1 ≤ place.2) :
    (s.fill places).left ≤
      s.left - ∑ k ∈ (places.map Prod.fst).toFinset \ s.keys.toFinset, room k := by
  induction places generalizing s with
  | nil => simp
  | cons place places ih =>
      have later := ih (s.visit place) fun p inside => at_least p (List.mem_cons_of_mem _ inside)
      by_cases none_left : s.left = 0
      · rw [fill_of_left_eq_zero none_left, none_left]
        exact Nat.zero_le _
      · rw [fill_cons]
        by_cases old : place.1 ∈ s.keys
        · rw [visit_passed (.inr old)] at later ⊢
          rw [sum_passed room old]
          exact later
        · have here := at_least place List.mem_cons_self
          rw [visit_left none_left old] at later
          rw [sum_new room none_left old]
          omega

theorem visit_nodup {s : Filling κ} (nodup : s.keys.Nodup) (place : κ × Nat) :
    (s.visit place).keys.Nodup := by
  by_cases passed : s.left = 0 ∨ place.1 ∈ s.keys
  · rw [visit_passed passed]
    exact nodup
  · obtain ⟨some_left, new⟩ := not_or.mp passed
    rw [visit_keys some_left new]
    refine List.Nodup.append nodup (List.nodup_singleton _) fun k old inside => ?_
    rw [List.mem_singleton.mp inside] at old
    exact new old

theorem fill_nodup {s : Filling κ} (nodup : s.keys.Nodup) (places : List (κ × Nat)) :
    (s.fill places).keys.Nodup := by
  induction places generalizing s with
  | nil => exact nodup
  | cons place places ih => exact ih (visit_nodup nodup place)

theorem visit_put {s : Filling κ} {place : κ × Nat} {k : κ} {amount : Nat}
    (inside : (k, amount) ∈ (s.visit place).put) :
    (k, amount) ∈ s.put ∨ place.1 = k ∧ amount ≤ place.2 := by
  by_cases passed : s.left = 0 ∨ place.1 ∈ s.keys
  · rw [visit_passed passed] at inside
    exact .inl inside
  · obtain ⟨some_left, new⟩ := not_or.mp passed
    rw [visit_new some_left new] at inside
    rcases List.mem_append.mp inside with old | last
    · exact .inl old
    · obtain ⟨rfl, rfl⟩ := Prod.mk.inj (List.mem_singleton.mp last)
      exact .inr ⟨rfl, Nat.min_le_left _ _⟩

/-- No place takes more than it has room for. -/
theorem fill_put {s : Filling κ} {places : List (κ × Nat)} {k : κ} {amount : Nat}
    (inside : (k, amount) ∈ (s.fill places).put) :
    (k, amount) ∈ s.put ∨ ∃ place ∈ places, place.1 = k ∧ amount ≤ place.2 := by
  induction places generalizing s with
  | nil => exact .inl inside
  | cons place places ih =>
      rcases ih inside with early | ⟨p, later, here⟩
      · rcases visit_put early with old | here
        · exact .inl old
        · exact .inr ⟨place, List.mem_cons_self, here⟩
      · exact .inr ⟨p, List.mem_cons_of_mem _ later, here⟩

theorem mem_visit_keys (s : Filling κ) (place : κ × Nat) (k : κ) :
    k ∈ (s.visit place).keys ↔ k ∈ s.keys ∨ place.1 = k ∧ s.left ≠ 0 := by
  by_cases passed : s.left = 0 ∨ place.1 ∈ s.keys
  · rw [visit_passed passed]
    constructor
    · exact .inl
    · rintro (old | ⟨rfl, some_left⟩)
      · exact old
      · exact passed.resolve_left some_left
  · obtain ⟨some_left, new⟩ := not_or.mp passed
    rw [visit_keys some_left new, List.mem_append, List.mem_singleton]
    exact or_congr_right ⟨fun same => ⟨same.symm, some_left⟩, fun here => here.1.symm⟩

/-- The places that take something are the ones that are come to with something left. -/
theorem mem_fill_keys (s : Filling κ) (places : List (κ × Nat)) (k : κ) :
    k ∈ (s.fill places).keys ↔ k ∈ s.keys ∨
      ∃ front place back, places = front ++ place :: back ∧ place.1 = k ∧
        (s.fill front).left ≠ 0 := by
  induction places generalizing s with
  | nil =>
      rw [fill_nil]
      constructor
      · exact .inl
      · rintro (old | ⟨front, place, back, split, -⟩)
        · exact old
        · exact absurd split.symm (by simp)
  | cons first places ih =>
      rw [fill_cons, ih, mem_visit_keys]
      constructor
      · rintro ((old | ⟨here, some_left⟩) | ⟨front, place, back, rfl, here⟩)
        · exact .inl old
        · exact .inr ⟨[], first, places, rfl, here, some_left⟩
        · exact .inr ⟨first :: front, place, back, rfl, here⟩
      · rintro (old | ⟨front, place, back, split, here⟩)
        · exact .inl (.inl old)
        · cases front with
          | nil =>
              obtain ⟨rfl, -⟩ := List.cons.inj split
              exact .inl (.inr here)
          | cons p front =>
              obtain ⟨rfl, rfl⟩ := List.cons.inj split
              exact .inr ⟨front, place, back, rfl, here⟩

end Filling

end Lib
