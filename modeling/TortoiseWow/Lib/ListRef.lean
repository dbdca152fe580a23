import Mathlib

/-!
A vector of objects reached through pointers: linear search returns the index
of the object together with its value, and an update or an erasure through the
index is accounted for by a weight summed over the list. The sums are over
natural numbers, so a balance is stated with additions on both sides.
-/

namespace Lib

universe u v

variable {α : Type u}

/-- Linear search: the first element that satisfies `p`, with its index. -/
def findRef (p : α → Bool) : List α → Option (Nat × α)
  | [] => none
  | a :: l => if p a then some (0, a) else (findRef p l).map fun r => (r.1 + 1, r.2)

theorem findRef_get {p : α → Bool} {l : List α} {i : Nat} {x : α}
    (h : findRef p l = some (i, x)) : l[i]? = some x := by
  induction l generalizing i with
  | nil => cases h
  | cons a l ih =>
      simp only [findRef] at h
      split at h
      · cases h; rfl
      · obtain ⟨⟨j, y⟩, hj, he⟩ := Option.map_eq_some_iff.mp h
        cases he
        simpa using ih hj

theorem findRef_pred {p : α → Bool} {l : List α} {i : Nat} {x : α}
    (h : findRef p l = some (i, x)) : p x = true := by
  induction l generalizing i with
  | nil => cases h
  | cons a l ih =>
      simp only [findRef] at h
      split at h
      · cases h; assumption
      · obtain ⟨⟨j, y⟩, hj, he⟩ := Option.map_eq_some_iff.mp h
        cases he
        exact ih hj

theorem findRef_eq_none {p : α → Bool} {l : List α} :
    findRef p l = none ↔ ∀ x ∈ l, p x = false := by
  induction l with
  | nil => simp [findRef]
  | cons a l ih =>
      simp only [findRef, List.mem_cons, forall_eq_or_imp]
      split
      · simp_all
      · simp_all

/-- An object rewritten in place is still the one the search finds. -/
theorem findRef_set {p : α → Bool} {l : List α} {i : Nat} {x y : α}
    (h : findRef p l = some (i, x)) (hy : p y = true) :
    findRef p (l.set i y) = some (i, y) := by
  induction l generalizing i with
  | nil => cases h
  | cons a l ih =>
      simp only [findRef] at h
      split at h
      · cases h
        simp [findRef, hy]
      · rename_i miss
        obtain ⟨⟨j, z⟩, hj, he⟩ := Option.map_eq_some_iff.mp h
        cases he
        simp [findRef, miss, ih hj]

/-- Rewriting an object that the search passes over, before and after, changes nothing. -/
theorem findRef_set_other {p : α → Bool} {l : List α} {i : Nat} {x y : α}
    (there : l[i]? = some x) (hx : p x = false) (hy : p y = false) :
    findRef p (l.set i y) = findRef p l := by
  induction l generalizing i with
  | nil => rfl
  | cons a l ih =>
      cases i with
      | zero =>
          simp only [List.getElem?_cons_zero, Option.some.injEq] at there
          subst there
          simp [findRef, hx, hy]
      | succ i => simp only [List.set_cons_succ, findRef, ih (by simpa using there)]

def weight (w : α → Nat) (l : List α) : Nat := (l.map w).sum

@[simp] theorem weight_nil (w : α → Nat) : weight w [] = 0 := rfl

@[simp] theorem weight_cons (w : α → Nat) (a : α) (l : List α) :
    weight w (a :: l) = w a + weight w l := by simp [weight]

@[simp] theorem weight_append (w : α → Nat) (l m : List α) :
    weight w (l ++ m) = weight w l + weight w m := by simp [weight]

theorem weight_set (w : α → Nat) {l : List α} {i : Nat} {x : α} (y : α)
    (h : l[i]? = some x) : weight w (l.set i y) + w x = weight w l + w y := by
  induction l generalizing i with
  | nil => simp at h
  | cons a l ih =>
      cases i with
      | zero =>
          simp only [List.getElem?_cons_zero, Option.some.injEq] at h
          simp only [List.set_cons_zero, weight_cons, h]
          omega
      | succ i =>
          have := ih (by simpa using h)
          simp only [List.set_cons_succ, weight_cons]
          omega

theorem weight_eraseIdx (w : α → Nat) {l : List α} {i : Nat} {x : α}
    (h : l[i]? = some x) : weight w (l.eraseIdx i) + w x = weight w l := by
  induction l generalizing i with
  | nil => simp at h
  | cons a l ih =>
      cases i with
      | zero =>
          simp only [List.getElem?_cons_zero, Option.some.injEq] at h
          simp only [List.eraseIdx_cons_zero, weight_cons, h]
          omega
      | succ i =>
          have := ih (by simpa using h)
          simp only [List.eraseIdx_cons_succ, weight_cons]
          omega

theorem weight_pos {w : α → Nat} {l : List α} (h : 0 < weight w l) : ∃ x ∈ l, 0 < w x := by
  by_contra hnone
  refine Nat.ne_of_gt h (List.sum_eq_zero fun n hmem => ?_)
  obtain ⟨x, hx, rfl⟩ := List.mem_map.mp hmem
  exact Nat.eq_zero_of_not_pos fun hpos => hnone ⟨x, hx, hpos⟩

theorem weight_ge (w : α → Nat) {l : List α} {i : Nat} {x : α}
    (h : l[i]? = some x) : w x ≤ weight w l := by
  have := weight_eraseIdx w h
  omega

/-- Two different references together weigh no more than the list. -/
theorem weight_ge_pair (w : α → Nat) {l : List α} {i j : Nat} {x y : α}
    (hi : l[i]? = some x) (hj : l[j]? = some y) (hne : i ≠ j) :
    w x + w y ≤ weight w l := by
  induction l generalizing i j with
  | nil => simp at hi
  | cons a l ih =>
      cases i with
      | zero =>
          cases j with
          | zero => exact absurd rfl hne
          | succ j =>
              simp only [List.getElem?_cons_zero, Option.some.injEq] at hi
              have := weight_ge w (show l[j]? = some y by simpa using hj)
              simp only [weight_cons, hi]
              omega
      | succ i =>
          cases j with
          | zero =>
              simp only [List.getElem?_cons_zero, Option.some.injEq] at hj
              have := weight_ge w (show l[i]? = some x by simpa using hi)
              simp only [weight_cons, hj]
              omega
          | succ j =>
              have := ih (by simpa using hi) (by simpa using hj) (by omega)
              simp only [weight_cons]
              omega

theorem weight_set_eq (w : α → Nat) {l : List α} {i : Nat} {x y : α}
    (h : l[i]? = some x) (hw : w y = w x) : weight w (l.set i y) = weight w l := by
  have := weight_set w y h
  omega

section Keys

variable {κ : Type v} [DecidableEq κ] {g : α → κ}

/-- An object is rewritten in place by rewriting every object with its key. -/
theorem map_key_eq_set {l : List α} {i : Nat} {x : α} (c : α) (nodup : (l.map g).Nodup)
    (there : l[i]? = some x) : (l.map fun z => if g z = g x then c else z) = l.set i c := by
  induction l generalizing i with
  | nil => simp at there
  | cons a l ih =>
      rw [List.map_cons, List.nodup_cons] at nodup
      cases i with
      | zero =>
          simp only [List.getElem?_cons_zero, Option.some.injEq] at there
          subst there
          have rest : (l.map fun z => if g z = g a then c else z) = l := by
            conv => rhs; rw [← List.map_id l]
            apply List.map_congr_left
            intro z mem
            have other : ¬ g z = g a := fun same => nodup.1 (same ▸ List.mem_map_of_mem mem)
            simp [other]
          simp [rest]
      | succ i =>
          have there' : l[i]? = some x := by simpa using there
          have ne : g a ≠ g x := fun same =>
            nodup.1 (same ▸ List.mem_map_of_mem (List.mem_of_getElem? there'))
          simp [ne, ih nodup.2 there']

/-- Distinct keys: filtering by the key of an element leaves this element. -/
theorem filter_key_eq {κ : Type v} [DecidableEq κ] {g : α → κ} {l : List α} {x : α}
    (nodup : (l.map g).Nodup) (h : x ∈ l) : l.filter (fun y => g y == g x) = [x] := by
  induction l with
  | nil => cases h
  | cons y l ih =>
      obtain ⟨hfresh, hrest⟩ := List.nodup_cons.mp nodup
      rcases List.mem_cons.mp h with rfl | h
      · have hnone : l.filter (fun y => g y == g x) = [] := by
          rw [List.filter_eq_nil_iff]
          intro y hy heq
          exact hfresh (List.mem_map.mpr ⟨y, hy, by simpa using heq⟩)
        simp [hnone]
      · have hne : g y ≠ g x := fun heq => hfresh (List.mem_map.mpr ⟨x, h, heq.symm⟩)
        simp [hne, ih hrest h]

theorem filter_key_eq_eraseIdx {l : List α} {i : Nat} {x : α} (nodup : (l.map g).Nodup)
    (there : l[i]? = some x) : (l.filter fun z => g z ≠ g x) = l.eraseIdx i := by
  induction l generalizing i with
  | nil => simp at there
  | cons a l ih =>
      rw [List.map_cons, List.nodup_cons] at nodup
      cases i with
      | zero =>
          simp only [List.getElem?_cons_zero, Option.some.injEq] at there
          subst there
          have rest : (l.filter fun z => g z ≠ g a) = l := by
            refine List.filter_eq_self.mpr fun z mem => ?_
            exact decide_eq_true fun same => nodup.1 (same ▸ List.mem_map_of_mem mem)
          simpa using rest
      | succ i =>
          have there' : l[i]? = some x := by simpa using there
          have ne : g a ≠ g x := fun same =>
            nodup.1 (same ▸ List.mem_map_of_mem (List.mem_of_getElem? there'))
          have rest := ih nodup.2 there'
          simp only [List.eraseIdx_cons_succ, ← rest]
          simp [ne]

end Keys

end Lib
