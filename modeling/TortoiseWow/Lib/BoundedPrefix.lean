import Mathlib.Data.List.Basic
import Mathlib.Tactic.Ring

/-!
Items that are taken one after the other as long as the place where one begins still admits it.
-/

namespace Lib

universe u v

variable {α : Type u} {β : Type v}

def boundedPrefix (admits : Nat → Bool) (size : α → Nat) : Nat → List α → List α
  | _, [] => []
  | start, item :: rest =>
      if admits start then item :: boundedPrefix admits size (start + size item) rest else []

def totalSize (size : α → Nat) (items : List α) : Nat := (items.map size).sum

@[simp] theorem totalSize_nil (size : α → Nat) : totalSize size [] = 0 := rfl

@[simp] theorem totalSize_cons (size : α → Nat) (item : α) (items : List α) :
    totalSize size (item :: items) = size item + totalSize size items := by
  rw [totalSize, List.map_cons, List.sum_cons, totalSize]

theorem totalSize_append (size : α → Nat) (front back : List α) :
    totalSize size (front ++ back) = totalSize size front + totalSize size back := by
  rw [totalSize, List.map_append, List.sum_append, totalSize, totalSize]

theorem totalSize_map (size : β → Nat) (f : α → β) (items : List α) :
    totalSize size (items.map f) = totalSize (fun item => size (f item)) items := by
  rw [totalSize, List.map_map]
  rfl

theorem totalSize_mono {size size' : α → Nat} {items : List α}
    (le : ∀ item ∈ items, size item ≤ size' item) :
    totalSize size items ≤ totalSize size' items := by
  induction items with
  | nil => exact Nat.le_refl _
  | cons item items ih =>
      have first := le item List.mem_cons_self
      have later := ih fun item inside => le item (List.mem_cons_of_mem _ inside)
      rw [totalSize_cons, totalSize_cons]
      omega

theorem boundedPrefix_map (admits : Nat → Bool) (size : β → Nat) (f : α → β) (start : Nat)
    (items : List α) :
    boundedPrefix admits size start (items.map f) =
      (boundedPrefix admits (fun item => size (f item)) start items).map f := by
  induction items generalizing start with
  | nil => rfl
  | cons item items ih =>
      rw [List.map_cons, boundedPrefix, boundedPrefix]
      split
      · rw [ih, List.map_cons]
      · rfl

/-- What is taken stays below a limit and has a property if and only if each item that has its
turn does. -/
theorem boundedPrefix_below {admits : Nat → Bool}
    (antitone : ∀ start more, admits (start + more) = true → admits start = true)
    (size : α → Nat) (p : α → Prop) {limit start : Nat} (below : start < limit)
    (items : List α) :
    (start + totalSize size (boundedPrefix admits size start items) < limit ∧
      ∀ item ∈ boundedPrefix admits size start items, p item) ↔
    ∀ front item, front ++ [item] <+: items → admits (start + totalSize size front) = true →
      p item ∧ start + totalSize size front + size item < limit := by
  induction items generalizing start with
  | nil => simpa [boundedPrefix] using below
  | cons first items ih =>
      have turns : (∀ front item, front ++ [item] <+: first :: items →
            admits (start + totalSize size front) = true →
            p item ∧ start + totalSize size front + size item < limit) ↔
          (admits start = true → p first ∧ start + size first < limit) ∧
          ∀ front item, front ++ [item] <+: items →
            admits (start + size first + totalSize size front) = true →
            p item ∧ start + size first + totalSize size front + size item < limit := by
        constructor
        · intro all
          refine ⟨fun admitted => all [] first (by simp) admitted, fun front item inside => ?_⟩
          have turn := all (first :: front) item (by simpa using inside)
          rwa [totalSize_cons, ← Nat.add_assoc] at turn
        · intro all front item inside
          cases front with
          | nil =>
              have same : item = first := by simpa using inside
              rw [same]
              exact all.1
          | cons head front =>
              rw [List.cons_append, List.cons_prefix_cons] at inside
              rw [inside.1, totalSize_cons, ← Nat.add_assoc]
              exact all.2 front item inside.2
      rw [turns, boundedPrefix]
      cases admitted : admits start with
      | false =>
          have never : ∀ more, admits (start + more) = true → False := fun more later => by
            rw [antitone start more later] at admitted
            cases admitted
          simp only [Bool.false_eq_true, if_false, totalSize_nil, Nat.add_zero]
          refine ⟨fun _ => ⟨False.elim, fun front item inside later => ?_⟩,
            fun _ => ⟨below, fun item none => absurd none List.not_mem_nil⟩⟩
          rw [Nat.add_assoc] at later
          exact (never _ later).elim
      | true =>
          simp only [if_true, totalSize_cons, List.mem_cons, forall_eq_or_imp, true_implies,
            ← Nat.add_assoc]
          by_cases room : start + size first < limit
          · rw [← ih room]
            tauto
          · constructor
            · intro all
              omega
            · intro all
              exact absurd all.1.2 room

end Lib
