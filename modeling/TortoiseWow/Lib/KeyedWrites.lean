import Mathlib

/-!
Loops that write to one key after another. When every write changes the entry of
its own key only, and no key is written twice, the order of the loop does not
matter: each key ends with its own write applied once.
-/

namespace Lib

universe u v w x

section KeyedWrites

variable {μ : Type u} {β : Type v} {κ : Type w} {α : Type x}

structure KeyedWrite (find : μ → κ → Option α) (write : μ → β → μ) (key : β → κ)
    (value : β → Option α → Option α) : Prop where
  self : ∀ m b, find (write m b) (key b) = value b (find m (key b))
  other : ∀ m b k, k ≠ key b → find (write m b) k = find m k

variable {find : μ → κ → Option α} {write : μ → β → μ} {key : β → κ}
  {value : β → Option α → Option α}

theorem KeyedWrite.foldl_other (h : KeyedWrite find write key value) {items : List β} {k : κ}
    (absent : k ∉ items.map key) (m : μ) : find (items.foldl write m) k = find m k := by
  induction items generalizing m with
  | nil => rfl
  | cons item items ih =>
      rw [List.map_cons, List.mem_cons, not_or] at absent
      rw [List.foldl_cons, ih absent.2, h.other m item k absent.1]

theorem KeyedWrite.foldl_self (h : KeyedWrite find write key value) {items : List β}
    (distinct : (items.map key).Nodup) {item : β} (mem : item ∈ items) (m : μ) :
    find (items.foldl write m) (key item) = value item (find m (key item)) := by
  induction items generalizing m with
  | nil => exact absurd mem List.not_mem_nil
  | cons first items ih =>
      rw [List.map_cons, List.nodup_cons] at distinct
      rw [List.foldl_cons]
      rcases List.mem_cons.mp mem with rfl | mem
      · rw [h.foldl_other distinct.1, h.self]
      · have apart : key item ≠ key first :=
          fun same => distinct.1 (same ▸ List.mem_map.mpr ⟨item, mem, rfl⟩)
        rw [ih distinct.2 mem, h.other m first _ apart]

end KeyedWrites

end Lib
