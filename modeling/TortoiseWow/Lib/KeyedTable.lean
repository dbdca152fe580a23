import Mathlib
import TortoiseWow.Lib.Table

/-!
Tables whose rows have distinct keys, with the statements that keep them so. What a
statement does is said by what is found under each key afterwards.
-/

namespace Lib

universe u v

variable {ρ : Type u} {κ : Type v} [DecidableEq κ] {key : ρ → κ}

structure KeyedTable (key : ρ → κ) where
  rows : List ρ
  nodup : (rows.map key).Nodup

namespace KeyedTable

def empty : KeyedTable key := ⟨[], List.nodup_nil⟩

def insert (row : ρ) (t : KeyedTable key) : KeyedTable key :=
  if fresh : key row ∈ t.rows.map key then t
  else ⟨t.rows ++ [row], nodup_insertRow key t.nodup ((insertRow_eq_some key).mpr ⟨fresh, rfl⟩)⟩

def update (p : ρ → Bool) (f : ρ → ρ) (keep : ∀ row, key (f row) = key row) (t : KeyedTable key) :
    KeyedTable key where
  rows := t.rows.map fun row => if p row then f row else row
  nodup := by
    rw [map_key_map key]
    · exact t.nodup
    · intro row
      by_cases chosen : p row = true
      · rw [if_pos chosen, keep]
      · rw [if_neg chosen]

def delete (p : ρ → Bool) (t : KeyedTable key) : KeyedTable key :=
  ⟨deleteRows p t.rows, nodup_deleteRows key t.nodup⟩

variable (t : KeyedTable key) (k : κ)

end KeyedTable

end Lib
