import TortoiseWow.Lib.Run

/-!
Runs along an infinite schedule of events. What an event that the schedule brings again and
again leads to, is reached, if no other event leads away from it.
-/

namespace Lib

universe u v

variable {σ : Type u} {ε : Type v} (step : σ → ε → σ)

/-- The state after the first events of the schedule. -/
def follow (s : σ) (schedule : Nat → ε) : Nat → σ
  | 0 => s
  | m + 1 => step (follow s schedule m) (schedule m)

/-- Where the first holds, the second holds then or later. -/
def LeadsTo (s : σ) (schedule : Nat → ε) (P Q : σ → Prop) : Prop :=
  ∀ k, P (follow step s schedule k) → ∃ m, k ≤ m ∧ Q (follow step s schedule m)

variable {step} {s : σ} {schedule : Nat → ε} {P Q R : σ → Prop}

theorem follow_always {I : σ → Prop} (keep : ∀ s e, I s → I (step s e)) (init : I s) (m : Nat) :
    I (follow step s schedule m) := by
  induction m with
  | zero => exact init
  | succ m ih => exact keep _ _ ih

theorem LeadsTo.trans (first : LeadsTo step s schedule P Q) (second : LeadsTo step s schedule Q R) :
    LeadsTo step s schedule P R := by
  intro k holds
  obtain ⟨m, later, holds⟩ := first k holds
  obtain ⟨n, latest, holds⟩ := second m holds
  exact ⟨n, later.trans latest, holds⟩

theorem LeadsTo.or (left : LeadsTo step s schedule P R) (right : LeadsTo step s schedule Q R) :
    LeadsTo step s schedule (fun s => P s ∨ Q s) R
  | k, .inl holds => left k holds
  | k, .inr holds => right k holds

theorem LeadsTo.refl : LeadsTo step s schedule P P :=
  fun k holds => ⟨k, Nat.le_refl k, holds⟩

theorem leadsTo_of_again {I : σ → Prop} (inv : ∀ m, I (follow step s schedule m))
    (helps : ε → Prop) (again : ∀ k, ∃ m, k ≤ m ∧ helps (schedule m))
    (stays : ∀ s e, I s → P s → ¬ helps e → P (step s e) ∨ Q (step s e))
    (leads : ∀ s e, I s → P s → helps e → Q (step s e)) : LeadsTo step s schedule P Q := by
  intro k holds
  obtain ⟨m, later, help⟩ := again k
  obtain ⟨d, rfl⟩ := Nat.exists_eq_add_of_le later
  -- by the distance to the event that helps
  induction d generalizing k with
  | zero => exact ⟨k + 1, Nat.le_succ k, leads _ _ (inv k) holds help⟩
  | succ d ih =>
      by_cases now : helps (schedule k)
      · exact ⟨k + 1, Nat.le_succ k, leads _ _ (inv k) holds now⟩
      · rcases stays _ _ (inv k) holds now with holds | reached
        · have help : helps (schedule (k + 1 + d)) := by
            rw [Nat.add_right_comm]
            exact help
          obtain ⟨m, latest, reached⟩ := ih (k + 1) holds (Nat.le_add_right _ _) help
          exact ⟨m, Nat.le_of_succ_le latest, reached⟩
        · exact ⟨k + 1, Nat.le_succ k, reached⟩

end Lib
