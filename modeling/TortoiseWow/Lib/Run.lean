import Mathlib

/-!
Runs of a deterministic step function over a list of events, and the two rules
by which an invariant of one step becomes a statement about a whole run.
`Along P` speaks about every step of a run together with the state before it,
so side conditions on single steps are stated where the step is taken.
-/

namespace Lib

universe u v

section Run

variable {σ : Type u} {ε : Type v} (step : σ → ε → σ)

/-- The state after all events. -/
def run (s : σ) (es : List ε) : σ := es.foldl step s

/-- `P` holds of each event and the state in which the run meets it. -/
def Along (P : σ → ε → Prop) : σ → List ε → Prop
  | _, [] => True
  | s, e :: es => P s e ∧ Along P (step s e) es

@[simp] theorem run_nil (s : σ) : run step s [] = s := rfl

@[simp] theorem run_cons (s : σ) (e : ε) (es : List ε) :
    run step s (e :: es) = run step (step s e) es := rfl

instance Along.decidable (P : σ → ε → Prop) [∀ s e, Decidable (P s e)] :
    ∀ s es, Decidable (Along step P s es)
  | _, [] => isTrue trivial
  | s, e :: es =>
      have := Along.decidable P (step s e) es
      inferInstanceAs (Decidable (P s e ∧ Along step P (step s e) es))

theorem run_append (s : σ) (es fs : List ε) :
    run step s (es ++ fs) = run step (run step s es) fs := by
  simp [run, List.foldl_append]

@[simp] theorem along_nil (P : σ → ε → Prop) (s : σ) : Along step P s [] := trivial

@[simp] theorem along_cons (P : σ → ε → Prop) (s : σ) (e : ε) (es : List ε) :
    Along step P s (e :: es) ↔ P s e ∧ Along step P (step s e) es := Iff.rfl

theorem along_append (P : σ → ε → Prop) (s : σ) (es fs : List ε) :
    Along step P s (es ++ fs) ↔
      Along step P s es ∧ Along step P (run step s es) fs := by
  induction es generalizing s with
  | nil => simp
  | cons e es ih => simp [ih, and_assoc]

variable {step}

/-- An invariant kept by every admissible step holds at the end of the run. -/
theorem run_invariant {I : σ → Prop} {P : σ → ε → Prop}
    (keep : ∀ s e, I s → P s e → I (step s e)) {s : σ} {es : List ε}
    (init : I s) (ok : Along step P s es) : I (run step s es) := by
  induction es generalizing s with
  | nil => exact init
  | cons e es ih => exact ih (keep s e init ok.1) ok.2

/-- An invariant kept by every step holds at the end of every run. -/
theorem run_always {I : σ → Prop} (keep : ∀ s e, I s → I (step s e)) {s : σ} (init : I s)
    (es : List ε) : I (run step s es) := by
  induction es generalizing s with
  | nil => exact init
  | cons e es ih => exact ih (keep s e init)

/-- The same invariant holds in every state the run passes through. -/
theorem run_invariant_upto {I : σ → Prop} {P : σ → ε → Prop}
    (keep : ∀ s e, I s → P s e → I (step s e)) {s : σ} {es : List ε}
    (init : I s) (ok : Along step P s es) {pre : List ε} (hpre : pre <+: es) :
    I (run step s pre) := by
  obtain ⟨post, rfl⟩ := hpre
  exact run_invariant keep init ((along_append step P s pre post).mp ok).1

theorem along_of_invariant {I : σ → Prop} {P Q : σ → ε → Prop}
    (keep : ∀ s e, I s → P s e → I (step s e))
    (give : ∀ s e, I s → P s e → Q s e) {s : σ} {es : List ε}
    (init : I s) (ok : Along step P s es) : Along step Q s es := by
  induction es generalizing s with
  | nil => trivial
  | cons e es ih => exact ⟨give s e init ok.1, ih (keep s e init ok.1) ok.2⟩

theorem along_always {I : σ → Prop} {Q : σ → ε → Prop} (keep : ∀ s e, I s → I (step s e))
    (give : ∀ s e, I s → Q s e) {s : σ} (init : I s) (es : List ε) : Along step Q s es := by
  induction es generalizing s with
  | nil => trivial
  | cons e es ih => exact ⟨give s e init, ih (keep s e init)⟩

/-- Two conditions that agree under an invariant, which the second of them keeps. The invariant may
say what is left for the rest of the run. -/
theorem along_iff_rest {I : List ε → σ → Prop} {P Q : σ → ε → Prop}
    (agree : ∀ s e es, I (e :: es) s → (P s e ↔ Q s e))
    (keep : ∀ s e es, I (e :: es) s → Q s e → I es (step s e)) {s : σ} {es : List ε}
    (init : I es s) : Along step P s es ↔ Along step Q s es := by
  induction es generalizing s with
  | nil => exact Iff.rfl
  | cons e es ih =>
      rw [along_cons, along_cons, agree s e es init]
      exact and_congr_right fun ok => ih (keep s e es init ok)

theorem along_iff {I : σ → Prop} {P Q : σ → ε → Prop} (agree : ∀ s e, I s → (P s e ↔ Q s e))
    (keep : ∀ s e, I s → Q s e → I (step s e)) {s : σ} (init : I s) (es : List ε) :
    Along step P s es ↔ Along step Q s es :=
  along_iff_rest (I := fun _ => I) (fun s e _ => agree s e) (fun s e _ => keep s e) init

theorem Along.imp {P Q : σ → ε → Prop} (h : ∀ s e, P s e → Q s e)
    {s : σ} {es : List ε} (ok : Along step P s es) : Along step Q s es :=
  along_of_invariant (I := fun _ => True) (fun _ _ _ _ => trivial)
    (fun s e _ => h s e) trivial ok

/-- Two conditions that agree in every state agree along every run. -/
theorem along_congr {P Q : σ → ε → Prop} (h : ∀ s e, P s e ↔ Q s e) (s : σ) (es : List ε) :
    Along step P s es ↔ Along step Q s es := by
  constructor
  · exact Along.imp fun s e => (h s e).mp
  · exact Along.imp fun s e => (h s e).mpr

end Run

end Lib
