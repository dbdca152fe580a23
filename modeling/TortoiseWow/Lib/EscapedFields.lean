import Mathlib.Data.List.Induction

/-!
Fields joined by a delimiter, with a mark before each character that is not to be read as one.
-/

namespace Lib

variable {α : Type} [DecidableEq α]

def escapeField (mark : α) (special : α → Bool) (text : List α) : List α :=
  text.flatMap fun c => if special c then [mark, c] else [c]

/-- The fields of a text, with the field that is being read and whether a mark was just
seen. A mark at the end stands for itself. -/
def splitFrom (mark delimiter : α) : List α → Bool → List α → List (List α)
  | current, escaped, [] => [if escaped then current ++ [mark] else current]
  | current, true, c :: rest => splitFrom mark delimiter (current ++ [c]) false rest
  | current, false, c :: rest =>
      if c = mark then splitFrom mark delimiter current true rest
      else if c = delimiter then current :: splitFrom mark delimiter [] false rest
      else splitFrom mark delimiter (current ++ [c]) false rest

def splitFields (mark delimiter : α) (text : List α) : List (List α) :=
  splitFrom mark delimiter [] false text

def PlainField (mark delimiter : α) (text : List α) : Prop := mark ∉ text ∧ delimiter ∉ text

instance decidablePlainField (mark delimiter : α) (text : List α) :
    Decidable (PlainField mark delimiter text) :=
  inferInstanceAs (Decidable (mark ∉ text ∧ delimiter ∉ text))

variable {mark delimiter : α}

theorem splitFrom_current (current : List α) (escaped : Bool) (text : List α) :
    splitFrom mark delimiter current escaped text =
      (splitFrom mark delimiter [] escaped text).modifyHead (current ++ ·) := by
  induction text generalizing current escaped with
  | nil => cases escaped <;> simp [splitFrom]
  | cons c rest ih =>
      cases escaped with
      | true =>
          simp only [splitFrom]
          rw [ih (current ++ [c]), ih ([] ++ [c]), List.modifyHead_modifyHead]
          congr 1
          funext field
          simp
      | false =>
          simp only [splitFrom]
          split
          · exact ih current true
          · split
            · simp
            · rw [ih (current ++ [c]), ih ([] ++ [c]), List.modifyHead_modifyHead]
              congr 1
              funext field
              simp

omit [DecidableEq α] in
theorem PlainField.append {text rest : List α} (plain : PlainField mark delimiter text)
    (after : PlainField mark delimiter rest) : PlainField mark delimiter (text ++ rest) :=
  ⟨List.not_mem_append plain.1 after.1, List.not_mem_append plain.2 after.2⟩

theorem splitFrom_plain {text : List α} (plain : PlainField mark delimiter text)
    (current rest : List α) :
    splitFrom mark delimiter current false (text ++ rest) =
      splitFrom mark delimiter (current ++ text) false rest := by
  induction text generalizing current with
  | nil => rw [List.nil_append, List.append_nil]
  | cons c text ih =>
      have unmarked : c ≠ mark := fun same => plain.1 (same ▸ List.mem_cons_self)
      have inside : c ≠ delimiter := fun same => plain.2 (same ▸ List.mem_cons_self)
      have ih := ih ⟨fun found => plain.1 (List.mem_cons_of_mem c found),
        fun found => plain.2 (List.mem_cons_of_mem c found)⟩
      rw [List.cons_append, splitFrom, if_neg unmarked, if_neg inside, ih, List.append_assoc,
        List.singleton_append]

theorem splitFrom_delimiter (distinct : delimiter ≠ mark) (current rest : List α) :
    splitFrom mark delimiter current false (delimiter :: rest) =
      current :: splitFields mark delimiter rest := by
  rw [splitFrom, if_neg distinct, if_pos rfl]
  rfl

theorem splitFields_plain {text : List α} (plain : PlainField mark delimiter text) :
    splitFields mark delimiter text = [text] := by
  have read := splitFrom_plain plain [] []
  rw [List.append_nil, List.nil_append] at read
  exact read

theorem splitFields_plain_delimiter (distinct : delimiter ≠ mark) {text : List α}
    (plain : PlainField mark delimiter text) (rest : List α) :
    splitFields mark delimiter (text ++ delimiter :: rest) =
      text :: splitFields mark delimiter rest := by
  rw [splitFields, splitFrom_plain plain, splitFrom_delimiter distinct, List.nil_append]

theorem splitFrom_escapeField {special : α → Bool} (marks : special mark = true)
    (delimiters : special delimiter = true) (text current rest : List α) :
    splitFrom mark delimiter current false (escapeField mark special text ++ rest) =
      splitFrom mark delimiter (current ++ text) false rest := by
  induction text generalizing current with
  | nil => rw [List.append_nil]; rfl
  | cons c text ih =>
      have read :
        splitFrom mark delimiter current false (escapeField mark special (c :: text) ++ rest) =
          splitFrom mark delimiter (current ++ [c]) false
            (escapeField mark special text ++ rest) := by
        rw [escapeField, List.flatMap_cons]
        cases escaped : special c with
        | true =>
            rw [if_pos rfl]
            simp only [List.cons_append, List.nil_append, splitFrom, if_true]
            rfl
        | false =>
            have unmarked : c ≠ mark := fun same => by rw [same, marks] at escaped; cases escaped
            have inside : c ≠ delimiter := fun same => by
              rw [same, delimiters] at escaped; cases escaped
            rw [if_neg Bool.false_ne_true]
            simp only [List.cons_append, List.nil_append, splitFrom, if_neg unmarked, if_neg inside]
            rfl
      rw [read, ih, List.append_assoc, List.singleton_append]

theorem splitFields_escapeField {special : α → Bool} (marks : special mark = true)
    (delimiters : special delimiter = true) (text : List α) :
    splitFields mark delimiter (escapeField mark special text) = [text] := by
  have read := splitFrom_escapeField marks delimiters text [] []
  rw [List.append_nil, List.nil_append] at read
  exact read

theorem head?_splitFields_delimiter (distinct : delimiter ≠ mark) (rest : List α) :
    (splitFields mark delimiter (delimiter :: rest)).head? = some [] := by
  rw [splitFields, splitFrom_delimiter distinct]
  rfl

theorem head?_splitFields_mark (c : α) (rest : List α) :
    (splitFields mark delimiter (mark :: c :: rest)).head? =
      (splitFields mark delimiter rest).head?.map (c :: ·) := by
  have read : splitFields mark delimiter (mark :: c :: rest) =
      splitFrom mark delimiter [c] false rest := by
    simp only [splitFields, splitFrom, if_true, List.nil_append]
  rw [read, splitFrom_current, List.head?_modifyHead]
  rfl

theorem head?_splitFields_other {c : α} (unmarked : c ≠ mark) (inside : c ≠ delimiter)
    (rest : List α) :
    (splitFields mark delimiter (c :: rest)).head? =
      (splitFields mark delimiter rest).head?.map (c :: ·) := by
  have read : splitFields mark delimiter (c :: rest) =
      splitFrom mark delimiter [c] false rest := by
    simp only [splitFields, splitFrom, if_neg unmarked, if_neg inside, List.nil_append]
  rw [read, splitFrom_current, List.head?_modifyHead]
  rfl

theorem head?_splitFields_ne (distinct : delimiter ≠ mark) (text rest : List α) (more : Nat) :
    (splitFields mark delimiter (text ++ delimiter :: rest)).head? ≠
      some (List.replicate (more + 1) mark ++ text) := by
  induction text using List.twoStepInduction generalizing more with
  | nil =>
      rw [List.nil_append, head?_splitFields_delimiter distinct]
      simp [List.replicate_succ]
  | singleton c =>
      intro first
      by_cases marked : c = mark
      · rw [marked, List.singleton_append, head?_splitFields_mark] at first
        obtain ⟨field, -, same⟩ := Option.map_eq_some_iff.mp first
        exact distinct (List.cons.inj same).1
      · by_cases outside : c = delimiter
        · rw [outside, List.singleton_append, head?_splitFields_delimiter distinct] at first
          simp [List.replicate_succ] at first
        · rw [List.singleton_append, head?_splitFields_other marked outside] at first
          obtain ⟨field, -, same⟩ := Option.map_eq_some_iff.mp first
          exact marked (List.cons.inj same).1
  | cons_cons c e text ih _ =>
      intro first
      by_cases marked : c = mark
      · rw [marked, List.cons_append, List.cons_append, head?_splitFields_mark] at first
        obtain ⟨field, found, same⟩ := Option.map_eq_some_iff.mp first
        -- the two characters read give one, and it is a mark again
        obtain ⟨again, same⟩ := List.cons.inj same
        have longer : field = List.replicate (more + 1 + 1) mark ++ text := by
          rw [same, again, List.replicate_succ', List.replicate_succ', List.append_assoc,
            List.append_assoc]
          rfl
        exact ih (more + 1) (longer ▸ found)
      · by_cases outside : c = delimiter
        · rw [outside, List.cons_append, head?_splitFields_delimiter distinct] at first
          simp [List.replicate_succ] at first
        · rw [List.cons_append, head?_splitFields_other marked outside] at first
          obtain ⟨field, -, same⟩ := Option.map_eq_some_iff.mp first
          exact marked (List.cons.inj same).1

theorem plain_of_head? (distinct : delimiter ≠ mark) {text rest : List α}
    (first : (splitFields mark delimiter (text ++ delimiter :: rest)).head? = some text) :
    PlainField mark delimiter text := by
  induction text with
  | nil => exact ⟨List.not_mem_nil, List.not_mem_nil⟩
  | cons c text ih =>
      by_cases marked : c = mark
      · rw [marked] at first
        cases text with
        | nil =>
            rw [List.singleton_append, head?_splitFields_mark] at first
            obtain ⟨field, -, same⟩ := Option.map_eq_some_iff.mp first
            exact absurd (List.cons.inj same).1 distinct
        | cons e text =>
            rw [List.cons_append, List.cons_append, head?_splitFields_mark] at first
            obtain ⟨field, found, same⟩ := Option.map_eq_some_iff.mp first
            obtain ⟨again, same⟩ := List.cons.inj same
            have longer : field = List.replicate (0 + 1) mark ++ text := by
              rw [same, again]
              rfl
            exact absurd (longer ▸ found) (head?_splitFields_ne distinct text rest 0)
      · by_cases outside : c = delimiter
        · rw [outside, List.cons_append, head?_splitFields_delimiter distinct] at first
          cases first
        · rw [List.cons_append, head?_splitFields_other marked outside] at first
          obtain ⟨field, found, same⟩ := Option.map_eq_some_iff.mp first
          have plain := ih ((List.cons.inj same).2 ▸ found)
          exact ⟨List.not_mem_cons_of_ne_of_not_mem (Ne.symm marked) plain.1,
            List.not_mem_cons_of_ne_of_not_mem (Ne.symm outside) plain.2⟩

end Lib
