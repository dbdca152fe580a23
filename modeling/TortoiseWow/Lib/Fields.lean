import TortoiseWow.Lib.CString

/-!
The fields of a text that a separator ends. A word and its separator occur in a text
exactly where a field ends with the word.
-/

namespace Lib

def closedFields (sep : Char) : CString → List CString
  | [] => []
  | c :: rest =>
      if c = sep then [] :: closedFields sep rest
      else
        match closedFields sep rest with
        | [] => []
        | field :: fields => (c :: field) :: fields

variable {sep : Char} {word : CString}

theorem closedFields_sep (rest : CString) :
    closedFields sep (sep :: rest) = [] :: closedFields sep rest := by
  simp [closedFields]

theorem closedFields_cons_nil {c : Char} (other : c ≠ sep) {rest : CString}
    (none : closedFields sep rest = []) : closedFields sep (c :: rest) = [] := by
  simp [closedFields, other, none]

theorem closedFields_cons {c : Char} (other : c ≠ sep) {rest field : CString}
    {fields : List CString} (found : closedFields sep rest = field :: fields) :
    closedFields sep (c :: rest) = (c :: field) :: fields := by
  simp [closedFields, other, found]

theorem isPrefixOf_iff_head (plain : sep ∉ word) (text : CString) :
    (word ++ [sep]).isPrefixOf text = true ↔ (closedFields sep text).head? = some word := by
  induction text generalizing word with
  | nil => cases word <;> simp [closedFields]
  | cons c rest ih =>
      by_cases same : c = sep
      · subst same
        rw [closedFields_sep]
        cases word with
        | nil => simp
        | cons w ws =>
            have differ : w ≠ c := fun eq => plain (eq ▸ List.mem_cons_self)
            simp [differ]
      · cases word with
        | nil =>
            have differ : sep ≠ c := fun eq => same eq.symm
            cases found : closedFields sep rest with
            | nil => simp [closedFields_cons_nil same found, differ]
            | cons field fields => simp [closedFields_cons same found, differ]
        | cons w ws =>
            have ih := ih fun inside => plain (List.mem_cons_of_mem _ inside)
            cases found : closedFields sep rest with
            | nil => simp_all [closedFields_cons_nil same found]
            | cons field fields =>
                rw [found] at ih
                simp only [closedFields_cons same found, List.cons_append,
                  List.isPrefixOf_cons_cons,
                  Bool.and_eq_true, beq_iff_eq, List.head?_cons, Option.some.injEq,
                  List.cons.injEq] at ih ⊢
                rw [ih]
                exact and_congr_left fun _ => eq_comm

theorem strstr_iff_field (plain : sep ∉ word) (text : CString) :
    strstr text (word ++ [sep]) = true ↔ ∃ field ∈ closedFields sep text, word <:+ field := by
  induction text with
  | nil => simp [strstr, closedFields]
  | cons c rest ih =>
      have first := isPrefixOf_iff_head plain (c :: rest)
      rw [strstr, Bool.or_eq_true, first, ih]
      by_cases same : c = sep
      · subst same
        simp [closedFields_sep, eq_comm]
      · cases found : closedFields sep rest with
        | nil => simp [closedFields_cons_nil same found]
        | cons field fields =>
            simp only [closedFields_cons same found, List.head?_cons, Option.some.injEq,
              List.exists_mem_cons_iff, List.suffix_cons_iff]
            rw [or_assoc, eq_comm]

end Lib
