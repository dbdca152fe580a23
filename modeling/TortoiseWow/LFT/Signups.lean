import TortoiseWow.Lib.Decimal
import TortoiseWow.Lib.EscapedFields

/-!
The signups of a listing as they are stored: rows joined by ';', each with four fields joined by
'|'. Names and class names are escaped once, and reading removes marks at both levels.
-/

namespace TortoiseWow.LFT

open Lib

structure ListingSignup where
  name : CString
  className : CString
  level : UInt32
  confirmed : Bool
  deriving DecidableEq

def escapeListingField (value : CString) : CString :=
  escapeField '\\' (fun c => c == '\\' || c == '|' || c == ';') value

def splitEscaped (value : CString) (delimiter : Char) : List CString :=
  splitFields '\\' delimiter value

/-- The two fields that are not escaped. -/
def ListingSignup.numbers (signup : ListingSignup) : CString :=
  decimal signup.level.toNat ++ '|' :: (if signup.confirmed then ['1'] else ['0'])

def ListingSignup.text (signup : ListingSignup) : CString :=
  escapeListingField signup.name ++ ['|'] ++ escapeListingField signup.className ++ ['|'] ++
    signup.numbers

def serializeSignups (signups : List ListingSignup) : CString :=
  signups.foldl (fun serialized signup =>
    (if serialized.isEmpty then serialized else serialized ++ [';']) ++ signup.text) []

/-- The loop body over the rows, none where it goes on to the next one. -/
def readSignup (row : CString) : Option ListingSignup :=
  if row.isEmpty then none
  else
    match splitEscaped row '|' with
    | name :: className :: level :: confirmed :: _ =>
        some {
          name, className
          level := UInt32.ofNat ((strtoul level).getD 0)
          confirmed := confirmed == ['1'] }
    | _ => none

def deserializeSignups (value : CString) : List ListingSignup :=
  if value.isEmpty then [] else (splitEscaped value ';').filterMap readSignup

/-- Nothing in the text is changed by a second reading. -/
abbrev PlainText (text : CString) : Prop := PlainField '\\' '|' text

def ListingSignup.Plain (signup : ListingSignup) : Prop :=
  PlainText signup.name ∧ PlainText signup.className

/-- The row that is left when the outer marks are gone. -/
def ListingSignup.row (signup : ListingSignup) : CString :=
  signup.name ++ ['|'] ++ signup.className ++ ['|'] ++ signup.numbers

theorem splitEscaped_escapeListingField {delimiter : Char}
    (known : delimiter = '|' ∨ delimiter = ';')
    (value : CString) : splitEscaped (escapeListingField value) delimiter = [value] := by
  cases known with
  | inl bar => exact bar ▸ splitFields_escapeField rfl rfl value
  | inr semicolon => exact semicolon ▸ splitFields_escapeField rfl rfl value

theorem plain_decimal (n : Nat) {delimiter : Char} (other : delimiter.isDigit = false) :
    PlainField '\\' delimiter (decimal n) := by
  constructor
  · intro found
    exact absurd (isDigit_of_mem_decimal found) (by decide)
  · intro found
    rw [isDigit_of_mem_decimal found] at other
    cases other

theorem plain_confirmed {delimiter : Char} (other : delimiter.isDigit = false)
    (signup : ListingSignup) :
    PlainField '\\' delimiter (if signup.confirmed then ['1'] else ['0']) := by
  have same : (if signup.confirmed then ['1'] else ['0']) =
      decimal (if signup.confirmed then 1 else 0) := by
    cases signup.confirmed <;> rfl
  rw [same]
  exact plain_decimal _ other

theorem splitFrom_text (signup : ListingSignup) (current rest : CString) :
    splitFrom '\\' ';' current false (signup.text ++ rest) =
      splitFrom '\\' ';' (current ++ signup.row) false rest := by
  have field := @splitFrom_escapeField Char _ '\\' ';'
    (fun c => c == '\\' || c == '|' || c == ';') rfl rfl
  have bar := @splitFrom_plain Char _ '\\' ';' ['|'] (by decide)
  have numbers := @splitFrom_plain Char _ '\\' ';' signup.numbers
    ((plain_decimal _ (by decide)).append
      ((by decide : PlainField '\\' ';' ['|']).append (plain_confirmed (by decide) signup)))
  simp only [ListingSignup.text, ListingSignup.row, escapeListingField, List.append_assoc]
  rw [field, bar, field, bar, numbers]
  simp only [List.append_assoc]

theorem serializeSignups_cons (signup : ListingSignup) (signups : List ListingSignup) :
    serializeSignups (signup :: signups) =
      signup.text ++ signups.flatMap fun signup => ';' :: signup.text := by
  have more : ∀ (signups : List ListingSignup) (serialized : CString), serialized ≠ [] →
      signups.foldl (fun serialized signup =>
        (if serialized.isEmpty then serialized else serialized ++ [';']) ++ signup.text) serialized
          =
      serialized ++ signups.flatMap fun signup => ';' :: signup.text := by
    intro signups
    induction signups with
    | nil => exact fun serialized _ => (List.append_nil serialized).symm
    | cons signup signups ih =>
        intro serialized some
        have nonempty : ¬ serialized.isEmpty = true := fun empty => some (List.isEmpty_iff.mp empty)
        rw [List.foldl_cons, if_neg nonempty, ih _ (by simp), List.flatMap_cons]
        simp only [List.append_assoc, List.cons_append, List.nil_append]
  rw [serializeSignups, List.foldl_cons]
  exact more signups _ (by simp [ListingSignup.text])

theorem splitEscaped_serializeSignups (signup : ListingSignup) (signups : List ListingSignup) :
    splitEscaped (serializeSignups (signup :: signups)) ';' =
      (signup :: signups).map ListingSignup.row := by
  rw [serializeSignups_cons, splitEscaped, splitFields, splitFrom_text, List.nil_append,
    List.map_cons]
  generalize signup.row = current
  induction signups generalizing current with
  | nil => rfl
  | cons signup signups ih =>
      rw [List.flatMap_cons, List.cons_append, splitFrom_delimiter (by decide), splitFields,
        splitFrom_text, ih, List.nil_append, List.map_cons]

theorem deserializeSignups_serializeSignups (signups : List ListingSignup) :
    deserializeSignups (serializeSignups signups) =
      signups.filterMap fun signup => readSignup signup.row := by
  cases signups with
  | nil => rfl
  | cons signup signups =>
      have some : ¬ (serializeSignups (signup :: signups)).isEmpty = true := by
        rw [serializeSignups_cons]
        simp [ListingSignup.text]
      rw [deserializeSignups, if_neg some, splitEscaped_serializeSignups, List.filterMap_map]
      rfl

theorem splitEscaped_numbers (signup : ListingSignup) :
    splitEscaped signup.numbers '|' =
      [decimal signup.level.toNat, if signup.confirmed then ['1'] else ['0']] := by
  rw [splitEscaped, ListingSignup.numbers,
    splitFields_plain_delimiter (by decide) (plain_decimal _ (by decide)),
    splitFields_plain (plain_confirmed (by decide) signup)]

theorem row_eq (signup : ListingSignup) :
    signup.row = signup.name ++ '|' :: (signup.className ++ '|' :: signup.numbers) := by
  simp only [ListingSignup.row, List.append_assoc, List.cons_append, List.nil_append]

theorem readSignup_of_fields {row name className : CString} (some : row ≠ [])
    {signup : ListingSignup} (fields : splitEscaped row '|' =
      [name, className, decimal signup.level.toNat, if signup.confirmed then ['1'] else ['0']]) :
    readSignup row = Option.some { signup with name, className } := by
  have nonempty : ¬ row.isEmpty = true := fun empty => some (List.isEmpty_iff.mp empty)
  have level : UInt32.ofNat ((strtoul (decimal signup.level.toNat)).getD 0) = signup.level := by
    have small := signup.level.toNat_lt
    rw [strtoul_decimal (by omega), Option.getD_some, UInt32.ofNat_toNat]
  rw [readSignup, if_neg nonempty, fields]
  simp only [level]
  cases signup.confirmed <;> rfl

theorem fields_of_readSignup {row : CString} {signup : ListingSignup}
    (read : readSignup row = some signup) :
    ∃ rest, splitEscaped row '|' = signup.name :: signup.className :: rest := by
  rw [readSignup] at read
  split at read
  · cases read
  · split at read
    · next name className level confirmed rest fields =>
        cases read
        exact ⟨level :: confirmed :: rest, fields⟩
    · cases read

theorem readSignup_row_iff (signup : ListingSignup) :
    readSignup signup.row = some signup ↔ signup.Plain := by
  have distinct : '|' ≠ '\\' := by decide
  constructor
  · intro read
    obtain ⟨rest, fields⟩ := fields_of_readSignup read
    rw [row_eq, splitEscaped] at fields
    have name : PlainText signup.name := by
      apply plain_of_head? distinct
      rw [fields]
      rfl
    rw [splitFields_plain_delimiter distinct name] at fields
    have className : PlainText signup.className := by
      apply plain_of_head? distinct
      rw [(List.cons.inj fields).2]
      rfl
    exact ⟨name, className⟩
  · intro plain
    apply @readSignup_of_fields signup.row signup.name signup.className ?_ signup ?_
    · rw [row_eq]
      simp
    · rw [row_eq, splitEscaped, splitFields_plain_delimiter distinct plain.1,
        splitFields_plain_delimiter distinct plain.2]
      exact congrArg (fun fields => signup.name :: signup.className :: fields)
        (splitEscaped_numbers signup)

theorem filterMap_eq_self_iff {α : Type} {f : α → Option α} {l : List α} :
    l.filterMap f = l ↔ ∀ x ∈ l, f x = some x := by
  induction l with
  | nil => simp
  | cons x l ih =>
      rw [List.forall_mem_cons, ← ih]
      cases kept : f x with
      | none =>
          rw [List.filterMap_cons_none kept]
          constructor
          · intro same
            have shorter := List.length_filterMap_le f l
            rw [same, List.length_cons] at shorter
            omega
          · intro same
            cases same.1
      | some y =>
          rw [List.filterMap_cons_some kept, List.cons.injEq, Option.some.injEq]

/-- The signups come back, and each escaped field as itself, if and only if no name and no class
name has a backslash or a bar in it. -/
theorem round_trip_iff (signups : List ListingSignup) :
    (deserializeSignups (serializeSignups signups) = signups ∧
        ∀ signup ∈ signups, ∀ field ∈ [signup.name, signup.className], ∀ delimiter ∈ ['|', ';'],
          splitEscaped (escapeListingField field) delimiter = [field]) ↔
      ∀ signup ∈ signups, signup.Plain := by
  rw [deserializeSignups_serializeSignups, filterMap_eq_self_iff]
  constructor
  · intro same signup inside
    exact (readSignup_row_iff signup).mp (same.1 signup inside)
  · intro plain
    constructor
    · intro signup inside
      exact (readSignup_row_iff signup).mpr (plain signup inside)
    · intro signup _ field _ delimiter known
      exact splitEscaped_escapeListingField (by simpa using known) field

/-- A bar in a name: the row is read as five fields. -/
theorem bar_in_name_split :
    deserializeSignups (serializeSignups [⟨"a|b".toList, "Mage".toList, 60, true⟩]) =
      [⟨"a".toList, "b".toList, 0, false⟩] ∧
    deserializeSignups (serializeSignups [⟨"a|b".toList, "Mage".toList, 60, true⟩]) ≠
      [⟨"a|b".toList, "Mage".toList, 60, true⟩] := by
  decide +kernel

end TortoiseWow.LFT
