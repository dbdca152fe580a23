import TortoiseWow.Lib.CString

/-!
Reading back what was printed: the decimal digits of a number, with or without a sign, give
the number again.
-/

namespace Lib

theorem isDigit_of_mem_decimal {n : Nat} {c : Char} (inside : c ∈ decimal n) : c.isDigit = true :=
  Nat.isDigit_of_mem_toDigits (by decide) (by decide) inside

theorem decimal_ne_nil (n : Nat) : decimal n ≠ [] := Nat.toDigits_ne_nil

theorem digitsValue_decimal (n : Nat) : digitsValue (decimal n) = n := by
  have value : ∀ (digits : CString) (init : Nat),
      digits.foldl (fun n c => n * 10 + (c.toNat - '0'.toNat)) init =
        Nat.ofDigitChars 10 digits init := by
    intro digits
    induction digits with
    | nil => exact fun init => Nat.ofDigitChars_nil.symm
    | cons c rest ih =>
        intro init
        rw [Nat.ofDigitChars_cons, List.foldl_cons, ih, Nat.mul_comm]
  rw [digitsValue, value, decimal]
  exact Nat.ofDigitChars_ten_toDigits

theorem length_decimal_le {n k : Nat} (pos : 0 < k) (small : n < 10 ^ k) :
    (decimal n).length ≤ k :=
  (Nat.length_toDigits_le_iff (by decide) pos).mpr small

def isNumeral (c : Char) : Bool := c == '-' || c.isDigit

theorem isNumeral_of_mem_decimalInt {i : Int} {c : Char} (inside : c ∈ decimalInt i) :
    isNumeral c = true := by
  rw [decimalInt] at inside
  split at inside
  · rcases List.mem_cons.mp inside with rfl | digit
    · rfl
    · simp [isNumeral, isDigit_of_mem_decimal digit]
  · simp [isNumeral, isDigit_of_mem_decimal inside]

theorem isNumeral_plain {c : Char} (numeral : isNumeral c = true) :
    c ≠ '\x00' ∧ isSpace c = false := by
  constructor
  · rintro rfl
    exact absurd numeral (by decide)
  · refine Bool.eq_false_iff.mpr fun space => ?_
    simp only [isSpace, Bool.or_eq_true, beq_iff_eq] at space
    rcases space with ((((rfl | rfl) | rfl) | rfl) | rfl) | rfl <;> exact absurd numeral (by decide)

theorem cstr_numerals {text : CString} (numerals : ∀ c ∈ text, isNumeral c = true) :
    cstr text = text :=
  cstr_eq_self_iff.mpr fun inside => (isNumeral_plain (numerals _ inside)).1 rfl

theorem dropSpace_numerals {text : CString} (numerals : ∀ c ∈ text, isNumeral c = true) :
    text.dropWhile isSpace = text := by
  cases text with
  | nil => rfl
  | cons c rest =>
      have plain := (isNumeral_plain (numerals c List.mem_cons_self)).2
      simp [plain]

theorem readSign_decimal (n : Nat) : readSign (decimal n) = (false, decimal n) := by
  cases digits : decimal n with
  | nil => exact absurd digits (decimal_ne_nil n)
  | cons c rest =>
      have digit : c.isDigit = true := isDigit_of_mem_decimal (n := n) (digits ▸ List.mem_cons_self)
      unfold readSign
      split
      · exact absurd digit (by simp_all)
      · exact absurd digit (by simp_all)
      · rfl

theorem takeDigits_decimal (n : Nat) : (decimal n).takeWhile Char.isDigit = decimal n :=
  List.takeWhile_eq_self_iff.mpr fun _ => isDigit_of_mem_decimal

theorem readNumber_decimalInt (i : Int) :
    readNumber (decimalInt i) = (decide (i < 0), decimal i.natAbs) := by
  have numerals : ∀ c ∈ decimalInt i, isNumeral c = true := fun c => isNumeral_of_mem_decimalInt
  rw [readNumber, cstr_numerals numerals, dropSpace_numerals numerals]
  by_cases negative : i < 0
  · simp [decimalInt, negative, readSign, takeDigits_decimal]
  · simp [decimalInt, negative, readSign_decimal, takeDigits_decimal]

theorem strtol_decimalInt {i : Int} (lo : -2 ^ 63 ≤ i) (hi : i < 2 ^ 63) :
    strtol (decimalInt i) = i := by
  simp only [strtol, readNumber_decimalInt, digitsValue_decimal, decide_eq_true_eq]
  split <;> omega

theorem decimalInt_natCast (n : Nat) : decimalInt n = decimal n := by
  simp [decimalInt]

theorem strtol_decimal {n : Nat} (small : n < 2 ^ 63) : strtol (decimal n) = n := by
  rw [← decimalInt_natCast]
  exact strtol_decimalInt (by omega) (by omega)

theorem strtoul_decimal {n : Nat} (small : n < 2 ^ 64) : strtoul (decimal n) = some n := by
  have digits := readNumber_decimalInt n
  rw [decimalInt_natCast] at digits
  simp only [strtoul, digits, Int.natAbs_natCast, digitsValue_decimal, List.isEmpty_iff,
    decimal_ne_nil, if_false]
  rw [if_neg (by omega), if_neg (by simp)]

end Lib
