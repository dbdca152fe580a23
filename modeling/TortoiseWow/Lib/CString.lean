import Mathlib

/-!
The parts of the C library that read text: a string is its list of characters,
and what follows a NUL is not seen. `atoi` is `strtol` narrowed to 32 bits, the
value the GNU library returns; `strtoul` reports whether it consumed a number.
-/

namespace Lib

abbrev CString := List Char

/-- The characters before the terminating NUL. -/
def cstr (s : CString) : CString := s.takeWhile (· != '\x00')

theorem cstr_eq_self_iff {text : CString} : cstr text = text ↔ '\x00' ∉ text := by
  rw [cstr, List.takeWhile_eq_self_iff]
  constructor
  · intro all inside
    simpa using all _ inside
  · intro outside c inside
    exact bne_iff_ne.mpr fun same => outside (same ▸ inside)

def strstr : CString → CString → Bool
  | [], needle => needle.isEmpty
  | c :: s, needle => needle.isPrefixOf (c :: s) || strstr s needle

def isSpace (c : Char) : Bool :=
  c == ' ' || c == '\t' || c == '\n' || c == '\r' || c == '\x0b' || c == '\x0c'

def digitsValue (s : CString) : Nat :=
  s.foldl (fun n c => n * 10 + (c.toNat - '0'.toNat)) 0

/-- An optional sign, then the longest run of decimal digits. -/
def readSign : CString → Bool × CString
  | '-' :: s => (true, s)
  | '+' :: s => (false, s)
  | s => (false, s)

def readNumber (s : CString) : Bool × CString :=
  let (negative, rest) := readSign ((cstr s).dropWhile isSpace)
  (negative, rest.takeWhile Char.isDigit)

/-- `strtol(s, nullptr, 10)`, saturating at the bounds of a 64-bit `long`. -/
def strtol (s : CString) : Int :=
  let (negative, digits) := readNumber s
  let n : Int := digitsValue digits
  if negative then max (-n) (-2 ^ 63) else min n (2 ^ 63 - 1)

def atoi (s : CString) : Int32 := Int32.ofInt (strtol s)

def strtoul (s : CString) : Option Nat :=
  let (negative, digits) := readNumber s
  let n := digitsValue digits
  if digits.isEmpty then none
  else if n ≥ 2 ^ 64 then some (2 ^ 64 - 1)
  else if negative then some ((2 ^ 64 - n) % 2 ^ 64)
  else some n

/-- `std::to_string` of an unsigned value. -/
def decimal (n : Nat) : CString := Nat.toDigits 10 n

def decimalInt (i : Int) : CString :=
  if i < 0 then '-' :: decimal i.natAbs else decimal i.natAbs

end Lib
