import Mathlib

/-!
Texts inside quoted SQL literals. The client puts a backslash before what would end
the literal or not survive in it, and the server takes it away again.
-/

namespace Lib

def backslash : Char := Char.ofNat 92

/-- The letter that stands for a character behind a backslash. -/
def escapeLetter (c : Char) : Option Char :=
  match c.toNat with
  | 0 => some '0'
  | 10 => some 'n'
  | 13 => some 'r'
  | 26 => some 'Z'
  | 34 | 39 | 92 => some c
  | _ => none

def unescapeLetter (c : Char) : Char :=
  match c with
  | '0' => Char.ofNat 0
  | 'b' => Char.ofNat 8
  | 't' => Char.ofNat 9
  | 'n' => Char.ofNat 10
  | 'r' => Char.ofNat 13
  | 'Z' => Char.ofNat 26
  | other => other

def escape : List Char → List Char
  | [] => []
  | c :: rest =>
      match escapeLetter c with
      | some letter => backslash :: letter :: escape rest
      | none => c :: escape rest

/-- What the server makes of the characters between the quotes. -/
def readLiteral : List Char → List Char
  | [] => []
  | [c] => [c]
  | c :: d :: rest =>
      if c = backslash then unescapeLetter d :: readLiteral rest else c :: readLiteral (d :: rest)

end Lib
