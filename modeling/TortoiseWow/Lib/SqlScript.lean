import Mathlib.Data.List.Basic

/-!
What an SQL script says: statements that end at a ';' outside literals and comments. A backslash
in a literal escapes the character behind it; a doubled quote closes the literal and opens it
again. Two dashes begin a comment in front of a blank or a control character. Comments are left
out and line breaks outside literals are read as a space.
-/

namespace Lib.SqlScript

inductive Quote where
  | single
  | double
  deriving DecidableEq

def Quote.char : Quote → Char
  | .single => '\''
  | .double => '"'

/-- What stands before the next character of a literal: a backslash that escapes it, two of
which the second one is escaped, or anything else. -/
inductive Escape where
  | none
  | mark
  | pair
  deriving DecidableEq

/-- `opening` is in front of the star of an opened block comment and `opened` behind it,
`closing` is in front of the slash that closes one. -/
inductive Scope where
  | text
  | literal (quote : Quote) (escape : Escape)
  | line
  | opening
  | opened
  | block
  | closing
  deriving DecidableEq

def Scope.inLiteral : Scope → Bool
  | .literal _ _ => true
  | _ => false

/-- A carriage return is part of the line break that follows it. -/
def breaksLine (ch : Char) (rest : List Char) : Bool :=
  ch == '\n' || ch == '\r' && rest.head? == some '\n'

def isBlank (ch : Char) : Bool := ch.toNat ≤ 32 || ch.toNat == 127

def opensBlock (ch : Char) (rest : List Char) : Bool := ch == '/' && rest.head? == some '*'

/-- The second character ahead is a blank, or there is none. -/
def blankBehind (rest : List Char) : Bool := rest.tail.head?.all isBlank

def opensLine (ch : Char) (rest : List Char) : Bool :=
  ch == '-' && rest.head? == some '-' && blankBehind rest

def Escape.next (escape : Escape) (ch : Char) : Escape :=
  if ch = '\\' then if escape = .mark then .pair else .mark else .none

def Scope.next (ch : Char) (rest : List Char) : Scope → Scope
  | .text =>
      if ch = '\'' then .literal .single .none
      else if ch = '"' then .literal .double .none
      else if opensBlock ch rest then .opening
      else if opensLine ch rest then .line
      else .text
  | .literal quote escape =>
      if escape ≠ .mark ∧ ch = quote.char then .text else .literal quote (escape.next ch)
  | .line => if breaksLine ch rest then .text else .line
  | .opening => .opened
  | .opened | .block => if ch = '*' ∧ rest.head? = some '/' then .closing else .block
  | .closing => .text

/-- What a character adds to the statement it stands in. -/
def Scope.added (ch : Char) (rest : List Char) (scope : Scope) : List Char :=
  if scope.inLiteral then [ch]
  else if ch = '\n' then [' ']
  else if scope = .text then
    if breaksLine ch rest || opensBlock ch rest || opensLine ch rest then [] else [ch]
  else []

structure Reader where
  statements : List (List Char) := []
  statement : List Char := []
  scope : Scope := .text
  deriving DecidableEq

def Reader.step (r : Reader) (ch : Char) (rest : List Char) : Reader :=
  let statement := r.statement ++ r.scope.added ch rest
  let scope := r.scope.next ch rest
  if r.scope = .text ∧ ch = ';' then
    { statements := r.statements ++ [statement], statement := [], scope }
  else { r with statement, scope }

def readFrom : List Char → Reader → Reader
  | [], r => r
  | ch :: rest, r => readFrom rest (r.step ch rest)

/-- The statements of a script, or none if it ends inside a literal. What is left at the end
is one if there is more to it than blanks. -/
def statements (script : List Char) : Option (List (List Char)) :=
  let r := readFrom script {}
  let statements :=
    if r.statement.any fun ch => !("\t\r\n ".toList.contains ch) then r.statements ++ [r.statement]
    else r.statements
  if r.scope.inLiteral then none else some statements

end Lib.SqlScript
