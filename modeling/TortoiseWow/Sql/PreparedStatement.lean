import TortoiseWow.Lib.CString

/-!
The plain prepared statement: the parameters are put into the text of the statement, each in
the place of the first placeholder behind the one before. How floating point numbers are
printed and what the connection escapes are parameters.
-/

namespace TortoiseWow.Sql

open Lib

inductive SqlStmtFieldData where
  | bool (value : Bool)
  | ui8 (value : UInt8)
  | ui16 (value : UInt16)
  | ui32 (value : UInt32)
  | ui64 (value : UInt64)
  | i8 (value : Int8)
  | i16 (value : Int16)
  | i32 (value : Int32)
  | i64 (value : Int64)
  | float (bits : UInt32)
  | double (bits : UInt64)
  | string (value : CString)
  | none
  deriving DecidableEq

/-- What the stream and the client library make of a value. -/
structure Rendering where
  float : UInt32 → CString
  double : UInt64 → CString
  mysqlRealEscapeString : CString → CString

def Rendering.escapeString (rendering : Rendering) (str : CString) : CString :=
  if str = [] then str else cstr (rendering.mysqlRealEscapeString str)

def quoted (text : CString) : CString := '\'' :: text ++ ['\'']

def placeholder : Char := '?'

def findFrom (c : Char) (pos : Nat) (s : CString) : Option Nat :=
  ((s.drop pos).findIdx? (· == c)).map (· + pos)

def replaceAt (s : CString) (pos : Nat) (text : CString) : CString :=
  s.take pos ++ text ++ s.drop (pos + 1)

namespace SqlPlainPreparedStatement

variable (rendering : Rendering)

def dataToString : SqlStmtFieldData → CString
  | .bool value => quoted (decimal (if value then 1 else 0))
  | .ui8 value => quoted (decimal value.toNat)
  | .ui16 value => quoted (decimal value.toNat)
  | .ui32 value => quoted (decimal value.toNat)
  | .ui64 value => quoted (decimal value.toNat)
  | .i8 value => quoted (decimalInt value.toInt)
  | .i16 value => quoted (decimalInt value.toInt)
  | .i32 value => quoted (decimalInt value.toInt)
  | .i64 value => quoted (decimalInt value.toInt)
  | .float bits => quoted (rendering.float bits)
  | .double bits => quoted (rendering.double bits)
  | .string value => quoted (rendering.escapeString (cstr value))
  | .none => []

/-- The loop body of `bind` over the request so far and `nLastPos`. -/
def bindStep (s : CString × Option Nat) (data : SqlStmtFieldData) : CString × Option Nat :=
  match s.2.bind fun nLastPos => findFrom placeholder nLastPos s.1 with
  | some pos =>
      let tmp := dataToString rendering data
      (replaceAt s.1 pos tmp, some (pos + tmp.length))
  | none => (s.1, none)

/-- The request, or none where the assertion on the number of parameters fails. -/
def bind (fmt : CString) (params : List SqlStmtFieldData) : Option CString :=
  if fmt.count placeholder ≠ params.length then none
  else some (params.foldl (bindStep rendering) (fmt, some 0)).1

end SqlPlainPreparedStatement

def substitute : CString → List CString → CString
  | [], _ => []
  | c :: rest, renderings =>
      if c = placeholder then
        match renderings with
        | [] => c :: substitute rest []
        | text :: renderings => text ++ substitute rest renderings
      else c :: substitute rest renderings

theorem substitute_append {before : CString} (plain : placeholder ∉ before) (rest : CString)
    (renderings : List CString) :
    substitute (before ++ rest) renderings = before ++ substitute rest renderings := by
  induction before with
  | nil => rfl
  | cons c before ih =>
      have other : c ≠ placeholder := fun same => plain (same ▸ List.mem_cons_self)
      have ih := ih fun inside => plain (List.mem_cons_of_mem _ inside)
      simp only [List.cons_append, substitute, if_neg other, ih]

/-- Nothing is left to replace. -/
theorem substitute_plain {text : CString} (plain : placeholder ∉ text) (renderings : List CString) :
    substitute text renderings = text := by
  have same := substitute_append plain [] renderings
  rw [List.append_nil] at same
  rw [same]
  simp only [substitute, List.append_nil]

theorem findFrom_append (finished : CString) {before : CString} (plain : placeholder ∉ before)
    (rest : CString) :
    findFrom placeholder finished.length (finished ++ (before ++ placeholder :: rest)) =
      some (finished ++ before).length := by
  rw [findFrom, List.drop_left, List.findIdx?_append]
  have none : before.findIdx? (· == placeholder) = none := by
    rw [List.findIdx?_eq_none_iff]
    intro c inside
    exact beq_false_of_ne fun same => plain (same ▸ inside)
  rw [none, List.findIdx?_cons, beq_self_eq_true, if_pos rfl, List.length_append]
  simp [Nat.add_comm]

theorem replaceAt_append (finished rest text : CString) (c : Char) :
    replaceAt (finished ++ c :: rest) finished.length text = finished ++ text ++ rest := by
  rw [replaceAt, List.take_left, List.drop_append]
  simp

namespace SqlPlainPreparedStatement

variable (rendering : Rendering)

/-- The text in front of the position is finished, the text behind it is that of the
statement. -/
theorem foldl_bindStep (params : List SqlStmtFieldData) (finished rest : CString)
    (enough : rest.count placeholder = params.length) :
    (params.foldl (bindStep rendering) (finished ++ rest, some finished.length)).1 =
      finished ++ substitute rest (params.map (dataToString rendering)) := by
  induction params generalizing finished rest with
  | nil =>
      have plain : placeholder ∉ rest := List.count_eq_zero.mp enough
      rw [substitute_plain plain]
      rfl
  | cons data params ih =>
      have inside : placeholder ∈ rest :=
        List.count_pos_iff.mp (by rw [enough]; exact Nat.succ_pos _)
      obtain ⟨before, after, split, plain⟩ := List.eq_append_cons_of_mem inside
      subst split
      have fewer : after.count placeholder = params.length := by
        rw [List.count_append, List.count_cons_self, List.count_eq_zero.mpr plain] at enough
        simpa using enough
      let tmp := dataToString rendering data
      have step : bindStep rendering
          (finished ++ (before ++ placeholder :: after), some finished.length) data =
          ((finished ++ before ++ tmp) ++ after, some (finished ++ before ++ tmp).length) := by
        simp only [bindStep, Option.bind_some, findFrom_append finished plain after]
        rw [← List.append_assoc finished before, replaceAt_append,
          ← List.length_append]
      rw [List.foldl_cons, step, ih _ after fewer, List.map_cons, substitute_append plain]
      simp only [substitute, if_true, List.append_assoc, tmp]

/-- `bind` puts the rendering of the i-th parameter in the place of the i-th placeholder. -/
theorem bind_eq_substitute (fmt : CString) (params : List SqlStmtFieldData) :
    bind rendering fmt params =
      if fmt.count placeholder = params.length then
        some (substitute fmt (params.map (dataToString rendering)))
      else none := by
  by_cases enough : fmt.count placeholder = params.length
  · have run := foldl_bindStep rendering params [] fmt enough
    rw [bind, if_neg (not_not.mpr enough), if_pos enough]
    exact congrArg some run
  · rw [bind, if_pos enough, if_neg enough]

end SqlPlainPreparedStatement

end TortoiseWow.Sql
