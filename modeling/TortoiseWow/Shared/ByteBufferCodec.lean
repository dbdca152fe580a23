import TortoiseWow.Shared.ByteBuffer

/-!
What is written is read back, and where each read leaves the buffer.
-/

namespace TortoiseWow

open Lib

namespace ByteBuffer

/-- The bytes behind those that are there. -/
def extend (b : ByteBuffer) (bytes : List UInt8) : ByteBuffer :=
  { b with storage := b.storage ++ bytes, wpos := b.wpos + bytes.length }

/-- What is appended one after the other for a value. -/
def chunks : Value → List (List UInt8)
  | .int width value => [leBytes width.bytes value.toNat]
  | .bool value => [[if value then 1 else 0]]
  | .string value => [value, [0]]
  | .packGuid guid => [packGUID guid]

def encoded (value : Value) : List UInt8 := (chunks value).flatten

/-- Each chunk that is not empty finds a buffer below its largest size. -/
def fits : Nat → List (List UInt8) → Bool
  | _, [] => true
  | size, chunk :: rest => (chunk.isEmpty || decide (size < maxSize)) && fits
      (size + chunk.length) rest

def appendAll (chunks : List (List UInt8)) (b : ByteBuffer) : Option ByteBuffer :=
  chunks.foldlM (fun b chunk => b.append chunk) b

theorem append_end {b : ByteBuffer} (atEnd : b.wpos = b.size) (src : List UInt8) :
    b.append src =
      if (src.isEmpty || decide (b.size < maxSize)) = true then some (b.extend src) else none := by
  by_cases empty : src = []
  · have same : b.extend [] = b := by simp [extend]
    rw [append, if_pos empty, empty, same]
    rfl
  · have whole : (b.storage ++ List.replicate (b.wpos + src.length - b.size) 0).take b.wpos =
        b.storage := by
      rw [atEnd]
      exact List.take_left
    have nothing : (b.storage ++ List.replicate (b.wpos + src.length - b.size) 0).drop
        (b.wpos + src.length) = [] := by
      apply List.drop_eq_nil_of_le
      rw [List.length_append, List.length_replicate, atEnd, size]
      omega
    have condition : (src.isEmpty || decide (b.size < maxSize)) = decide (b.size < maxSize) := by
      simp [empty]
    rw [append, if_neg empty, condition]
    simp only [whole, nothing, List.append_nil, decide_eq_true_eq]
    rfl

theorem extend_atEnd {b : ByteBuffer} (atEnd : b.wpos = b.size) (bytes : List UInt8) :
    (b.extend bytes).wpos = (b.extend bytes).size := by
  rw [extend, size, List.length_append, ← size, atEnd]

theorem appendAll_eq (chunks : List (List UInt8)) {b : ByteBuffer} (atEnd : b.wpos = b.size) :
    appendAll chunks b =
      if fits b.size chunks = true then some (b.extend chunks.flatten) else none := by
  induction chunks generalizing b with
  | nil => simp [appendAll, fits, extend]
  | cons chunk chunks ih =>
      have size : (b.extend chunk).size = b.size + chunk.length := List.length_append
      have ih := ih (extend_atEnd atEnd chunk)
      rw [size] at ih
      rw [appendAll, List.foldlM_cons, append_end atEnd, fits]
      cases chunk.isEmpty || decide (b.size < maxSize) with
      | false => rfl
      | true =>
          have flat : (b.extend chunk).extend chunks.flatten =
            b.extend (chunk :: chunks).flatten := by
            simp only [extend, List.flatten_cons, List.length_append, List.append_assoc,
              Nat.add_assoc]
          rw [flat] at ih
          exact ih

theorem append_nothing (b : ByteBuffer) : b.append [] = some b := if_pos rfl

theorem put_front {bytes src : List UInt8} {rpos wpos : Nat} (room : src.length ≤ bytes.length) :
    put 0 src ⟨rpos, wpos, bytes⟩ =
      some ⟨rpos, wpos, src ++ bytes.drop src.length⟩ := by
  have inside : ¬ 0 + src.length > (⟨rpos, wpos, bytes⟩ : ByteBuffer).size := by
    rw [Nat.zero_add]
    exact Nat.not_lt.mpr room
  rw [put, if_neg inside]
  simp

theorem put_behind {front bytes src : List UInt8} {rpos wpos : Nat}
    (room : src.length ≤ bytes.length) :
    put front.length src ⟨rpos, wpos, front ++ bytes⟩ =
      some ⟨rpos, wpos, front ++ (src ++ bytes.drop src.length)⟩ := by
  have inside : ¬ front.length + src.length >
      (⟨rpos, wpos, front ++ bytes⟩ : ByteBuffer).size := by
    rw [size, List.length_append]
    omega
  rw [put, if_neg inside]
  simp

theorem write_eq_appendAll (value : Value) (b : ByteBuffer) :
    b.write value = appendAll (chunks value) b := by
  cases value with
  | int width value => simp [write, appendAll, chunks]
  | bool value => simp [write, appendAll, chunks]
  | string value => simp [write, appendAll, chunks]
  | packGuid guid => simp [write, appendAll, chunks, appendPackGUID]

theorem writeAll_eq_appendAll (values : List Value) (b : ByteBuffer) :
    writeAll values b = appendAll (values.flatMap chunks) b := by
  induction values generalizing b with
  | nil => rfl
  | cons value values ih =>
      rw [writeAll, List.foldlM_cons, write_eq_appendAll, List.flatMap_cons, appendAll, appendAll,
        List.foldlM_append]
      congr 1
      funext b
      exact ih b

def skip (b : ByteBuffer) (count : Nat) : ByteBuffer := { b with rpos := b.rpos + count }

def rest (b : ByteBuffer) : List UInt8 := b.storage.drop b.rpos

theorem skip_skip (b : ByteBuffer) (m n : Nat) : (b.skip m).skip n = b.skip (m + n) := by
  rw [skip, skip, skip, Nat.add_assoc]

theorem rest_skip {b : ByteBuffer} {bytes tail : List UInt8} (ahead : b.rest = bytes ++ tail) :
    (b.skip bytes.length).rest = tail := by
  rw [rest, skip, ← List.drop_drop, ← rest, ahead, List.drop_left]

theorem rpos_lt {b : ByteBuffer} {bytes tail : List UInt8} (some : bytes ≠ [])
    (ahead : b.rest = bytes ++ tail) : b.rpos + bytes.length ≤ b.size := by
  have length := congrArg List.length ahead
  have pos := List.length_pos_iff.mpr some
  rw [rest, List.length_drop, List.length_append, ← size] at length
  omega

theorem readBytes_ahead {b : ByteBuffer} {bytes tail : List UInt8} (some : bytes ≠ [])
    (ahead : b.rest = bytes ++ tail) :
    b.readBytes bytes.length = .ok (leValue bytes) (b.skip bytes.length) := by
  have inside : ¬ b.rpos + bytes.length > b.size := Nat.not_lt.mpr (rpos_lt some ahead)
  rw [readBytes, if_neg inside, ← rest, ahead, List.take_left]
  rfl

theorem scanString_text {text : List UInt8} (nulFree : 0 ∉ text) (tail : List UInt8) (rpos : Nat) :
    scanString (text ++ 0 :: tail) rpos = (true, rpos + text.length) := by
  induction text generalizing rpos with
  | nil => rfl
  | cons c text ih =>
      have other : c ≠ 0 := fun same => nulFree (same ▸ List.mem_cons_self)
      have more : text ++ 0 :: tail ≠ [] := by simp
      have ih := ih (fun inside => nulFree (List.mem_cons_of_mem c inside)) (rpos + 1)
      rw [List.cons_append, scanString, if_neg other, if_neg more, ih, List.length_cons]
      congr 1
      omega

theorem readString_ahead {b : ByteBuffer} {text tail : List UInt8} (nulFree : 0 ∉ text)
    (ahead : b.rest = text ++ [0] ++ tail) (value : List UInt8) :
    b.readString value = .ok text (b.skip (text ++ [0]).length) := by
  have inside : b.rpos < b.size := by
    have le := rpos_lt (by simp) ahead
    rw [List.length_append, List.length_singleton] at le
    omega
  have scanned : scanString (b.storage.drop b.rpos) b.rpos = (true, b.rpos + text.length) := by
    rw [← rest, ahead, List.append_assoc]
    exact scanString_text nulFree tail b.rpos
  rw [readString, if_pos inside, scanned]
  simp only [if_true, Nat.add_sub_cancel_left]
  rw [← rest, ahead, List.append_assoc, List.take_left, skip, List.length_append,
    List.length_singleton, Nat.add_assoc]

def maskOf : List UInt8 → Nat
  | [] => 0
  | digit :: digits => (if digit ≠ 0 then 1 else 0) + 2 * maskOf digits

theorem maskOf_lt (digits : List UInt8) : maskOf digits < 2 ^ digits.length := by
  induction digits with
  | nil => exact Nat.one_pos
  | cons digit digits ih =>
      rw [maskOf, List.length_cons, Nat.pow_succ]
      split <;> omega

theorem leBytes_zero (count : Nat) : leBytes count 0 = List.replicate count 0 := by
  induction count with
  | zero => rfl
  | succ count ih =>
      rw [leBytes, Nat.zero_div, ih]
      rfl

theorem maskOf_zeros (count : Nat) : maskOf (List.replicate count 0) = 0 := by
  induction count with
  | zero => rfl
  | succ count ih => rw [List.replicate_succ, maskOf, ih]; rfl

theorem ofNat_eq_zero_iff (n : Nat) : UInt8.ofNat n = 0 ↔ n % 256 = 0 := by
  rw [← UInt8.toNat_inj, UInt8.toNat_ofNat']
  rfl

/-- One more digit in front of a mask. -/
theorem mask_shiftLeft (bit mask i : Nat) (small : bit < 2) :
    (bit + 2 * mask) <<< i = bit <<< i ||| mask <<< (i + 1) := by
  have or : 2 * mask + bit = mask <<< 1 ||| bit := by
    rw [← Nat.shiftLeft_add_eq_or_of_lt small, Nat.shiftLeft_eq]
    omega
  rw [Nat.add_comm bit, or, Nat.shiftLeft_or_distrib, ← Nat.shiftLeft_add, Nat.or_comm,
    Nat.add_comm 1]

theorem packLoop_eq (remaining i : Nat) {guid : Nat} (small : guid < 256 ^ remaining) (mask : Nat)
    (bytes : List UInt8) :
    packLoop remaining i guid mask bytes =
      (mask ||| maskOf (leBytes remaining guid) <<< i,
        bytes ++ (leBytes remaining guid).filter (· ≠ 0)) := by
  induction remaining generalizing i guid mask bytes with
  | zero => simp [packLoop, leBytes, maskOf]
  | succ remaining ih =>
      by_cases done : guid = 0
      · rw [packLoop, if_pos done, done, leBytes_zero, maskOf_zeros,
          Nat.zero_shiftLeft, Nat.or_zero]
        simp
      · have less : guid / 256 < 256 ^ remaining := by
          rw [Nat.pow_succ, Nat.mul_comm] at small
          exact Nat.div_lt_of_lt_mul small
        have ih := fun mask bytes => @ih (i + 1) (guid / 256) less mask bytes
        rw [packLoop, if_neg done, leBytes, maskOf]
        by_cases digit : guid % 256 = 0
        · have zero : UInt8.ofNat guid = 0 := (ofNat_eq_zero_iff guid).mpr digit
          rw [if_neg (not_not.mpr digit), ih, zero, if_neg (not_not.mpr rfl),
            List.filter_cons_of_neg (by decide), mask_shiftLeft 0 _ i (by decide),
            Nat.zero_shiftLeft, Nat.zero_or]
        · have nonzero : UInt8.ofNat guid ≠ 0 := fun zero =>
            digit ((ofNat_eq_zero_iff guid).mp zero)
          rw [if_pos digit, ih, if_pos nonzero, List.filter_cons_of_pos (by simpa using nonzero),
            mask_shiftLeft 1 _ i (by decide), Nat.or_assoc, List.append_assoc,
            List.singleton_append]

theorem packGUID_eq (guid : UInt64) :
    packGUID guid = UInt8.ofNat (maskOf (leBytes 8 guid.toNat)) ::
      (leBytes 8 guid.toNat).filter (· ≠ 0) := by
  have loop := packLoop_eq 8 0 (guid.toNat_lt : guid.toNat < 256 ^ 8) 0 []
  rw [packGUID, loop]
  simp

theorem and_shiftLeft_ne_zero (mask i : Nat) :
    mask &&& 1 <<< i ≠ 0 ↔ mask.testBit i = true := by
  rw [Nat.one_shiftLeft]
  constructor
  · intro some
    by_contra unset
    apply some
    apply Nat.eq_of_testBit_eq
    intro j
    rw [Nat.testBit_and, Nat.testBit_two_pow, Nat.zero_testBit]
    by_cases same : i = j
    · rw [← same, Bool.eq_false_iff.mpr unset, Bool.false_and]
    · rw [decide_eq_false same, Bool.and_false]
  · intro set none
    have bit := congrArg (fun n => n.testBit i) none
    simp [Nat.testBit_and, set] at bit

theorem readPackLoop_digits (mask : Nat) (digits : List UInt8) (i guid : Nat)
    (bits : ∀ j (inside : j < digits.length), mask.testBit (i + j) = decide (digits[j] ≠ 0))
    (small : guid < 256 ^ i) {b : ByteBuffer} {tail : List UInt8}
    (ahead : b.rest = digits.filter (· ≠ 0) ++ tail) :
    readPackLoop mask digits.length i guid b =
      .ok (guid + 256 ^ i * leValue digits) (b.skip (digits.filter (· ≠ 0)).length) := by
  induction digits generalizing i guid b with
  | nil => rfl
  | cons digit digits ih =>
      have first := bits 0 (Nat.zero_lt_succ _)
      have later : ∀ j (inside : j < digits.length),
          mask.testBit (i + 1 + j) = decide (digits[j] ≠ 0) := by
        intro j inside
        rw [Nat.add_right_comm, Nat.add_assoc]
        exact bits (j + 1) (Nat.succ_lt_succ inside)
      rw [Nat.add_zero, List.getElem_cons_zero] at first
      by_cases zero : digit = 0
      · have skipped : ¬ mask &&& 1 <<< i ≠ 0 := by
          rw [and_shiftLeft_ne_zero, first]
          simp [zero]
        have dropped : (digit :: digits).filter (· ≠ 0) = digits.filter (· ≠ 0) :=
          List.filter_cons_of_neg (by simp [zero])
        rw [dropped] at ahead ⊢
        have more : guid < 256 ^ (i + 1) :=
          Nat.lt_of_lt_of_le small (Nat.pow_le_pow_right (by decide) (Nat.le_succ i))
        rw [List.length_cons, readPackLoop, if_neg skipped, ih (i + 1) guid later more ahead,
          leValue, zero, UInt8.toNat_zero, Nat.zero_add, Nat.pow_succ, Nat.mul_assoc]
      · have taken : mask &&& 1 <<< i ≠ 0 := by
          rw [and_shiftLeft_ne_zero, first]
          simpa using zero
        have kept : (digit :: digits).filter (· ≠ 0) = [digit] ++ digits.filter (· ≠ 0) :=
          List.filter_cons_of_pos (by simpa using zero)
        rw [kept, List.append_assoc] at ahead
        have one := readBytes_ahead (List.cons_ne_nil digit []) ahead
        have shift : guid ||| leValue [digit] <<< (i * 8) = guid + 256 ^ i * digit.toNat := by
          have power : 256 ^ i = 2 ^ (i * 8) := by rw [Nat.mul_comm, Nat.pow_mul]
          rw [power] at small
          rw [Nat.or_comm, ← Nat.shiftLeft_add_eq_or_of_lt small, Nat.shiftLeft_eq, power, leValue,
            leValue]
          ring
        have more : guid + 256 ^ i * digit.toNat < 256 ^ (i + 1) := by
          have byte : 256 ^ i * digit.toNat ≤ 256 ^ i * 255 :=
            Nat.mul_le_mul_left _ (Nat.le_of_lt_succ digit.toNat_lt)
          rw [Nat.pow_succ]
          omega
        rw [List.length_cons, readPackLoop, if_pos taken]
        rw [List.length_singleton] at one
        have after : (b.skip 1).rest = digits.filter (· ≠ 0) ++ tail := rest_skip ahead
        simp only [one, Reading.bind, shift]
        rw [ih (i + 1) _ later more after, kept, leValue, skip_skip, List.length_append,
          List.length_singleton]
        congr 1
        ring

theorem testBit_maskOf (digits : List UInt8) (j : Nat) (inside : j < digits.length) :
    (maskOf digits).testBit j = decide (digits[j] ≠ 0) := by
  induction digits generalizing j with
  | nil => cases inside
  | cons digit digits ih =>
      cases j with
      | zero =>
          rw [maskOf, Nat.testBit_zero, List.getElem_cons_zero]
          by_cases zero : digit = 0
          · simp [zero]
          · simp [zero]
      | succ j =>
          rw [maskOf, Nat.testBit_add_one, List.getElem_cons_succ,
            ← ih j (Nat.lt_of_succ_lt_succ inside)]
          congr 1
          split <;> omega

theorem readPackGUID_ahead {b : ByteBuffer} {guid : UInt64} {tail : List UInt8}
    (ahead : b.rest = packGUID guid ++ tail) :
    b.readPackGUID = .ok guid (b.skip (packGUID guid).length) := by
  have digits := length_leBytes 8 guid.toNat
  have whole : leValue (leBytes 8 guid.toNat) = guid.toNat :=
    leValue_leBytes (guid.toNat_lt : guid.toNat < 256 ^ 8)
  rw [packGUID_eq] at ahead ⊢
  generalize leBytes 8 guid.toNat = bytes at digits whole ahead
  have small := maskOf_lt bytes
  rw [digits] at small
  have mask : leValue [UInt8.ofNat (maskOf bytes)] = maskOf bytes := by
    rw [leValue, leValue, UInt8.toNat_ofNat']
    omega
  have one := readBytes_ahead (List.cons_ne_nil (UInt8.ofNat (maskOf bytes)) []) ahead
  rw [List.length_singleton, mask] at one
  have after : (b.skip 1).rest = bytes.filter (· ≠ 0) ++ tail :=
    @rest_skip b [UInt8.ofNat (maskOf bytes)] _ ahead
  have loop := readPackLoop_digits (maskOf bytes) bytes 0 0
    (fun j inside => by rw [Nat.zero_add]; exact testBit_maskOf bytes j inside) Nat.one_pos
    after
  rw [digits, whole, Nat.zero_add, Nat.pow_zero, Nat.one_mul] at loop
  rw [readPackGUID, one]
  simp only [Reading.bind, loop, UInt64.ofNat_toNat, skip_skip, List.length_cons,
    Nat.add_comm 1]

def NulFree : Value → Prop
  | .string text => 0 ∉ text
  | _ => True

theorem read_ahead {b : ByteBuffer} {value : Value} (nulFree : NulFree value) {tail : List UInt8}
    (ahead : b.rest = encoded value ++ tail) :
    b.read value.type = .ok value (b.skip (encoded value).length) := by
  cases value with
  | int width value =>
      have nonempty : leBytes width.bytes value.toNat ≠
        [] := by cases width <;> simp [Width.bytes, leBytes]
      have small : value.toNat < 256 ^ width.bytes := by
        have lt := value.isLt
        rwa [Nat.pow_mul] at lt
      rw [encoded, chunks, List.flatten_singleton] at ahead ⊢
      have one := readBytes_ahead nonempty ahead
      rw [length_leBytes, leValue_leBytes small] at one
      simp only [Value.type, read, one, Reading.bind, length_leBytes, BitVec.ofNat_toNat,
        BitVec.setWidth_eq]
  | bool value =>
      have one := readBytes_ahead (List.cons_ne_nil (if value then 1 else 0) []) ahead
      simp only [Value.type, read]
      rw [List.length_singleton] at one
      simp only [one, Reading.bind]
      cases value <;> rfl
  | string text =>
      have same : encoded (.string text) = text ++ [0] := by simp [encoded, chunks]
      rw [same] at ahead ⊢
      simp only [Value.type, read, readString_ahead nulFree ahead, Reading.bind]
  | packGuid guid =>
      have same : encoded (.packGuid guid) = packGUID guid := by simp [encoded, chunks]
      rw [same] at ahead ⊢
      simp only [Value.type, read, readPackGUID_ahead ahead, Reading.bind]

theorem readAll_ahead {values : List Value} (nulFree : ∀ value ∈ values, NulFree value)
    {b : ByteBuffer} {tail : List UInt8} (ahead : b.rest = values.flatMap encoded ++ tail) :
    readAll (values.map Value.type) b = .ok values (b.skip (values.flatMap encoded).length) := by
  induction values generalizing b with
  | nil => rfl
  | cons value values ih =>
      rw [List.flatMap_cons, List.append_assoc] at ahead
      have first := read_ahead (nulFree value List.mem_cons_self) ahead
      have later := ih (fun value inside => nulFree value (List.mem_cons_of_mem _ inside))
        (rest_skip ahead)
      simp only [List.map_cons, readAll, first, later, Reading.bind, skip_skip, List.flatMap_cons,
        List.length_append]

/-- The types whose read looks at the size before it takes anything. -/
def whole : FieldType → Bool
  | .int _ | .bool => true
  | .string | .packGuid => false

structure Advanced (b after : ByteBuffer) : Prop where
  storage : after.storage = b.storage
  wpos : after.wpos = b.wpos
  forward : b.rpos ≤ after.rpos
  inside : after.rpos ≤ b.size

/-- A read that returns is inside the buffer. One that throws has not moved, or has taken all
there was. -/
def Bounded {α : Type} (unmoved : Bool) (b : ByteBuffer) : Reading α → Prop
  | .ok _ after => Advanced b after
  | .thrown after => after = { b with rpos := if unmoved then b.rpos else b.size }

theorem Advanced.refl {b : ByteBuffer} (inside : b.rpos ≤ b.size) : Advanced b b :=
  ⟨rfl, rfl, Nat.le_refl _, inside⟩

theorem Advanced.size {b after : ByteBuffer} (advanced : Advanced b after) : after.size = b.size :=
  congrArg List.length advanced.storage

theorem Advanced.trans {b after later : ByteBuffer} (first : Advanced b after)
    (second : Advanced after later) : Advanced b later where
  storage := second.storage.trans first.storage
  wpos := second.wpos.trans first.wpos
  forward := Nat.le_trans first.forward second.forward
  inside := first.size ▸ second.inside

theorem Bounded.bind {α β : Type} {b : ByteBuffer} {reading : Reading α}
    {next : α → ByteBuffer → Reading β} (first : Bounded false b reading)
    (later : ∀ value after, Advanced b after → Bounded false after (next value after)) :
    Bounded false b (reading.bind next) := by
  cases reading with
  | thrown after => exact first
  | ok value after =>
      have second := later value after first
      rw [Reading.bind]
      cases result : next value after with
      | ok value later =>
          rw [result] at second
          exact first.trans second
      | thrown later =>
          rw [result] at second
          change later = { after with rpos := after.size } at second
          change later = { b with rpos := b.size }
          rw [second, first.size, ← first.storage, ← first.wpos]

theorem Bounded.map {α β : Type} {unmoved : Bool} {b : ByteBuffer} {reading : Reading α}
    (bounded : Bounded unmoved b reading) (f : α → β) :
    Bounded unmoved b (reading.bind fun value b => .ok (f value) b) := by
  cases reading with
  | thrown after => exact bounded
  | ok value after => exact bounded

theorem readBytes_bounded (count : Nat) {b : ByteBuffer} :
    Bounded true b (b.readBytes count) := by
  rw [readBytes]
  split
  · rfl
  · next inside => exact ⟨rfl, rfl, Nat.le_add_right _ _, Nat.not_lt.mp inside⟩

theorem readByte_bounded {b : ByteBuffer} (inside : b.rpos ≤ b.size) :
    Bounded false b (b.readBytes 1) := by
  rw [readBytes]
  split
  · next outside =>
      have atEnd : b.rpos = b.size := by omega
      change b = { b with rpos := b.size }
      rw [← atEnd]
  · next more => exact ⟨rfl, rfl, Nat.le_add_right _ _, Nat.not_lt.mp more⟩

/-- The loop stays inside the characters, and stops behind the last one if there is no NUL. -/
theorem scanString_bounds (text : List UInt8) (rpos : Nat) :
    rpos ≤ (scanString text rpos).2 ∧
      if (scanString text rpos).1 = true then (scanString text rpos).2 < rpos + text.length
      else (scanString text rpos).2 = rpos + text.length := by
  induction text generalizing rpos with
  | nil => exact ⟨Nat.le_refl _, rfl⟩
  | cons c rest ih =>
      rw [scanString]
      split
      · exact ⟨Nat.le_refl _, by simp⟩
      · split
        · next last => simp [last]
        · have ih := ih (rpos + 1)
          rw [List.length_cons]
          refine ⟨by omega, ?_⟩
          have same : rpos + 1 + rest.length = rpos + (rest.length + 1) := by omega
          rw [← same]
          exact ih.2

theorem readString_bounded (value : List UInt8) {b : ByteBuffer} (inside : b.rpos ≤ b.size) :
    Bounded false b (b.readString value) := by
  have bounds := scanString_bounds (b.storage.drop b.rpos) b.rpos
  rw [List.length_drop, ← size, Nat.add_sub_cancel' inside] at bounds
  rw [readString]
  split
  · cases scanned : scanString (b.storage.drop b.rpos) b.rpos with
    | mk found rpos =>
        rw [scanned] at bounds
        cases found with
        | true => exact ⟨rfl, rfl, Nat.le_succ_of_le bounds.1, bounds.2⟩
        | false =>
            have atEnd : rpos = b.size := bounds.2
            rw [atEnd]
            rfl
  · exact Advanced.refl inside

theorem readPackLoop_bounded (mask remaining i guid : Nat) {b : ByteBuffer}
    (inside : b.rpos ≤ b.size) : Bounded false b (readPackLoop mask remaining i guid b) := by
  induction remaining generalizing i guid b with
  | zero => exact Advanced.refl inside
  | succ remaining ih =>
      rw [readPackLoop]
      split
      · apply (readByte_bounded inside).bind
        intro bit after advanced
        exact ih _ _ (advanced.size ▸ advanced.inside)
      · exact ih _ _ inside

theorem read_bounded {b : ByteBuffer} (inside : b.rpos ≤ b.size) (type : FieldType) :
    Bounded (whole type) b (b.read type) := by
  cases type with
  | int width => exact (readBytes_bounded width.bytes).map _
  | bool => exact (readBytes_bounded 1).map _
  | string => exact (readString_bounded [] inside).map _
  | packGuid =>
      apply Bounded.map
      apply Bounded.map
      apply (readByte_bounded inside).bind
      intro guidmark after advanced
      exact readPackLoop_bounded guidmark 8 0 0 (advanced.size ▸ advanced.inside)

theorem Bounded.inside {α : Type} {unmoved : Bool} {b : ByteBuffer} {reading : Reading α}
    (bounded : Bounded unmoved b reading) (inside : b.rpos ≤ b.size) :
    reading.buffer.rpos ≤ reading.buffer.size := by
  cases reading with
  | ok value after =>
      have advanced : Advanced b after := bounded
      exact advanced.size ▸ advanced.inside
  | thrown after =>
      change after = _ at bounded
      rw [Reading.buffer, bounded]
      cases unmoved with
      | true => exact inside
      | false => exact Nat.le_refl _

theorem readings_bounded (types : List FieldType) {b : ByteBuffer} (inside : b.rpos ≤ b.size) :
    ∀ reading ∈ readings types b, Bounded (whole reading.2.1) reading.1 reading.2.2 := by
  induction types generalizing b with
  | nil => exact fun reading none => absurd none List.not_mem_nil
  | cons type types ih =>
      have first := read_bounded inside type
      have later := ih (first.inside inside)
      intro reading among
      cases List.mem_cons.mp among with
      | inl same => exact same ▸ first
      | inr among => exact later reading among

theorem flatten_chunks (values : List Value) :
    (values.flatMap chunks).flatten = values.flatMap encoded := by
  induction values with
  | nil => rfl
  | cons value values ih =>
      rw [List.flatMap_cons, List.flatten_append, ih, List.flatMap_cons, encoded]

/-- Values that were written are read back, if no append finds the buffer full; and of any bytes
each read takes what is there or throws as `Bounded` says. -/
theorem faithful_codec (values : List Value) (nulFree : ∀ value ∈ values, NulFree value)
    (content : List UInt8) (types : List FieldType) :
    (fits 0 (values.flatMap chunks) = true → ∃ buffer, writeAll values {} = some buffer ∧
      readAll (values.map Value.type) buffer = .ok values { buffer with rpos := buffer.wpos }) ∧
    (fits 0 (values.flatMap chunks) = false → writeAll values {} = none) ∧
    ∀ reading ∈ readings types { storage := content, wpos := content.length },
      Bounded (whole reading.2.1) reading.1 reading.2.2 := by
  have written : writeAll values {} =
      if fits 0 (values.flatMap chunks) = true then
        some (extend {} (values.flatMap chunks).flatten) else none := by
    rw [writeAll_eq_appendAll, appendAll_eq _ rfl]
    rfl
  refine ⟨fun room => ?_, fun full => ?_, readings_bounded types (Nat.zero_le _)⟩
  · refine ⟨_, by rw [written, if_pos room], ?_⟩
    have ahead : (extend {} (values.flatMap chunks).flatten).rest =
      values.flatMap encoded ++ [] := by
      rw [List.append_nil, ← flatten_chunks]
      rfl
    rw [readAll_ahead nulFree ahead, ← flatten_chunks]
    rfl
  · rw [written, full]
    rfl

/-- A negative number, a flag, a text, a guid with zero bytes, and the empty text. -/
def mixed : List Value :=
  [.int .w32 (-2), .bool true, .string [79, 114, 99], .packGuid 0x0100000000000042, .string []]

theorem guid_read_back :
    ∃ buffer, writeAll mixed {} = some buffer ∧
      readAll (mixed.map Value.type) buffer = .ok mixed { buffer with rpos := buffer.wpos } :=
  (faithful_codec mixed
    (by
      simp only [mixed, List.forall_mem_cons, NulFree]
      exact ⟨trivial, trivial, by decide, trivial, by decide, nofun⟩)
    [] []).1 (by decide +kernel)

/-- A text without a NUL throws with everything taken, and so does a guid that ends behind its
mask. A text as long as the largest size cannot be written: its NUL finds the buffer full. -/
theorem unterminated_string_taken :
    read { storage := [65, 66], wpos := 2 } .string =
      .thrown { rpos := 2, storage := [65, 66], wpos := 2 } ∧
    read { storage := [1], wpos := 1 } .packGuid =
      .thrown { rpos := 1, storage := [1], wpos := 1 } ∧
    writeAll [.string (List.replicate maxSize 65)] {} = none := by
  refine ⟨by decide +kernel, by decide +kernel, ?_⟩
  rw [writeAll_eq_appendAll, appendAll_eq _ rfl]
  have full : fits 0 ([Value.string (List.replicate maxSize 65)].flatMap chunks) = false := by
    simp [chunks, fits]
  exact if_neg (Bool.eq_false_iff.mp full)

end ByteBuffer

end TortoiseWow
