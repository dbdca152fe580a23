import TortoiseWow.Lib.LittleEndian

/-!
The buffer that packets are written into and read from. Writing at a place (`put`) does not move
the write position, so the bytes always end there in a buffer that was empty at first.
-/

namespace TortoiseWow

open Lib

structure ByteBuffer where
  rpos : Nat := 0
  wpos : Nat := 0
  storage : List UInt8 := []
  deriving DecidableEq

/-- A read returns, or throws a ByteBufferException; both leave a buffer. -/
inductive Reading (α : Type) where
  | ok (value : α) (buffer : ByteBuffer)
  | thrown (buffer : ByteBuffer)
  deriving DecidableEq

def Reading.bind {α β : Type} (reading : Reading α) (next : α → ByteBuffer → Reading β) :
    Reading β :=
  match reading with
  | .ok value buffer => next value buffer
  | .thrown buffer => .thrown buffer

def Reading.buffer {α : Type} : Reading α → ByteBuffer
  | .ok _ buffer => buffer
  | .thrown buffer => buffer

inductive Width where
  | w8
  | w16
  | w32
  | w64
  deriving DecidableEq

def Width.bytes : Width → Nat
  | .w8 => 1
  | .w16 => 2
  | .w32 => 4
  | .w64 => 8

inductive FieldType where
  | int (width : Width)
  | bool
  | string
  | packGuid
  deriving DecidableEq

/-- A signed integer is known by its two's complement. -/
inductive Value where
  | int (width : Width) (value : BitVec (8 * width.bytes))
  | bool (value : Bool)
  | string (value : List UInt8)
  | packGuid (guid : UInt64)
  deriving DecidableEq

def Value.type : Value → FieldType
  | .int width _ => .int width
  | .bool _ => .bool
  | .string _ => .string
  | .packGuid _ => .packGuid

namespace ByteBuffer

def size (b : ByteBuffer) : Nat := b.storage.length

def maxSize : Nat := 10000000

def append (src : List UInt8) (b : ByteBuffer) : Option ByteBuffer :=
  if src = [] then some b
  else if b.size < maxSize then
    let storage := b.storage ++ List.replicate (b.wpos + src.length - b.size) 0
    some { b with
      storage := storage.take b.wpos ++ src ++ storage.drop (b.wpos + src.length)
      wpos := b.wpos + src.length }
  else none

def resize (newSize : Nat) (b : ByteBuffer) : ByteBuffer where
  storage := b.storage.take newSize ++ List.replicate (newSize - b.size) 0
  wpos := newSize

def put (pos : Nat) (src : List UInt8) (b : ByteBuffer) : Option ByteBuffer :=
  if pos + src.length > b.size then none
  else some { b with
    storage := b.storage.take pos ++ src ++ b.storage.drop (pos + src.length) }

def written (b : ByteBuffer) : List UInt8 := b.storage.take b.wpos

/-- The loop of `appendPackGUID` over what is left of the number, with the mask and the bytes
so far. -/
def packLoop : Nat → Nat → Nat → Nat → List UInt8 → Nat × List UInt8
  | 0, _, _, mask, bytes => (mask, bytes)
  | remaining + 1, i, guid, mask, bytes =>
      if guid = 0 then (mask, bytes)
      else if guid % 256 ≠ 0 then
        packLoop remaining (i + 1) (guid / 256) (mask ||| 1 <<< i) (bytes ++ [UInt8.ofNat guid])
      else packLoop remaining (i + 1) (guid / 256) mask bytes

def packGUID (guid : UInt64) : List UInt8 :=
  let (mask, bytes) := packLoop 8 0 guid.toNat 0 []
  UInt8.ofNat mask :: bytes

def appendPackGUID (guid : UInt64) (b : ByteBuffer) : Option ByteBuffer :=
  b.append (packGUID guid)

/-- `operator<<` -/
def write (b : ByteBuffer) : Value → Option ByteBuffer
  | .int width value => b.append (leBytes width.bytes value.toNat)
  | .bool value => b.append [if value then 1 else 0]
  | .string value => (b.append value).bind (append [0])
  | .packGuid guid => b.appendPackGUID guid

def readBytes (count : Nat) (b : ByteBuffer) : Reading Nat :=
  if b.rpos + count > b.size then .thrown b
  else .ok (leValue ((b.storage.drop b.rpos).take count)) { b with rpos := b.rpos + count }

/-- The loop over the characters behind the read position: whether it finds the NUL, and the
position it stops at. -/
def scanString : List UInt8 → Nat → Bool × Nat
  | [], rpos => (false, rpos)
  | c :: rest, rpos =>
      if c = 0 then (true, rpos)
      else if rest = [] then (false, rpos + 1)
      else scanString rest (rpos + 1)

def readString (value : List UInt8) (b : ByteBuffer) : Reading (List UInt8) :=
  if b.rpos < b.size then
    let (found, rpos) := scanString (b.storage.drop b.rpos) b.rpos
    if found then
      .ok ((b.storage.drop b.rpos).take (rpos - b.rpos)) { b with rpos := rpos + 1 }
    else .thrown { b with rpos }
  else .ok value b

def readPackLoop (mask : Nat) : Nat → Nat → Nat → ByteBuffer → Reading Nat
  | 0, _, guid, b => .ok guid b
  | remaining + 1, i, guid, b =>
      if mask &&& 1 <<< i ≠ 0 then
        (b.readBytes 1).bind fun bit b =>
          readPackLoop mask remaining (i + 1) (guid ||| bit <<< (i * 8)) b
      else readPackLoop mask remaining (i + 1) guid b

def readPackGUID (b : ByteBuffer) : Reading UInt64 :=
  ((b.readBytes 1).bind fun guidmark b => readPackLoop guidmark 8 0 0 b).bind fun guid b =>
    .ok (UInt64.ofNat guid) b

/-- `operator>>` into a new variable. The byte of a bool is a signed character. -/
def read (b : ByteBuffer) : FieldType → Reading Value
  | .int width => (b.readBytes width.bytes).bind fun value b =>
      .ok (.int width (BitVec.ofNat (8 * width.bytes) value)) b
  | .bool => (b.readBytes 1).bind fun value b =>
      .ok (.bool (decide (0 < (UInt8.ofNat value).toInt8))) b
  | .string => (b.readString []).bind fun value b => .ok (.string value) b
  | .packGuid => b.readPackGUID.bind fun guid b => .ok (.packGuid guid) b

def writeAll (values : List Value) (b : ByteBuffer) : Option ByteBuffer :=
  values.foldlM write b

def readAll : List FieldType → ByteBuffer → Reading (List Value)
  | [], b => .ok [] b
  | type :: types, b => (b.read type).bind fun value b =>
      (readAll types b).bind fun values b => .ok (value :: values) b

/-- Each read of these types, with the buffer it finds; a read goes on where the one before it
stopped, also where that one threw. -/
def readings : List FieldType → ByteBuffer → List (ByteBuffer × FieldType × Reading Value)
  | [], _ => []
  | type :: types, b => (b, type, b.read type) :: readings types (b.read type).buffer

end ByteBuffer

end TortoiseWow
