import Mathlib
import TortoiseWow.Object.UpdateBatching

/-!
The packets of an update as a client reads them: how many updates a packet says it has, and that
these are all of its bytes.
-/

namespace TortoiseWow

open Lib

namespace Updates

variable {β : Type}

inductive Update (β : Type) where
  | outOfRange (guids : List UInt64)
  | block (block : β)

structure Message (β : Type) where
  count : Nat
  hasTransport : Bool
  updates : List (Update β)

def readGuids : Nat → ByteBuffer → Reading (List UInt64)
  | 0, b => .ok [] b
  | count + 1, b => b.readPackGUID.bind fun guid b => (readGuids count b).bind fun guids b =>
      .ok (guid :: guids) b

def readUpdate (format : BlockFormat β) (b : ByteBuffer) : Reading (Update β) :=
  if b.rest.head? = some updateTypeOutOfRangeObjects then
    (b.readBytes 1).bind fun _ b => (b.readBytes 4).bind fun count b =>
      (readGuids count b).bind fun guids b => .ok (.outOfRange guids) b
  else (format.read b).bind fun block b => .ok (.block block) b

def readUpdates (format : BlockFormat β) : Nat → ByteBuffer → Reading (List (Update β))
  | 0, b => .ok [] b
  | count + 1, b => (readUpdate format b).bind fun update b =>
      (readUpdates format count b).bind fun updates b => .ok (update :: updates) b

def readMessage (format : BlockFormat β) (b : ByteBuffer) : Reading (Message β) :=
  (b.readBytes 4).bind fun count b => (b.readBytes 1).bind fun hasTransport b =>
    (readUpdates format count b).bind fun updates b => .ok ⟨count, hasTransport ≠ 0, updates⟩ b

/-- The updates that a packet says it has have to be all of it. -/
def readWhole (format : BlockFormat β) (bytes : List UInt8) : Option (Message β) :=
  match readMessage format { storage := bytes, wpos := bytes.length } with
  | .ok message b => if b.rpos = b.size then some message else none
  | .thrown _ => none

def receive (zlib : Zlib) (format : BlockFormat β) (packet : WorldPacket) : Option (Message β) :=
  if packet.opcode = smsgCompressedUpdateObject then do
    let bytes ← zlib.decompress (packet.buffer.storage.drop 4)
    if leValue (packet.buffer.storage.take 4) = bytes.length then readWhole format bytes else none
  else if packet.opcode = smsgUpdateObject then readWhole format packet.buffer.storage
  else none

def encodeUpdate (format : BlockFormat β) : Update β → List UInt8
  | .outOfRange guids =>
      updateTypeOutOfRangeObjects :: leBytes 4 guids.length ++ guids.flatMap ByteBuffer.packGUID
  | .block block => format.encode block

def Update.Countable : Update β → Prop
  | .outOfRange guids => guids.length < 256 ^ 4
  | .block _ => True

theorem readGuids_ahead (guids : List UInt64) {b : ByteBuffer} {tail : List UInt8}
    (ahead : b.rest = guids.flatMap ByteBuffer.packGUID ++ tail) :
    readGuids guids.length b =
      .ok guids (b.skip (guids.flatMap ByteBuffer.packGUID).length) := by
  induction guids generalizing b with
  | nil => rfl
  | cons guid guids ih =>
      rw [List.flatMap_cons, List.append_assoc] at ahead
      have first := ByteBuffer.readPackGUID_ahead ahead
      have later := ih (ByteBuffer.rest_skip ahead)
      simp only [List.length_cons, readGuids, first, later, Reading.bind, ByteBuffer.skip_skip,
        List.flatMap_cons, List.length_append]

theorem readUpdate_ahead (format : BlockFormat β) {update : Update β}
    (countable : update.Countable) {b : ByteBuffer} {tail : List UInt8}
    (ahead : b.rest = encodeUpdate format update ++ tail) :
    readUpdate format b = .ok update (b.skip (encodeUpdate format update).length) := by
  cases update with
  | outOfRange guids =>
      have tagged : b.rest.head? = some updateTypeOutOfRangeObjects := by rw [ahead]; rfl
      have ahead : b.rest = [updateTypeOutOfRangeObjects] ++
          (leBytes 4 guids.length ++ (guids.flatMap ByteBuffer.packGUID ++ tail)) := by
        rw [ahead, encodeUpdate]
        simp only [List.append_assoc, List.cons_append, List.nil_append]
      have type := ByteBuffer.readBytes_ahead (List.cons_ne_nil _ _) ahead
      have ahead := ByteBuffer.rest_skip ahead
      have count := ByteBuffer.readBytes_ahead (by simp [leBytes]) ahead
      have ahead := ByteBuffer.rest_skip ahead
      rw [length_leBytes, leValue_leBytes countable] at count
      rw [length_leBytes] at ahead
      have whole := readGuids_ahead guids ahead
      rw [List.length_singleton] at type count whole
      have length : (encodeUpdate format (.outOfRange guids)).length =
          1 + (4 + (guids.flatMap ByteBuffer.packGUID).length) := by
        rw [encodeUpdate, List.length_append, List.length_cons, length_leBytes]
        omega
      rw [readUpdate, if_pos tagged, length]
      simp only [type, count, whole, Reading.bind]
      rw [ByteBuffer.skip_skip, ByteBuffer.skip_skip]
  | block block =>
      have other : b.rest.head? ≠ some updateTypeOutOfRangeObjects := by
        rw [ahead, encodeUpdate, List.head?_append_of_ne_nil _ (format.encode_ne_nil block)]
        exact format.head_encode block
      rw [readUpdate, if_neg other, format.read_encode b block tail ahead]
      rfl

theorem readUpdates_ahead (format : BlockFormat β) {updates : List (Update β)}
    (countable : ∀ update ∈ updates, update.Countable) {b : ByteBuffer} {tail : List UInt8}
    (ahead : b.rest = updates.flatMap (encodeUpdate format) ++ tail) :
    readUpdates format updates.length b =
      .ok updates (b.skip (updates.flatMap (encodeUpdate format)).length) := by
  induction updates generalizing b with
  | nil => rfl
  | cons update updates ih =>
      rw [List.flatMap_cons, List.append_assoc] at ahead
      have first := readUpdate_ahead format (countable update List.mem_cons_self) ahead
      have later := ih (fun update inside => countable update (List.mem_cons_of_mem _ inside))
        (ByteBuffer.rest_skip ahead)
      simp only [List.length_cons, readUpdates, first, later, Reading.bind, ByteBuffer.skip_skip,
        List.flatMap_cons, List.length_append]

/-- The bytes of a packet before they are compressed. -/
def encodeMessage (format : BlockFormat β) (hasTransport : Bool) (updates : List (Update β)) :
    List UInt8 :=
  leBytes 4 updates.length ++
    ([if hasTransport then 1 else 0] ++ updates.flatMap (encodeUpdate format))

theorem readWhole_encode (format : BlockFormat β) (hasTransport : Bool)
    {updates : List (Update β)} (few : updates.length < 256 ^ 4)
    (countable : ∀ update ∈ updates, update.Countable) :
    readWhole format (encodeMessage format hasTransport updates) =
      some ⟨updates.length, hasTransport, updates⟩ := by
  generalize whole : encodeMessage format hasTransport updates = bytes
  let b : ByteBuffer := { storage := bytes, wpos := bytes.length }
  have ahead : b.rest = leBytes 4 updates.length ++ ([if hasTransport then 1 else 0] ++
      (updates.flatMap (encodeUpdate format) ++ [])) := by
    rw [List.append_nil]
    exact whole.symm
  have count := ByteBuffer.readBytes_ahead (by simp [leBytes]) ahead
  have ahead := ByteBuffer.rest_skip ahead
  have flag := ByteBuffer.readBytes_ahead (List.cons_ne_nil _ _) ahead
  have ahead := ByteBuffer.rest_skip ahead
  have all := readUpdates_ahead format countable ahead
  rw [length_leBytes, leValue_leBytes few] at count
  rw [length_leBytes, List.length_singleton] at flag all
  have length : bytes.length = 4 + (1 + (updates.flatMap (encodeUpdate format)).length) := by
    rw [← whole, encodeMessage, List.length_append, List.length_append, length_leBytes,
      List.length_singleton]
  have transport : decide (leValue [if hasTransport then 1 else 0] ≠ 0) = hasTransport := by
    cases hasTransport <;> rfl
  have read : readMessage format b =
      .ok ⟨updates.length, hasTransport, updates⟩ (b.skip bytes.length) := by
    simp only [readMessage, count, flag, all, Reading.bind, transport]
    rw [ByteBuffer.skip_skip, ByteBuffer.skip_skip, length]
  rw [readWhole, read]
  exact if_pos (Nat.zero_add _)

end Updates

end TortoiseWow
