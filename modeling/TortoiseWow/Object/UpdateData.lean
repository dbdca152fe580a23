import Mathlib
import TortoiseWow.Shared.ByteBuffer

/-!
Object updates on their way to a client: blocks are gathered in packets of some size, and the
guids that went out of range are put in front of the first of them.
-/

namespace TortoiseWow

open Lib

structure WorldPacket where
  opcode : Nat := 0
  buffer : ByteBuffer := {}
  deriving DecidableEq

def WorldPacket.clear (packet : WorldPacket) : WorldPacket := { packet with buffer := {} }

namespace Updates

def smsgUpdateObject : Nat := 0x0A9

def smsgCompressedUpdateObject : Nat := 0x1F6

def maxUncompressedPacketSize : Nat := 0x8000

def updateTypeOutOfRangeObjects : UInt8 := 4

namespace PacketCompressor

/-- `libdeflate_zlib_compress_bound`: all in blocks that are stored. -/
def bound (size : Nat) : Nat :=
  6 + (5 * max ((size + 4999) / 5000) 1 + size + (1 + 8))

end PacketCompressor

/-- What is relied on of the library. -/
structure Zlib where
  compress : List UInt8 → List UInt8
  decompress : List UInt8 → Option (List UInt8)
  compress_ne_nil : ∀ bytes, compress bytes ≠ []
  length_compress : ∀ bytes, (compress bytes).length ≤ PacketCompressor.bound bytes.length
  decompress_compress : ∀ bytes, decompress (compress bytes) = some bytes

/-- What is written to the destination, nothing if that is too short. None if the source is read
behind its end. -/
def PacketCompressor.compress (zlib : Zlib) (destSize : UInt32) (src : List UInt8)
    (srcSize : Int) : Option (List UInt8) :=
  if srcSize < 0 ∨ (src.length : Int) < srcSize then none
  else
    let compressed := zlib.compress (src.take srcSize.toNat)
    if compressed.length ≤ destSize.toNat then some compressed else some []

structure UpdatePacket where
  data : ByteBuffer := {}
  blockCount : UInt32 := 0
  deriving DecidableEq

structure UpdateData where
  outOfRangeGUIDs : Finset UInt64 := ∅
  datas : List UpdatePacket := []

/-- The order in which a set is gone through, which is left to the library. -/
structure Iteration where
  order : Finset UInt64 → List UInt64
  coe_order : ∀ guids, (order guids : Multiset UInt64) = guids.val

namespace UpdateData

variable (u : UpdateData)

def addOutOfRangeGUIDs (guids : Finset UInt64) : UpdateData :=
  { u with outOfRangeGUIDs := u.outOfRangeGUIDs ∪ guids }

def addOutOfRangeGUID (guid : UInt64) : UpdateData :=
  { u with outOfRangeGUIDs := insert guid u.outOfRangeGUIDs }

def addUpdateBlockAndGetBuffer : UpdateData :=
  let datas : List UpdatePacket := if u.datas = [] then [{}] else u.datas
  let last : UpdatePacket := datas.getLast?.getD {}
  let datas := if last.data.wpos > maxUncompressedPacketSize then datas.concat {} else datas
  { u with datas := datas.modifyLast fun packet =>
      { packet with blockCount := packet.blockCount + 1 } }

end UpdateData

/-- The buffer that is sent or compressed. None where an append throws. -/
def buildBuffer (guids : List UInt64) (updPacket : Option UpdatePacket) (hasTransport : Bool) :
    Option ByteBuffer := do
  let blockCount : UInt32 := (updPacket.map UpdatePacket.blockCount).getD 0
  let buf ← ({} : ByteBuffer).append
    (leBytes 4 (if guids ≠ [] then blockCount + 1 else blockCount).toNat)
  let buf ← buf.append [if hasTransport then 1 else 0]
  let buf ←
    if guids ≠ [] then do
      let buf ← buf.append [updateTypeOutOfRangeObjects]
      let buf ← buf.append (leBytes 4 guids.length)
      guids.foldlM (fun buf guid => buf.appendPackGUID guid) buf
    else some buf
  match updPacket with
  | none => some buf
  | some packet => buf.append packet.data.written

/-- None where an assertion fails, with what it returns otherwise. -/
def buildPacket (zlib : Zlib) (guids : List UInt64) (packet : WorldPacket)
    (updPacket : Option UpdatePacket) (hasTransport : Bool) : Option (WorldPacket × Bool) :=
  if packet.buffer.storage ≠ [] then none
  else do
    let buf ← buildBuffer guids updPacket hasTransport
    let pSize := buf.wpos
    if pSize > 100 then
      let destSize := UInt32.ofNat (PacketCompressor.bound pSize)
      let data ← (packet.buffer.resize (destSize.toNat + 4)).put 0 (leBytes 4 pSize)
      -- the size is an int there
      let compressed ← PacketCompressor.compress zlib destSize buf.storage
        (BitVec.ofNat 32 pSize).toInt
      let data ← data.put 4 compressed
      if compressed = [] then some ({ packet with buffer := data }, false)
      else
        some (⟨smsgCompressedUpdateObject, data.resize (compressed.length + 4)⟩, true)
    else do
      let data ← packet.buffer.append buf.written
      some (⟨smsgUpdateObject, data⟩, true)

def sendLoop (zlib : Zlib) (iteration : Iteration) (hasTransport : Bool) :
    Finset UInt64 → WorldPacket → List UpdatePacket → Option (List WorldPacket)
  | _, _, [] => some []
  | guids, data, itr :: rest => do
      let built ← buildPacket zlib (iteration.order guids) data (some itr) hasTransport
      let later ← sendLoop zlib iteration hasTransport ∅ built.1.clear rest
      some (built.1 :: later)

/-- The packets that are handed to the session, and what is left. -/
def UpdateData.send (u : UpdateData) (zlib : Zlib) (iteration : Iteration) (socket : Bool)
    (hasTransport : Bool) : Option (List WorldPacket × UpdateData) :=
  if socket = false then some ([], {})
  else if u.datas = [] ∧ u.outOfRangeGUIDs ≠ ∅ then do
    let built ← buildPacket zlib (iteration.order u.outOfRangeGUIDs) {} none hasTransport
    some ([built.1], { u with outOfRangeGUIDs := ∅ })
  else do
    let packets ← sendLoop zlib iteration hasTransport u.outOfRangeGUIDs {} u.datas
    some (packets, if u.datas = [] then u else { u with outOfRangeGUIDs := ∅ })

end Updates

end TortoiseWow
