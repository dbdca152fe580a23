import Mathlib
import TortoiseWow.Object.UpdateData
import TortoiseWow.Shared.ByteBufferCodec

/-!
What a client reads from the packets of an update: the guids first, then each block once, in the
order in which they were added.
-/

namespace TortoiseWow

open Lib

namespace Updates

variable {β : Type}

/-- How blocks are written and read. A block says by itself where it ends, and its type is not
the one of the guids. -/
structure BlockFormat (β : Type) where
  encode : β → List UInt8
  read : ByteBuffer → Reading β
  read_encode : ∀ (b : ByteBuffer) (block : β) (tail : List UInt8),
    b.rest = encode block ++ tail → read b = .ok block (b.skip (encode block).length)
  encode_ne_nil : ∀ block, encode block ≠ []
  head_encode : ∀ block, (encode block).head? ≠ some updateTypeOutOfRangeObjects

inductive Call (β : Type) where
  | addOutOfRangeGUIDs (guids : Finset UInt64)
  | addOutOfRangeGUID (guid : UInt64)
  | addBlock (block : β)

def UpdateData.addBlock (u : UpdateData) (bytes : List UInt8) : UpdateData :=
  let u := u.addUpdateBlockAndGetBuffer
  { u with datas := u.datas.modifyLast fun packet =>
      { packet with data := packet.data.extend bytes } }

def UpdateData.call (format : BlockFormat β) (u : UpdateData) : Call β → UpdateData
  | .addOutOfRangeGUIDs guids => u.addOutOfRangeGUIDs guids
  | .addOutOfRangeGUID guid => u.addOutOfRangeGUID guid
  | .addBlock block => u.addBlock (format.encode block)

def UpdateData.run (format : BlockFormat β) (u : UpdateData) (calls : List (Call β)) : UpdateData :=
  calls.foldl (fun u call => u.call format call) u

def Call.guids : Call β → Finset UInt64
  | .addOutOfRangeGUIDs guids => guids
  | .addOutOfRangeGUID guid => {guid}
  | .addBlock _ => ∅

def Call.blocks : Call β → List β
  | .addBlock block => [block]
  | _ => []

def outOfRange (calls : List (Call β)) : Finset UInt64 :=
  calls.foldr (fun call guids => call.guids ∪ guids) ∅

def packetOf (format : BlockFormat β) (blocks : List β) : UpdatePacket where
  data := ByteBuffer.extend {} (blocks.flatMap format.encode)
  blockCount := UInt32.ofNat blocks.length

/-- The blocks are spread over the packets, and no count can be too large. -/
structure Gathered (format : BlockFormat β) (u : UpdateData) (guids : Finset UInt64)
    (groups : List (List β)) : Prop where
  guids : u.outOfRangeGUIDs = guids
  datas : u.datas = groups.map (packetOf format)
  counts : ∀ blocks ∈ groups, blocks.length ≤ maxUncompressedPacketSize + 1

theorem packetOf_concat (format : BlockFormat β) (blocks : List β) (block : β) :
    packetOf format (blocks ++ [block]) =
      { data := (packetOf format blocks).data.extend (format.encode block)
        blockCount := (packetOf format blocks).blockCount + 1 } := by
  have bytes : ∀ front back : List UInt8,
      ByteBuffer.extend {} (front ++ back) = (ByteBuffer.extend {} front).extend back := by
    intro front back
    simp [ByteBuffer.extend]
  simp [packetOf, bytes]

theorem packetOf_singleton (format : BlockFormat β) (block : β) :
    packetOf format [block] =
      { data := ByteBuffer.extend {} (format.encode block), blockCount := 1 } := by
  simp [packetOf]

theorem length_le_wpos (format : BlockFormat β) (blocks : List β) :
    blocks.length ≤ (packetOf format blocks).data.wpos := by
  have size : (packetOf format blocks).data.wpos = (blocks.flatMap format.encode).length := by
    simp [packetOf, ByteBuffer.extend]
  rw [size]
  induction blocks with
  | nil => exact Nat.zero_le _
  | cons block blocks ih =>
      have some := List.length_pos_iff.mpr (format.encode_ne_nil block)
      have ih := ih (by simp [packetOf, ByteBuffer.extend])
      rw [List.flatMap_cons, List.length_append, List.length_cons]
      omega

theorem addBlock_nil {u : UpdateData} (none : u.datas = []) (bytes : List UInt8) :
    (u.addBlock bytes).datas = [{ data := ByteBuffer.extend {} bytes, blockCount := 1 }] := by
  rw [UpdateData.addBlock, UpdateData.addUpdateBlockAndGetBuffer, none]
  rfl

theorem addBlock_concat {u : UpdateData} {front : List UpdatePacket} {last : UpdatePacket}
    (datas : u.datas = front ++ [last]) (bytes : List UInt8) :
    (u.addBlock bytes).datas =
      if last.data.wpos > maxUncompressedPacketSize then
        (front ++ [last]) ++ [{ data := ByteBuffer.extend {} bytes, blockCount := 1 }]
      else
        front ++ [{ data := last.data.extend bytes, blockCount := last.blockCount + 1 }] := by
  have more : front ++ [last] ≠ [] := by simp
  rw [UpdateData.addBlock, UpdateData.addUpdateBlockAndGetBuffer, datas]
  simp only [if_neg more, List.getLast?_append, List.getLast?_singleton, Option.some_or,
    Option.getD_some, List.concat_eq_append]
  split
  · rw [List.modifyLast_concat, List.modifyLast_concat]
    rfl
  · rw [List.modifyLast_concat, List.modifyLast_concat]

theorem addBlock_gathered {format : BlockFormat β} {u : UpdateData} {guids : Finset UInt64}
    {groups : List (List β)} (gathered : Gathered format u guids groups) (block : β) :
    ∃ groups', Gathered format (u.addBlock (format.encode block)) guids groups' ∧
      groups'.flatten = groups.flatten ++ [block] := by
  obtain rfl | ⟨front, last, rfl⟩ := groups.eq_nil_or_concat'
  · refine ⟨[[block]], ⟨gathered.guids, ?_, by simp⟩, rfl⟩
    rw [addBlock_nil gathered.datas, List.map_singleton, packetOf_singleton]
  · have datas := gathered.datas
    rw [List.map_append, List.map_singleton] at datas
    have added := addBlock_concat datas (format.encode block)
    have counts := gathered.counts
    by_cases full : (packetOf format last).data.wpos > maxUncompressedPacketSize
    · rw [if_pos full, ← packetOf_singleton] at added
      refine ⟨(front ++ [last]) ++ [[block]], ⟨gathered.guids, by simpa using added, ?_⟩, by simp⟩
      intro blocks among
      obtain among | among := List.mem_append.mp among
      · exact counts blocks among
      · rw [List.mem_singleton.mp among]
        exact Nat.le_add_left _ _
    · rw [if_neg full, ← packetOf_concat] at added
      refine ⟨front ++ [last ++ [block]], ⟨gathered.guids, by simpa using added, ?_⟩, by simp⟩
      intro blocks among
      obtain among | among := List.mem_append.mp among
      · exact counts blocks (List.mem_append_left _ among)
      · have size := length_le_wpos format last
        rw [List.mem_singleton.mp among, List.length_append, List.length_singleton]
        omega

theorem run_gathered (format : BlockFormat β) (calls : List (Call β)) {u : UpdateData}
    {guids : Finset UInt64} {groups : List (List β)} (gathered : Gathered format u guids groups) :
    ∃ groups', Gathered format (u.run format calls) (guids ∪ outOfRange calls) groups' ∧
      groups'.flatten = groups.flatten ++ calls.flatMap Call.blocks := by
  induction calls generalizing u guids groups with
  | nil => exact ⟨groups, by simpa [UpdateData.run, outOfRange] using gathered, by simp⟩
  | cons call calls ih =>
      have step : ∃ groups', Gathered format (u.call format call) (guids ∪ call.guids) groups' ∧
          groups'.flatten = groups.flatten ++ call.blocks := by
        cases call with
        | addOutOfRangeGUIDs added =>
            have union : (u.addOutOfRangeGUIDs added).outOfRangeGUIDs = guids ∪ added := by
              rw [UpdateData.addOutOfRangeGUIDs, gathered.guids]
            exact ⟨groups, ⟨union, gathered.datas, gathered.counts⟩, by simp [Call.blocks]⟩
        | addOutOfRangeGUID guid =>
            have union : (u.addOutOfRangeGUID guid).outOfRangeGUIDs = guids ∪ {guid} := by
              rw [UpdateData.addOutOfRangeGUID, gathered.guids, Finset.union_singleton]
            exact ⟨groups, ⟨union, gathered.datas, gathered.counts⟩, by simp [Call.blocks]⟩
        | addBlock block =>
            rw [Call.guids, Finset.union_empty]
            exact addBlock_gathered gathered block
      obtain ⟨next, gathered, flat⟩ := step
      obtain ⟨last, gathered, all⟩ := ih gathered
      rw [Finset.union_assoc] at gathered
      refine ⟨last, gathered, ?_⟩
      rw [all, flat, List.flatMap_cons, List.append_assoc]

end Updates

end TortoiseWow
