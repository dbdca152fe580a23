import Mathlib
import TortoiseWow.Object.UpdateReading

/-!
The packets that are sent for an update, and that a client reads from them what was gathered. A
buffer that is full throws, and a size that no int can hold is never compressed.
-/

namespace TortoiseWow

open Lib

namespace Updates

variable {β : Type}

/-- What is appended one after the other. -/
def chunks (guids : List UInt64) (updPacket : Option UpdatePacket) (hasTransport : Bool) :
    List (List UInt8) :=
  let blockCount : UInt32 := (updPacket.map UpdatePacket.blockCount).getD 0
  let data := (updPacket.map fun packet => packet.data.written).getD []
  if guids = [] then [leBytes 4 blockCount.toNat, [if hasTransport then 1 else 0], data]
  else
    [leBytes 4 (blockCount + 1).toNat, [if hasTransport then 1 else 0],
      [updateTypeOutOfRangeObjects], leBytes 4 guids.length] ++
      (guids.map ByteBuffer.packGUID ++ [data])

theorem buildBuffer_eq (guids : List UInt64) (updPacket : Option UpdatePacket)
    (hasTransport : Bool) :
    buildBuffer guids updPacket hasTransport =
      if ByteBuffer.fits 0 (chunks guids updPacket hasTransport) = true then
        some (ByteBuffer.extend {} (chunks guids updPacket hasTransport).flatten)
      else none := by
  have all : ByteBuffer.appendAll (chunks guids updPacket hasTransport) {} = _ :=
    ByteBuffer.appendAll_eq _ rfl
  refine Eq.trans ?_ all
  clear all
  cases updPacket with
  | none =>
      by_cases empty : guids = []
      · simp [buildBuffer, chunks, empty, ByteBuffer.appendAll, ByteBuffer.append_nothing]
      · simp [buildBuffer, chunks, empty, ByteBuffer.appendAll, List.foldlM_append,
          List.foldlM_map, ByteBuffer.appendPackGUID, ByteBuffer.append_nothing]
  | some packet =>
      by_cases empty : guids = []
      · simp [buildBuffer, chunks, empty, ByteBuffer.appendAll]
      · simp [buildBuffer, chunks, empty, ByteBuffer.appendAll, List.foldlM_append,
          List.foldlM_map, ByteBuffer.appendPackGUID]

theorem bound_lt {size : Nat} (small : size < 2 ^ 31) : PacketCompressor.bound size < 2 ^ 32 := by
  rw [PacketCompressor.bound]
  omega

theorem compress_eq (zlib : Zlib) {bytes : List UInt8} (small : bytes.length < 2 ^ 31) :
    PacketCompressor.compress zlib (UInt32.ofNat (PacketCompressor.bound bytes.length)) bytes
      (BitVec.ofNat 32 bytes.length).toInt = some (zlib.compress bytes) := by
  have size : (BitVec.ofNat 32 bytes.length).toInt = bytes.length := by
    rw [BitVec.toInt_eq_toNat_of_lt]
    · rw [BitVec.toNat_ofNat, Nat.mod_eq_of_lt (by omega)]
    · rw [BitVec.toNat_ofNat, Nat.mod_eq_of_lt (by omega)]
      omega
  have room : (UInt32.ofNat (PacketCompressor.bound bytes.length)).toNat =
      PacketCompressor.bound bytes.length :=
    UInt32.toNat_ofNat_of_lt' (bound_lt small)
  have whole : ¬ ((bytes.length : Int) < 0 ∨ (bytes.length : Int) < bytes.length) := by omega
  rw [PacketCompressor.compress, size, if_neg whole, room, Int.toNat_natCast, List.take_length]
  exact if_pos (zlib.length_compress bytes)

theorem size_and_compressed (size : Nat) {room : Nat} {compressed : List UInt8}
    (short : compressed.length ≤ room) :
    ∃ first second, (ByteBuffer.resize (room + 4) {}).put 0 (leBytes 4 size) = some first ∧
      first.put 4 compressed = some second ∧
      (second.resize (compressed.length + 4)).storage = leBytes 4 size ++ compressed := by
  have resized : ByteBuffer.resize (room + 4) {} =
      ⟨0, room + 4, List.replicate (room + 4) 0⟩ := by
    simp [ByteBuffer.resize, ByteBuffer.size]
  have first :=
    @ByteBuffer.put_front (List.replicate (room + 4) 0) (leBytes 4 size) 0 (room + 4) (by simp)
  rw [List.drop_replicate, length_leBytes, Nat.add_sub_cancel] at first
  have second :=
    @ByteBuffer.put_behind (leBytes 4 size) (List.replicate room 0) compressed 0 (room + 4)
    (by simpa using short)
  rw [length_leBytes] at second
  refine ⟨_, _, by rw [resized, first], second, ?_⟩
  rw [ByteBuffer.resize, ← List.append_assoc, List.take_left', Nat.sub_eq_zero_of_le]
  · exact List.append_nil _
  · rw [ByteBuffer.size, List.length_append, List.length_append, length_leBytes]
    omega
  · rw [List.length_append, length_leBytes, Nat.add_comm]

theorem buildPacket_received (zlib : Zlib) (guids : List UInt64) (updPacket : Option UpdatePacket)
    (hasTransport : Bool) (opcode : Nat)
    (fits : ByteBuffer.fits 0 (chunks guids updPacket hasTransport) = true)
    (small : (chunks guids updPacket hasTransport).flatten.length < 2 ^ 31) :
    ∃ packet, buildPacket zlib guids ⟨opcode, {}⟩ updPacket hasTransport = some (packet, true) ∧
      ∀ format : BlockFormat β, receive zlib format packet =
        readWhole format (chunks guids updPacket hasTransport).flatten := by
  have built := buildBuffer_eq guids updPacket hasTransport
  rw [if_pos fits] at built
  generalize (chunks guids updPacket hasTransport).flatten = bytes at built small ⊢
  have size : (ByteBuffer.extend {} bytes).wpos = bytes.length := Nat.zero_add _
  have storage : (ByteBuffer.extend {} bytes).storage = bytes := List.nil_append _
  have written : (ByteBuffer.extend {} bytes).written = bytes := by
    rw [ByteBuffer.written, size, storage, List.take_length]
  by_cases large : bytes.length > 100
  · have room : (UInt32.ofNat (PacketCompressor.bound bytes.length)).toNat =
        PacketCompressor.bound bytes.length :=
      UInt32.toNat_ofNat_of_lt' (bound_lt small)
    obtain ⟨first, second, sized, filled, cut⟩ :=
      size_and_compressed bytes.length (zlib.length_compress bytes)
    refine ⟨⟨smsgCompressedUpdateObject, second.resize ((zlib.compress bytes).length + 4)⟩, ?_,
      fun format => ?_⟩
    · rw [buildPacket, if_neg (not_not.mpr rfl), built]
      simp only [Option.bind_eq_bind, Option.bind_some, size, storage, if_pos large, room, sized,
        compress_eq zlib small, filled, if_neg (zlib.compress_ne_nil bytes)]
    · have value : leValue (leBytes 4 bytes.length) = bytes.length :=
        leValue_leBytes (Nat.lt_trans small (by decide))
      rw [receive, if_pos rfl, cut, List.drop_left' (length_leBytes 4 _),
        List.take_left' (length_leBytes 4 _), zlib.decompress_compress]
      exact if_pos value
  · refine ⟨⟨smsgUpdateObject, ByteBuffer.extend {} bytes⟩, ?_, fun format => ?_⟩
    · have appended : ByteBuffer.append bytes {} = some (ByteBuffer.extend {} bytes) := by
        rw [ByteBuffer.append_end rfl]
        exact if_pos (by simp [ByteBuffer.size, ByteBuffer.maxSize])
      rw [buildPacket, if_neg (not_not.mpr rfl), built]
      simp only [Option.bind_eq_bind, Option.bind_some, size, written, if_neg large, appended]
    · have plain : ¬ smsgUpdateObject = smsgCompressedUpdateObject := by decide
      rw [receive, if_neg plain, if_pos rfl, storage]

def leading (guids : List UInt64) : List (Update β) :=
  if guids = [] then [] else [.outOfRange guids]

def updatesOf (guids : List UInt64) (blocks : List β) : List (Update β) :=
  leading guids ++ blocks.map Update.block

def messageOf (hasTransport : Bool) (guids : List UInt64) (blocks : List β) : Message β where
  count := (updatesOf guids blocks).length
  hasTransport := hasTransport
  updates := updatesOf guids blocks

theorem chunks_none (format : BlockFormat β) (guids : List UInt64) (hasTransport : Bool) :
    chunks guids none hasTransport = chunks guids (some (packetOf format [])) hasTransport := rfl

theorem buildPacket_none (zlib : Zlib) (format : BlockFormat β) (guids : List UInt64)
    (packet : WorldPacket) (hasTransport : Bool) :
    buildPacket zlib guids packet none hasTransport =
      buildPacket zlib guids packet (some (packetOf format [])) hasTransport := by
  rw [buildPacket, buildPacket, buildBuffer_eq, buildBuffer_eq, chunks_none format]

theorem flatMap_blocks (format : BlockFormat β) (blocks : List β) :
    (blocks.map Update.block).flatMap (encodeUpdate format) = blocks.flatMap format.encode := by
  rw [List.flatMap_map]
  rfl

theorem flatten_chunks (format : BlockFormat β) (guids : List UInt64) {blocks : List β}
    (counted : blocks.length ≤ maxUncompressedPacketSize + 1) (hasTransport : Bool) :
    (chunks guids (some (packetOf format blocks)) hasTransport).flatten =
      encodeMessage format hasTransport (updatesOf guids blocks) := by
  have few : blocks.length ≤ 32769 := counted
  have data : (packetOf format blocks).data.written = blocks.flatMap format.encode := by
    simp [packetOf, ByteBuffer.written, ByteBuffer.extend]
  have count : (UInt32.ofNat blocks.length).toNat = blocks.length :=
    UInt32.toNat_ofNat_of_lt' (Nat.lt_of_le_of_lt few (by decide))
  have countGuids : (UInt32.ofNat blocks.length + 1).toNat = blocks.length + 1 := by
    rw [UInt32.toNat_add, count, UInt32.toNat_one, Nat.mod_eq_of_lt (by omega)]
  have blockCount : (packetOf format blocks).blockCount = UInt32.ofNat blocks.length := rfl
  rw [chunks, encodeMessage, updatesOf, List.flatMap_append, flatMap_blocks]
  by_cases empty : guids = []
  · simp [empty, leading, data, count, blockCount]
  · simp [empty, leading, data, countGuids, blockCount, encodeUpdate, List.flatMap_def]

theorem length_packGUIDs (guids : List UInt64) :
    guids.length ≤ (guids.flatMap ByteBuffer.packGUID).length := by
  induction guids with
  | nil => exact Nat.le_refl _
  | cons guid guids ih =>
      rw [List.flatMap_cons, List.length_append, List.length_cons, ByteBuffer.packGUID_eq,
        List.length_cons]
      omega

theorem countable_updatesOf {format : BlockFormat β} {guids : List UInt64} {blocks : List β}
    {hasTransport : Bool}
    (small : (encodeMessage format hasTransport (updatesOf guids blocks)).length < 2 ^ 31) :
    ∀ update ∈ updatesOf guids blocks, update.Countable := by
  intro update among
  cases update with
  | block block => trivial
  | outOfRange listed =>
      have some : guids ≠ [] ∧ listed = guids := by
        rw [updatesOf, leading] at among
        by_cases empty : guids = []
        · simp [empty] at among
        · simpa [empty] using among
      have length := length_packGUIDs guids
      rw [encodeMessage, updatesOf, leading, if_neg some.1, List.flatMap_append,
        List.flatMap_singleton, encodeUpdate] at small
      simp only [List.length_append, List.length_cons] at small
      change listed.length < 2 ^ 32
      rw [some.2]
      omega

theorem length_updatesOf (guids : List UInt64) (blocks : List β) :
    (updatesOf guids blocks).length ≤ blocks.length + 1 := by
  rw [updatesOf, leading, List.length_append, List.length_map]
  split <;> simp only [List.length_nil, List.length_singleton] <;> omega

theorem buildPacket_message (zlib : Zlib) (format : BlockFormat β) (guids : List UInt64)
    {blocks : List β} (counted : blocks.length ≤ maxUncompressedPacketSize + 1)
    {hasTransport : Bool} (opcode : Nat)
    (fits : ByteBuffer.fits 0 (chunks guids (some (packetOf format blocks)) hasTransport) = true)
    (small : (chunks guids (some (packetOf format blocks)) hasTransport).flatten.length < 2 ^ 31) :
    ∃ packet, buildPacket zlib guids ⟨opcode, {}⟩ (some (packetOf format blocks)) hasTransport =
        some (packet, true) ∧
      receive zlib format packet = some (messageOf hasTransport guids blocks) := by
  obtain ⟨packet, built, received⟩ :=
    buildPacket_received zlib guids _ hasTransport opcode fits small
  rw [flatten_chunks format guids counted] at small received
  have few : (updatesOf guids blocks).length < 256 ^ 4 := by
    have length := length_updatesOf guids blocks
    have counted : blocks.length ≤ 32769 := counted
    omega
  have read := readWhole_encode format hasTransport few (countable_updatesOf small)
  exact ⟨packet, built, by rw [received, read]; rfl⟩

theorem order_empty (iteration : Iteration) : iteration.order ∅ = [] :=
  (Multiset.coe_eq_zero _).mp (iteration.coe_order ∅)

/-- Without guids nothing is in front of the blocks. -/
theorem fits_alone (packet : UpdatePacket) (hasTransport : Bool) :
    ByteBuffer.fits 0 (chunks [] (some packet) hasTransport) = true := by
  simp [chunks, ByteBuffer.fits, ByteBuffer.maxSize]

theorem sendLoop_received (zlib : Zlib) (iteration : Iteration) (format : BlockFormat β)
    (hasTransport : Bool) {groups : List (List β)}
    (counts : ∀ blocks ∈ groups, blocks.length ≤ maxUncompressedPacketSize + 1)
    (small : ∀ blocks ∈ groups,
      (chunks [] (some (packetOf format blocks)) hasTransport).flatten.length < 2 ^ 31)
    (opcode : Nat) :
    ∃ packets, sendLoop zlib iteration hasTransport ∅ ⟨opcode, {}⟩ (groups.map (packetOf format)) =
        some packets ∧
      packets.map (receive zlib format) =
        (groups.map (messageOf hasTransport [])).map some := by
  induction groups generalizing opcode with
  | nil => exact ⟨[], rfl, rfl⟩
  | cons blocks groups ih =>
      obtain ⟨packet, built, received⟩ := buildPacket_message zlib format []
        (counts blocks List.mem_cons_self) opcode (fits_alone _ hasTransport)
        (small blocks List.mem_cons_self)
      obtain ⟨packets, sent, later⟩ := ih
        (fun blocks inside => counts blocks (List.mem_cons_of_mem _ inside))
        (fun blocks inside => small blocks (List.mem_cons_of_mem _ inside)) packet.opcode
      refine ⟨packet :: packets, ?_, ?_⟩
      · rw [List.map_cons, sendLoop, order_empty, built]
        simp only [Option.bind_eq_bind, Option.bind_some, WorldPacket.clear, sent]
      · simp only [List.map_cons, received, later]

def UpdateData.buffers (u : UpdateData) (iteration : Iteration) (hasTransport : Bool) :
    List (List (List UInt8)) :=
  match u.datas with
  | [] =>
      if u.outOfRangeGUIDs = ∅ then []
      else [chunks (iteration.order u.outOfRangeGUIDs) none hasTransport]
  | first :: rest =>
      chunks (iteration.order u.outOfRangeGUIDs) (some first) hasTransport ::
        rest.map fun packet => chunks [] (some packet) hasTransport

/-- No append finds as many bytes as a buffer may hold. -/
def UpdateData.Room (u : UpdateData) (iteration : Iteration) (hasTransport : Bool) : Prop :=
  ∀ buffer ∈ u.buffers iteration hasTransport, ByteBuffer.fits 0 buffer = true

/-- The sizes of the packets before they are compressed. -/
def UpdateData.sizes (u : UpdateData) (iteration : Iteration) (hasTransport : Bool) : List Nat :=
  (u.buffers iteration hasTransport).map fun buffer => buffer.flatten.length

theorem order_eq_nil {iteration : Iteration} {guids : Finset UInt64} :
    iteration.order guids = [] ↔ guids = ∅ := by
  rw [← Multiset.coe_eq_zero, iteration.coe_order, Finset.val_eq_zero]

/-- What the client makes of the packets. -/
def messagesOf (hasTransport : Bool) (guids : List UInt64) : List (List β) → List (Message β)
  | [] => if guids = [] then [] else [messageOf hasTransport guids []]
  | blocks :: groups =>
      messageOf hasTransport guids blocks :: groups.map (messageOf hasTransport [])

theorem messagesOf_whole (hasTransport : Bool) (guids : List UInt64) (groups : List (List β)) :
    ∀ message ∈ messagesOf hasTransport guids groups,
      message.count = message.updates.length ∧ message.hasTransport = hasTransport := by
  intro message among
  have form : ∃ guids blocks, message = messageOf hasTransport guids blocks := by
    cases groups with
    | nil =>
        rw [messagesOf] at among
        split at among
        · cases among
        · exact ⟨guids, [], List.mem_singleton.mp among⟩
    | cons blocks groups =>
        obtain rfl | among := List.mem_cons.mp among
        · exact ⟨guids, blocks, rfl⟩
        · obtain ⟨blocks, -, rfl⟩ := List.mem_map.mp among
          exact ⟨[], blocks, rfl⟩
  obtain ⟨guids, blocks, rfl⟩ := form
  exact ⟨rfl, rfl⟩

theorem updates_messagesOf (hasTransport : Bool) (guids : List UInt64) (groups : List (List β)) :
    (messagesOf hasTransport guids groups).flatMap Message.updates =
      updatesOf guids groups.flatten := by
  have rest : ∀ groups : List (List β),
      (groups.map (messageOf hasTransport [])).flatMap Message.updates =
        groups.flatten.map Update.block := by
    intro groups
    induction groups with
    | nil => rfl
    | cons blocks groups ih =>
        rw [List.map_cons, List.flatMap_cons, ih, List.flatten_cons, List.map_append]
        rfl
  cases groups with
  | nil =>
      rw [messagesOf]
      split
      · next empty => rw [empty]; rfl
      · exact List.append_nil _
  | cons blocks groups =>
      rw [messagesOf, List.flatMap_cons, rest, List.flatten_cons, updatesOf, List.map_append,
        ← List.append_assoc]
      rfl

theorem send_received (zlib : Zlib) (iteration : Iteration) (format : BlockFormat β)
    (hasTransport : Bool) {u : UpdateData} {guids : Finset UInt64} {groups : List (List β)}
    (gathered : Gathered format u guids groups) (room : u.Room iteration hasTransport)
    (small : ∀ size ∈ u.sizes iteration hasTransport, size < 2 ^ 31) :
    ∃ packets,
      u.send zlib iteration true hasTransport = some (packets, { u with outOfRangeGUIDs := ∅ }) ∧
      packets.map (receive zlib format) =
        (messagesOf hasTransport (iteration.order guids) groups).map some := by
  have room : ∀ buffer ∈ u.buffers iteration hasTransport, _ := room
  have small : ∀ buffer ∈ u.buffers iteration hasTransport, buffer.flatten.length < 2 ^ 31 :=
    fun buffer inside => small _ (List.mem_map_of_mem inside)
  obtain ⟨rfl, datas, counts⟩ := gathered
  cases groups with
  | nil =>
      rw [List.map_nil] at datas
      rw [UpdateData.buffers, datas] at room small
      by_cases none : u.outOfRangeGUIDs = ∅
      · have empty : iteration.order u.outOfRangeGUIDs = [] := order_eq_nil.mpr none
        refine ⟨[], ?_, by rw [messagesOf, if_pos empty]; rfl⟩
        have kept : ({ u with outOfRangeGUIDs := ∅ } : UpdateData) = u := by rw [← none]
        rw [kept, UpdateData.send, if_neg Bool.noConfusion,
          if_neg (fun guids => guids.2 none), datas]
        rfl
      · have more : iteration.order u.outOfRangeGUIDs ≠ [] := fun empty =>
          none (order_eq_nil.mp empty)
        simp only [if_neg none, List.mem_singleton, forall_eq] at room small
        obtain ⟨packet, built, received⟩ := @buildPacket_message β zlib format
          (iteration.order u.outOfRangeGUIDs) [] (Nat.zero_le (maxUncompressedPacketSize + 1))
          hasTransport 0 room small
        refine ⟨[packet], ?_, by rw [messagesOf, if_neg more, List.map_singleton, received]; rfl⟩
        rw [UpdateData.send, if_neg Bool.noConfusion, if_pos ⟨datas, none⟩,
          buildPacket_none zlib format]
        simp only [built, Option.bind_eq_bind, Option.bind_some]
  | cons blocks groups =>
      rw [List.map_cons] at datas
      rw [UpdateData.buffers, datas] at room small
      simp only [List.mem_cons, List.map_map, List.mem_map, forall_eq_or_imp] at room small
      obtain ⟨packet, built, received⟩ := buildPacket_message zlib format
        (iteration.order u.outOfRangeGUIDs) (counts blocks List.mem_cons_self) 0 room.1 small.1
      obtain ⟨packets, sent, later⟩ := sendLoop_received zlib iteration format hasTransport
        (fun blocks inside => counts blocks (List.mem_cons_of_mem _ inside))
        (fun blocks inside => small.2 _ ⟨blocks, inside, rfl⟩) packet.opcode
      refine ⟨packet :: packets, ?_, ?_⟩
      · have more : u.datas ≠ [] := by rw [datas]; exact List.cons_ne_nil _ _
        rw [UpdateData.send, if_neg Bool.noConfusion, if_neg (fun none => more none.1), datas,
          sendLoop]
        simp [built, WorldPacket.clear, sent]
      · simp only [messagesOf, List.map_cons, received, later]

theorem buildPacket_refused (zlib : Zlib) (guids : List UInt64) (packet : WorldPacket)
    (updPacket : Option UpdatePacket) (hasTransport : Bool)
    (full : ByteBuffer.fits 0 (chunks guids updPacket hasTransport) = false) :
    buildPacket zlib guids packet updPacket hasTransport = none := by
  rw [buildPacket]
  split
  · rfl
  · rw [buildBuffer_eq, full]
    rfl

theorem send_refused (zlib : Zlib) (iteration : Iteration) (hasTransport : Bool) {u : UpdateData}
    (full : ¬ u.Room iteration hasTransport) : u.send zlib iteration true hasTransport = none := by
  obtain ⟨guids, packets⟩ := u
  rw [UpdateData.Room, UpdateData.buffers] at full
  rw [UpdateData.send, if_neg Bool.noConfusion]
  cases packets with
  | nil =>
      by_cases none : guids = ∅
      · simp [none] at full
      · simp only [if_neg none, List.mem_singleton, forall_eq, Bool.not_eq_true] at full
        rw [if_pos ⟨rfl, none⟩, buildPacket_refused _ _ _ _ _ full]
        rfl
  | cons first rest =>
      have front : ByteBuffer.fits 0 (chunks (iteration.order guids) (some first) hasTransport) =
          false := by
        by_contra fits
        apply full
        intro buffer among
        obtain rfl | among := List.mem_cons.mp among
        · exact Bool.not_eq_false _ ▸ fits
        · obtain ⟨packet, -, rfl⟩ := List.mem_map.mp among
          exact fits_alone packet hasTransport
      rw [if_neg (fun empty => List.cons_ne_nil _ _ empty.1), sendLoop,
        buildPacket_refused _ _ _ _ _ front]
      rfl

/-- From an empty state, whatever is added: if no append finds the buffer full, what the client
reads is the guids in some order and then the blocks as they were added, and the count of each
packet is the number of its updates. Otherwise the assertion of the buffer throws. The sizes are
those that an int can hold. -/
theorem send_decodes (zlib : Zlib) (iteration : Iteration) (format : BlockFormat β)
    (calls : List (Call β)) (hasTransport : Bool)
    (small : ∀ size ∈ (UpdateData.run format {} calls).sizes iteration hasTransport,
      size < 2 ^ 31) :
    ((UpdateData.run format {} calls).Room iteration hasTransport →
      ∃ (packets : List WorldPacket) (u : UpdateData) (messages : List (Message β))
        (guids : List UInt64),
        (UpdateData.run format {} calls).send zlib iteration true hasTransport =
          some (packets, u) ∧
        u.outOfRangeGUIDs = ∅ ∧
        packets.map (receive zlib format) = messages.map some ∧
        (∀ message ∈ messages, message.count = message.updates.length ∧
          message.hasTransport = hasTransport) ∧
        guids.Nodup ∧ (∀ guid, guid ∈ guids ↔ guid ∈ outOfRange calls) ∧
        messages.flatMap Message.updates = updatesOf guids (calls.flatMap Call.blocks)) ∧
    (¬ (UpdateData.run format {} calls).Room iteration hasTransport →
      (UpdateData.run format {} calls).send zlib iteration true hasTransport = none) := by
  have start : Gathered format {} (∅ : Finset UInt64) ([] : List (List β)) :=
    ⟨rfl, rfl, fun blocks none => absurd none List.not_mem_nil⟩
  obtain ⟨groups, gathered, all⟩ := run_gathered format calls start
  rw [Finset.empty_union] at gathered
  rw [List.flatten_nil, List.nil_append] at all
  refine ⟨fun room => ?_, send_refused zlib iteration hasTransport⟩
  obtain ⟨packets, sent, received⟩ :=
    send_received zlib iteration format hasTransport gathered room small
  have listed := iteration.coe_order (outOfRange calls)
  refine ⟨packets, _, messagesOf hasTransport (iteration.order (outOfRange calls)) groups,
    iteration.order (outOfRange calls), sent, rfl, received,
    messagesOf_whole hasTransport _ groups, ?_, fun guid => ?_, ?_⟩
  · rw [← Multiset.coe_nodup, listed]
    exact (outOfRange calls).nodup
  · rw [← Multiset.mem_coe, listed]
    exact Iff.rfl
  · rw [updates_messagesOf, all]

/-- In place of the library: a marker in front. -/
def marked : Zlib where
  compress bytes := 0 :: bytes
  decompress bytes := bytes.tail?
  compress_ne_nil bytes := List.cons_ne_nil 0 bytes
  length_compress bytes := by
    rw [List.length_cons, PacketCompressor.bound]
    omega
  decompress_compress bytes := rfl

def ascending : Iteration where
  order guids := @Finset.sort _ guids (fun a b => a.toNat ≤ b.toNat) inferInstance
    ⟨fun _ _ _ => Nat.le_trans⟩ ⟨fun _ _ le ge => UInt64.toNat_inj.mp (Nat.le_antisymm le ge)⟩
    ⟨fun _ _ => Nat.le_total _ _⟩
  coe_order guids := @Finset.sort_eq _ guids (fun a b => a.toNat ≤ b.toNat) inferInstance
    ⟨fun _ _ _ => Nat.le_trans⟩ ⟨fun _ _ le ge => UInt64.toNat_inj.mp (Nat.le_antisymm le ge)⟩
    ⟨fun _ _ => Nat.le_total _ _⟩

/-- Blocks of any size: a number in as many bytes, and a zero behind them. -/
def tallies : BlockFormat Nat where
  encode count := List.replicate count 1 ++ [0]
  read b := (b.readString []).bind fun text b => .ok text.length b
  read_encode b count tail ahead := by
    have nulFree : 0 ∉ List.replicate count (1 : UInt8) := by simp
    rw [ByteBuffer.readString_ahead nulFree ahead, Reading.bind, List.length_replicate]
  encode_ne_nil count := by simp
  head_encode count := by
    cases count with
    | zero => decide
    | succ count => simp [List.replicate_succ, updateTypeOutOfRangeObjects]

theorem ascending_singleton (guid : UInt64) : ascending.order {guid} = [guid] := by
  have order := ascending.coe_order {guid}
  exact List.perm_singleton.mp (Multiset.coe_eq_coe.mp order)

theorem send_decodes_two :
    ∃ (packets : List WorldPacket) (u : UpdateData) (messages : List (Message Nat))
      (guids : List UInt64),
      (UpdateData.run tallies {} [.addBlock 2, .addOutOfRangeGUID 7, .addBlock 0]).send marked
        ascending true false = some (packets, u) ∧
      u.outOfRangeGUIDs = ∅ ∧
      packets.map (receive marked tallies) = messages.map some ∧
      (∀ message ∈ messages, message.count = message.updates.length ∧
        message.hasTransport = false) ∧
      guids.Nodup ∧
      (∀ guid, guid ∈ guids ↔
        guid ∈ outOfRange [Call.addBlock 2, .addOutOfRangeGUID 7, .addBlock 0]) ∧
      messages.flatMap Message.updates = updatesOf guids [2, 0] := by
  have buffers : (UpdateData.run tallies {}
      [.addBlock 2, .addOutOfRangeGUID 7, .addBlock 0]).buffers ascending false =
      [chunks (ascending.order {7}) (some (packetOf tallies [2, 0])) false] := by
    rfl
  have fits : ByteBuffer.fits 0 (chunks [7] (some (packetOf tallies [2, 0])) false) = true ∧
      (chunks [7] (some (packetOf tallies [2, 0])) false).flatten.length < 2 ^ 31 := by
    decide +kernel
  rw [ascending_singleton] at buffers
  apply (send_decodes marked ascending tallies [.addBlock 2, .addOutOfRangeGUID 7, .addBlock 0]
    false ?_).1
  · rw [UpdateData.Room, buffers]
    simpa using fits.1
  · rw [UpdateData.sizes, buffers]
    simpa using fits.2

theorem not_fits {size : Nat} {front : List (List UInt8)} {chunk : List UInt8}
    (back : List (List UInt8)) (some : chunk ≠ [])
    (full : ByteBuffer.maxSize ≤ size + front.flatten.length) :
    ByteBuffer.fits size (front ++ chunk :: back) = false := by
  induction front generalizing size with
  | nil =>
      rw [List.flatten_nil, List.length_nil, Nat.add_zero] at full
      rw [List.nil_append, ByteBuffer.fits, decide_eq_false (Nat.not_lt.mpr full)]
      simp [some]
  | cons first front ih =>
      rw [List.flatten_cons, List.length_append, ← Nat.add_assoc] at full
      rw [List.cons_append, ByteBuffer.fits, ih full, Bool.and_false]

theorem guids_full {guids : List UInt64} (many : ByteBuffer.maxSize ≤ guids.length + 9)
    (hasTransport : Bool) : ByteBuffer.fits 0 (chunks guids none hasTransport) = false := by
  obtain rfl | ⟨front, last, rfl⟩ := guids.eq_nil_or_concat'
  · simp [ByteBuffer.maxSize] at many
  · have some : front ++ [last] ≠ [] := by simp
    have packed : ByteBuffer.packGUID last ≠ [] := by
      rw [ByteBuffer.packGUID_eq]
      exact List.cons_ne_nil _ _
    have length := length_packGUIDs front
    rw [chunks, if_neg some, List.map_append, List.map_singleton, List.append_assoc,
      ← List.append_assoc]
    apply not_fits _ packed
    simp only [List.length_append, List.length_singleton] at many
    simp only [List.flatten_append, List.flatten_cons, List.flatten_nil, List.length_append,
      length_leBytes, List.length_singleton, List.length_nil, ← List.flatMap_def]
    omega

/-- A packet of 2^31 bytes or more is given to the compressor with a negative size. -/
theorem buildPacket_overflow (zlib : Zlib) (guids : List UInt64) (packet : WorldPacket)
    (updPacket : Option UpdatePacket) (hasTransport : Bool)
    (large : 2 ^ 31 ≤ (chunks guids updPacket hasTransport).flatten.length)
    (bounded : (chunks guids updPacket hasTransport).flatten.length < 2 ^ 32) :
    buildPacket zlib guids packet updPacket hasTransport = none := by
  rw [buildPacket]
  split
  · rfl
  · rw [buildBuffer_eq]
    split
    · generalize (chunks guids updPacket hasTransport).flatten = bytes at large bounded
      have size : (ByteBuffer.extend {} bytes).wpos = bytes.length := Nat.zero_add _
      have negative : (BitVec.ofNat 32 bytes.length).toInt < 0 := by
        rw [BitVec.toInt_neg_iff, BitVec.toNat_ofNat, Nat.mod_eq_of_lt bounded]
        omega
      have refused : ∀ room, PacketCompressor.compress zlib room
          (ByteBuffer.extend {} bytes).storage (BitVec.ofNat 32 bytes.length).toInt = none :=
        fun room => if_pos (Or.inl negative)
      have plain : bytes.length > 100 := by omega
      simp [size, plain, refused]
    · rfl

theorem tally_refused {count : Nat} (large : 2 ^ 31 ≤ count + 6) (bounded : count + 6 < 2 ^ 32) :
    (UpdateData.run tallies {} [.addBlock count]).send marked ascending true false = none := by
  have datas : (UpdateData.run tallies {} [.addBlock count]).datas =
    [packetOf tallies [count]] := by
    rw [packetOf_singleton]
    exact addBlock_nil rfl _
  have noGuids : (UpdateData.run tallies {} [.addBlock count]).outOfRangeGUIDs = ∅ := rfl
  have length : (chunks [] (some (packetOf tallies [count])) false).flatten.length = count + 6 := by
    rw [flatten_chunks tallies [] (by simp)]
    simp [encodeMessage, updatesOf, leading, encodeUpdate, tallies]
    omega
  have more : ¬ ([packetOf tallies [count]] = [] ∧ (∅ : Finset UInt64) ≠ ∅) :=
    fun empty => List.cons_ne_nil _ _ empty.1
  rw [UpdateData.send, if_neg Bool.noConfusion, datas, noGuids, if_neg more, sendLoop, order_empty,
    buildPacket_overflow _ _ _ _ _ (length ▸ large) (length ▸ bounded)]
  rfl

theorem length_image_ofNat {count : Nat} (small : count ≤ 2 ^ 64) :
    ((Finset.range count).image UInt64.ofNat).card = count := by
  rw [Finset.card_image_of_injOn, Finset.card_range]
  intro a below b below' same
  have lt := Nat.lt_of_lt_of_le (Finset.mem_range.mp below) small
  have lt' := Nat.lt_of_lt_of_le (Finset.mem_range.mp below') small
  rw [← UInt64.toNat_ofNat_of_lt' lt, same, UInt64.toNat_ofNat_of_lt' lt']

/-- Ten million guids are more than the buffer takes, and a block of 2^31 bytes is more than the
compressor can be told. -/
theorem crowded_refused :
    (UpdateData.run tallies {}
      [.addOutOfRangeGUIDs ((Finset.range 10000000).image UInt64.ofNat)]).send marked ascending
      true false = none ∧
    (UpdateData.run tallies {} [.addBlock (2 ^ 31)]).send marked ascending true false = none := by
  constructor
  · generalize guids : (Finset.range 10000000).image UInt64.ofNat = many
    have card : many.card = 10000000 := guids ▸ length_image_ofNat (by decide)
    have length : (ascending.order many).length = 10000000 := by
      rw [← Multiset.coe_card, ascending.coe_order, ← card]
      rfl
    apply send_refused
    intro room
    have some : ∅ ∪ many ≠ ∅ := by
      apply Finset.nonempty_iff_ne_empty.mp
      rw [Finset.empty_union, ← Finset.card_pos, card]
      decide
    have buffers : (UpdateData.run tallies {} [.addOutOfRangeGUIDs many]).buffers ascending false =
        [chunks (ascending.order (∅ ∪ many)) none false] := if_neg some
    rw [UpdateData.Room, buffers, Finset.empty_union] at room
    have many : ByteBuffer.maxSize ≤ (ascending.order many).length + 9 := by
      rw [length, ByteBuffer.maxSize]
      decide
    have full := guids_full many false
    rw [room _ List.mem_cons_self] at full
    cases full
  · exact tally_refused (by decide) (by decide)

end Updates

end TortoiseWow
