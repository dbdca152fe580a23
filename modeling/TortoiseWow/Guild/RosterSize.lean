import Mathlib
import TortoiseWow.Guild.RosterPacket
import TortoiseWow.Lib.BoundedPrefix
import TortoiseWow.Shared.ByteBufferCodec

/-!
When the packets of the roster are what they say they are, and small enough.
-/

namespace TortoiseWow.GuildRoster

open Lib

def Record.size (record : Record) : Nat := (record.values.flatMap ByteBuffer.encoded).length

theorem encoded_u32 (value : UInt32) : ByteBuffer.encoded (u32 value) = leBytes 4 value.toNat :=
  List.append_nil _

theorem encoded_string (text : Text) : ByteBuffer.encoded (.string text) = text ++ [0] := by
  simp [ByteBuffer.encoded, ByteBuffer.chunks]

theorem Record.size_eq (record : Record) :
    record.size = 22 + record.name.length + record.publicNote.length +
      record.officerNote.length + if record.offlineDays.isSome then 4 else 0 := by
  have byte : ∀ value, (ByteBuffer.encoded (u8 value)).length = 1 := fun _ => rfl
  have long : ∀ value, (ByteBuffer.encoded (u64 value)).length = 8 := fun _ => rfl
  have days : ((record.offlineDays.toList.map u32).flatMap ByteBuffer.encoded).length =
      if record.offlineDays.isSome then 4 else 0 := by
    cases record.offlineDays with
    | none => rfl
    | some days => rfl
  rw [Record.size, Record.values, List.flatMap_append, List.flatMap_append]
  simp only [List.flatMap_cons, List.flatMap_nil, List.length_append, List.length_nil, byte, long,
    days, encoded_u32, encoded_string, length_leBytes, List.length_singleton]
  omega

/-- Whether a record may begin at this size. -/
def admits (inPacketCap : Bool) (size : Nat) : Bool :=
  inPacketCap || decide (size + guildMemberBlockSize < maxUncompressedPacketSize)

abbrev written (inPacketCap : Bool) : Nat → List Record → List Record :=
  boundedPrefix (admits inPacketCap) Record.size

theorem length_encoded (records : List Record) :
    ((records.flatMap Record.values).flatMap ByteBuffer.encoded).length =
      totalSize Record.size records := by
  induction records with
  | nil => rfl
  | cons record records ih =>
      rw [List.flatMap_cons, List.flatMap_append, List.length_append, ih, totalSize_cons]
      rfl

theorem writeAll_append (front back : List Value) (b : ByteBuffer) :
    ByteBuffer.writeAll (front ++ back) b =
      (ByteBuffer.writeAll front b).bind (ByteBuffer.writeAll back) :=
  List.foldlM_append

theorem writeAll_eq (values : List Value) {b : ByteBuffer} (atEnd : b.wpos = b.size) :
    ByteBuffer.writeAll values b =
      if ByteBuffer.fits b.size (values.flatMap ByteBuffer.chunks) = true then
        some (b.extend (values.flatMap ByteBuffer.encoded))
      else none := by
  rw [ByteBuffer.writeAll_eq_appendAll, ByteBuffer.appendAll_eq _ atEnd, ByteBuffer.flatten_chunks]

theorem writeAll_some {values : List Value} {b after : ByteBuffer} (atEnd : b.wpos = b.size)
    (done : ByteBuffer.writeAll values b = some after) :
    after = b.extend (values.flatMap ByteBuffer.encoded) ∧ after.wpos = after.size := by
  rw [writeAll_eq values atEnd] at done
  split at done
  · obtain rfl := Option.some.inj done
    exact ⟨rfl, ByteBuffer.extend_atEnd atEnd _⟩
  · cases done

theorem writeMembers_eq (inPacketCap : Bool) (records : List Record) {roster : Roster}
    (atEnd : roster.data.wpos = roster.data.size) :
    writeMembers inPacketCap records roster =
      (ByteBuffer.writeAll ((written inPacketCap roster.data.size records).flatMap Record.values)
        roster.data).map fun data =>
          { data
            finalCount := roster.finalCount +
              UInt32.ofNat (written inPacketCap roster.data.size records).length
            records := roster.records ++ written inPacketCap roster.data.size records } := by
  induction records generalizing roster with
  | nil => simp [writeMembers, boundedPrefix, ByteBuffer.writeAll]
  | cons record records ih =>
      have test : (inPacketCap = false ∧
          roster.data.size + guildMemberBlockSize ≥ maxUncompressedPacketSize) ↔
          admits inPacketCap roster.data.size = false := by
        simp [admits]
      rw [writeMembers, writeMemberData, written, boundedPrefix]
      cases admitted : admits inPacketCap roster.data.size with
      | false =>
          rw [if_pos (test.mpr admitted)]
          simp [ByteBuffer.writeAll]
      | true =>
          have room : ¬ (inPacketCap = false ∧
              roster.data.size + guildMemberBlockSize ≥ maxUncompressedPacketSize) := by
            rw [test, admitted]
            exact Bool.noConfusion
          rw [if_neg room, if_pos rfl, List.flatMap_cons, writeAll_append]
          cases wrote : ByteBuffer.writeAll record.values roster.data with
          | none => rfl
          | some data =>
              obtain ⟨same, atEnd'⟩ := writeAll_some atEnd wrote
              have size : data.size = roster.data.size + record.size := by
                rw [same]
                exact List.length_append
              have later := @ih ⟨data, roster.finalCount + 1, roster.records ++ [record]⟩ atEnd'
              simp only [size] at later
              simp only [Option.map_some, Option.bind_eq_bind, Option.bind_some, later,
                List.length_cons, UInt32.ofNat_add, List.append_assoc, List.singleton_append]
              congr 1
              funext data
              congr 1
              rw [UInt32.add_assoc, UInt32.add_comm 1]
              rfl

def Guild.headerSize (g : Guild) : Nat := 10 + g.motd.length + g.info.length + 4 * g.ranks.length

def Record.Honest (record : Record) : Prop :=
  record.offlineDays.isSome = true ↔ record.online = false

structure Roster.Sound (g : Guild) (roster : Roster) : Prop where
  bytes : roster.data.storage =
    (g.header (UInt32.ofNat roster.records.length) ++
      roster.records.flatMap Record.values).flatMap ByteBuffer.encoded
  counted : roster.records.length < 2 ^ 32
  small : roster.data.size < maxUncompressedPacketSize
  offline : ∀ record ∈ roster.records, record.Honest

theorem header_eq (g : Guild) (count : UInt32) :
    (g.header count).flatMap ByteBuffer.encoded = leBytes 4 count.toNat ++
      ([.string g.motd, .string g.info, u32 (UInt32.ofNat g.ranks.length)] ++
        g.ranks.map u32).flatMap ByteBuffer.encoded := by
  rw [Guild.header, ← encoded_u32]
  rfl

theorem length_header (g : Guild) (count : UInt32) :
    ((g.header count).flatMap ByteBuffer.encoded).length = g.headerSize := by
  have ranks : ∀ ranks : List UInt32,
      ((ranks.map u32).flatMap ByteBuffer.encoded).length = 4 * ranks.length := by
    intro ranks
    induction ranks with
    | nil => rfl
    | cons rights ranks ih =>
        rw [List.map_cons, List.flatMap_cons, List.length_append, ih, encoded_u32, length_leBytes,
          List.length_cons]
        omega
  rw [Guild.header, List.flatMap_append, List.length_append, ranks, Guild.headerSize]
  simp only [List.flatMap_cons, List.flatMap_nil, encoded_u32, encoded_string, List.length_append,
    length_leBytes, List.length_singleton, List.length_nil]
  omega

theorem fits_of_small (chunks : List (List UInt8)) {size : Nat}
    (small : size + chunks.flatten.length ≤ ByteBuffer.maxSize) :
    ByteBuffer.fits size chunks = true := by
  induction chunks generalizing size with
  | nil => rfl
  | cons chunk chunks ih =>
      rw [List.flatten_cons, List.length_append] at small
      rw [ByteBuffer.fits, ih (by omega), Bool.and_true]
      cases chunk with
      | nil => rfl
      | cons byte chunk =>
          rw [List.length_cons] at small
          simp only [List.isEmpty_cons, Bool.false_or, decide_eq_true_eq]
          omega

theorem assembled_eq (g : Guild) (count : UInt32) (inPacketCap : Bool) (records : List Record)
    (headerSmall : g.headerSize < maxUncompressedPacketSize) {shown : List Record}
    (taken : written inPacketCap g.headerSize records = shown) :
    ((ByteBuffer.writeAll (g.header count) {}).bind fun data =>
        (writeMembers inPacketCap records { data }).bind Guild.putCount) =
      if ByteBuffer.fits g.headerSize
          ((shown.flatMap Record.values).flatMap ByteBuffer.chunks) = true then
        some
          { data :=
              { wpos := g.headerSize + totalSize Record.size shown
                storage := (g.header (UInt32.ofNat shown.length) ++
                  shown.flatMap Record.values).flatMap ByteBuffer.encoded }
            finalCount := UInt32.ofNat shown.length
            records := shown }
      else none := by
  have fits : ByteBuffer.fits 0 ((g.header count).flatMap ByteBuffer.chunks) = true := by
    apply fits_of_small
    rw [ByteBuffer.flatten_chunks, length_header, Nat.zero_add]
    exact Nat.le_of_lt (Nat.lt_trans headerSmall (by decide))
  have atEnd : ({} : ByteBuffer).wpos = ({} : ByteBuffer).size := rfl
  have header := writeAll_eq (g.header count) atEnd
  rw [if_pos (show ByteBuffer.fits ({} : ByteBuffer).size _ = true from fits)] at header
  have size : (ByteBuffer.extend {} ((g.header count).flatMap ByteBuffer.encoded)).size =
      g.headerSize := (congrArg List.length (List.nil_append _)).trans (length_header g count)
  have atEnd := ByteBuffer.extend_atEnd atEnd ((g.header count).flatMap ByteBuffer.encoded)
  have members := @writeMembers_eq inPacketCap records
    ⟨ByteBuffer.extend {} ((g.header count).flatMap ByteBuffer.encoded), 0, []⟩ atEnd
  simp only [size, taken] at members
  rw [header, Option.bind_some, members, writeAll_eq _ atEnd, size]
  split
  · obtain ⟨tail, bytes⟩ : ∃ tail, ∀ n : UInt32, (g.header n ++
        shown.flatMap Record.values).flatMap ByteBuffer.encoded = leBytes 4 n.toNat ++ tail :=
      ⟨_, fun n => by rw [List.flatMap_append, header_eq, List.append_assoc]⟩
    have data : (ByteBuffer.extend {} ((g.header count).flatMap ByteBuffer.encoded)).extend
        ((shown.flatMap Record.values).flatMap ByteBuffer.encoded) =
        ⟨0, g.headerSize + totalSize Record.size shown, leBytes 4 count.toNat ++ tail⟩ := by
      rw [← bytes, ← length_encoded, ← length_header g count]
      simp [ByteBuffer.extend]
    have front := @ByteBuffer.put_front (leBytes 4 count.toNat ++ tail)
      (leBytes 4 (UInt32.ofNat shown.length).toNat) 0 (g.headerSize + totalSize Record.size shown)
      (by
        rw [List.length_append, length_leBytes, length_leBytes]
        omega)
    rw [length_leBytes, List.drop_left' (length_leBytes 4 _)] at front
    rw [data, bytes]
    simp only [Option.map_some, Option.bind_some, Guild.putCount, UInt32.zero_add, List.nil_append,
      Option.bind_eq_bind, front]
  · rfl

theorem assembled_sound_iff (g : Guild) (count : UInt32) (inPacketCap : Bool)
    (records : List Record) (headerSmall : g.headerSize < maxUncompressedPacketSize) :
    (∃ roster, ((ByteBuffer.writeAll (g.header count) {}).bind fun data =>
        (writeMembers inPacketCap records { data }).bind Guild.putCount) = some roster ∧
      roster.Sound g) ↔
    g.headerSize + totalSize Record.size (written inPacketCap g.headerSize records) <
        maxUncompressedPacketSize ∧
      ∀ record ∈ written inPacketCap g.headerSize records, record.Honest := by
  rw [assembled_eq g count inPacketCap records headerSmall rfl]
  generalize written inPacketCap g.headerSize records = shown
  have size : ((g.header (UInt32.ofNat shown.length) ++
      shown.flatMap Record.values).flatMap ByteBuffer.encoded).length =
      g.headerSize + totalSize Record.size shown := by
    rw [List.flatMap_append, List.length_append, length_header, length_encoded]
  constructor
  · rintro ⟨roster, built, sound⟩
    split at built
    · obtain rfl := Option.some.inj built
      have small := sound.small
      rw [ByteBuffer.size, size] at small
      exact ⟨small, sound.offline⟩
    · cases built
  · rintro ⟨small, honest⟩
    have fits : ByteBuffer.fits g.headerSize
        ((shown.flatMap Record.values).flatMap ByteBuffer.chunks) = true := by
      apply fits_of_small
      rw [ByteBuffer.flatten_chunks, length_encoded]
      exact Nat.le_of_lt (Nat.lt_trans small (by decide))
    rw [if_pos fits]
    refine ⟨_, rfl, rfl, ?_, ?_, honest⟩
    · have each : totalSize (fun _ => 1) shown ≤ totalSize Record.size shown :=
        totalSize_mono fun record _ => by
          rw [Record.size_eq]
          omega
      have length : totalSize (fun _ => 1) shown = shown.length := by simp [totalSize]
      have limit : maxUncompressedPacketSize = 32768 := rfl
      change shown.length < 2 ^ 32
      omega
    · rw [ByteBuffer.size, size]
      exact small

end TortoiseWow.GuildRoster
