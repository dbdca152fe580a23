import Mathlib
import TortoiseWow.Shared.ByteBuffer

/-!
The roster of a guild as it is sent, with a size that is estimated before anything is written.
-/

namespace TortoiseWow.GuildRoster

open Lib

/-- The bytes of a `std::string`. -/
abbrev Text := List UInt8

def maxUncompressedPacketSize : Nat := 0x8000
def maxInternalPlayerName : Nat := 15
def guildRanksMaxCount : Nat := 10
def guildNoteMaxLength : Nat := 31
def guildInfoMaxLength : Nat := 500
def guildMotdMaxLength : Nat := 128

def guildMemberBlockSize : Nat :=
  8 + 1 + (1 + maxInternalPlayerName) + 4 + 1 + 1 + 4 + (1 + guildNoteMaxLength) +
    (1 + guildNoteMaxLength)

def guildMemberBlockSizeWithoutNote : Nat :=
  8 + 1 + (1 + maxInternalPlayerName) + 4 + 1 + 1 + 4 + (1 + 0) + (1 + 0)

def guildMaxMembers : Nat :=
  (0x8000 - 10 - guildRanksMaxCount - guildInfoMaxLength - guildMotdMaxLength) /
    guildMemberBlockSizeWithoutNote

structure MemberSlot where
  name : Text
  rankId : UInt32
  level : UInt8
  cls : UInt8
  zoneId : UInt32
  logoutTime : UInt64
  publicNote : Text
  officerNote : Text
  deriving DecidableEq

/-- What is asked of a player who is in the world. -/
structure Player where
  name : Text
  level : UInt8
  cls : UInt8
  cachedZoneId : UInt32
  hasGMDisabledSocials : Bool
  deriving DecidableEq

structure Member where
  guid : UInt64
  slot : MemberSlot
  player : Option Player
  deriving DecidableEq

/-- The rights of the ranks, and the members as the map of them is walked. -/
structure Guild where
  motd : Text
  info : Text
  ranks : List UInt32
  members : List Member
  deriving DecidableEq

/-- `std::sort` by rank, which leaves the order of equal ranks open. -/
structure RankSort where
  sort : List Member → List Member
  perm : ∀ members, (sort members).Perm members
  sorted : ∀ members, (sort members).Pairwise fun a b => a.slot.rankId ≤ b.slot.rankId

/-- The days since a logout, as the bytes of a float. -/
abbrev OfflineDays := UInt64 → UInt32

/-- What is written for a member. -/
structure Record where
  guid : UInt64
  online : Bool
  name : Text
  rankId : UInt32
  level : UInt8
  cls : UInt8
  zoneId : UInt32
  offlineDays : Option UInt32
  publicNote : Text
  officerNote : Text
  deriving DecidableEq

def u8 (value : UInt8) : Value := .int .w8 value.toBitVec
def u32 (value : UInt32) : Value := .int .w32 value.toBitVec
def u64 (value : UInt64) : Value := .int .w64 value.toBitVec

def Record.values (record : Record) : List Value :=
  [u64 record.guid, u8 (if record.online then 1 else 0), .string record.name, u32 record.rankId,
    u8 record.level, u8 record.cls, u32 record.zoneId] ++
  record.offlineDays.toList.map u32 ++ [.string record.publicNote, .string record.officerNote]

namespace Member

/-- An online game master without socials is not. -/
def visible (member : Member) : Bool :=
  match member.player with
  | some player => !player.hasGMDisabledSocials
  | none => false

/-- What `Roster` writes: the offline time is left out if there is a player at all. -/
def record (days : OfflineDays) (sendOfficerNote : Bool) (member : Member) : Record :=
  match member.player with
  | some player =>
      { guid := member.guid
        online := member.visible
        name := player.name
        rankId := member.slot.rankId
        level := player.level
        cls := player.cls
        zoneId := player.cachedZoneId
        offlineDays := none
        publicNote := member.slot.publicNote
        officerNote := if sendOfficerNote then member.slot.officerNote else [] }
  | none =>
      { guid := member.guid
        online := member.visible
        name := member.slot.name
        rankId := member.slot.rankId
        level := member.slot.level
        cls := member.slot.cls
        zoneId := member.slot.zoneId
        offlineDays := some (days member.slot.logoutTime)
        publicNote := member.slot.publicNote
        officerNote := if sendOfficerNote then member.slot.officerNote else [] }

/-- What `BuildOnlineRosterPacket` writes. -/
def onlineRecord (sendOfficerNote : Bool) (member : Member) (player : Player) : Record where
  guid := member.guid
  online := true
  name := player.name
  rankId := member.slot.rankId
  level := player.level
  cls := player.cls
  zoneId := player.cachedZoneId
  offlineDays := none
  publicNote := member.slot.publicNote
  officerNote := if sendOfficerNote then member.slot.officerNote else []

end Member

/-- A packet that is being written, with the records in it. -/
structure Roster where
  data : ByteBuffer
  finalCount : UInt32 := 0
  records : List Record := []
  deriving DecidableEq

def writeMemberData (inPacketCap : Bool) (data : ByteBuffer) (record : Record) :
    Option (Option ByteBuffer) :=
  if inPacketCap = false ∧ data.size + guildMemberBlockSize ≥ maxUncompressedPacketSize then
    some none
  else (data.writeAll record.values).map some

/-- The loop over a cache, up to the first member that there is no room for. -/
def writeMembers (inPacketCap : Bool) : List Record → Roster → Option Roster
  | [], roster => some roster
  | record :: rest, roster => do
      match ← writeMemberData inPacketCap roster.data record with
      | none => some roster
      | some data =>
          writeMembers inPacketCap rest
            { data, finalCount := roster.finalCount + 1, records := roster.records ++ [record] }

/-- What `BuildOnlineRosterPacket` adds to its estimate for a member. -/
def addOnlineMember (sendOfficerNote : Bool) (totalSize : UInt32) (member : Member) : UInt32 :=
  let totalSize := totalSize + UInt32.ofNat guildMemberBlockSizeWithoutNote
  let totalSize := totalSize + UInt32.ofNat member.slot.publicNote.length
  if sendOfficerNote then totalSize + UInt32.ofNat member.slot.officerNote.length else totalSize

def addMember (totalSize : UInt32) (member : Member) : UInt32 :=
  let totalSize := totalSize + UInt32.ofNat guildMemberBlockSizeWithoutNote
  totalSize + UInt32.ofNat
    (member.slot.publicNote.length + 1 + member.slot.officerNote.length + 1)

namespace Guild

variable (g : Guild)

def headerEstimate : UInt32 :=
  4 + UInt32.ofNat (g.motd.length + 1 + g.info.length + 1) + 4 + 4 * UInt32.ofNat g.ranks.length

def header (count : UInt32) : List Value :=
  [u32 count, .string g.motd, .string g.info, u32 (UInt32.ofNat g.ranks.length)] ++ g.ranks.map u32

def putCount (roster : Roster) : Option Roster := do
  let data ← roster.data.put 0 (leBytes 4 roster.finalCount.toNat)
  some { roster with data }

def buildOnlineRosterPacket (sorting : RankSort) (sendOfficerNote : Bool) : Option Roster := do
  let onlineMemberCache := g.members.filter Member.visible
  let totalSize := onlineMemberCache.foldl (addOnlineMember sendOfficerNote) g.headerEstimate
  let inPacketCap := decide (totalSize.toNat < maxUncompressedPacketSize)
  let data ← ByteBuffer.writeAll (g.header (UInt32.ofNat onlineMemberCache.length)) {}
  let onlineMemberCache :=
    if inPacketCap then onlineMemberCache else sorting.sort onlineMemberCache
  let roster ← writeMembers inPacketCap (onlineMemberCache.filterMap fun member =>
    member.player.map (member.onlineRecord sendOfficerNote)) { data }
  putCount roster

def roster (sorting : RankSort) (days : OfflineDays) (sendOfficerNote : Bool) : Option Roster := do
  let onlineMemberCache := g.members.filter Member.visible
  let offlineMemberCache := g.members.filter fun member => !member.visible
  let totalSize := g.members.foldl addMember g.headerEstimate
  let count := min (onlineMemberCache.length + offlineMemberCache.length) guildMaxMembers
  let onlineMembers := min onlineMemberCache.length guildMaxMembers
  let offlineMembers := min offlineMemberCache.length (guildMaxMembers - onlineMembers)
  let inPacketCap := decide (totalSize.toNat < maxUncompressedPacketSize)
  let data ← ByteBuffer.writeAll (g.header (UInt32.ofNat count)) {}
  let onlineMemberCache :=
    if inPacketCap then onlineMemberCache else sorting.sort onlineMemberCache
  let offlineMemberCache :=
    if inPacketCap then offlineMemberCache else sorting.sort offlineMemberCache
  let onlineMemberCache := onlineMemberCache.take onlineMembers
  let offlineMemberCache := offlineMemberCache.take offlineMembers
  let roster ← writeMembers inPacketCap
    ((onlineMemberCache.filter fun member => member.player.isSome).map
      (Member.record days sendOfficerNote)) { data }
  -- characters that are deleted have no name
  let roster ← writeMembers inPacketCap
    ((offlineMemberCache.filter fun member => !member.visible && member.slot.name ≠ []).map
      (Member.record days sendOfficerNote)) roster
  putCount roster

end Guild

end TortoiseWow.GuildRoster
