import Mathlib
import TortoiseWow.Lib.KeyedTable
import TortoiseWow.Lib.OrderedMap
import TortoiseWow.Lib.SqlText
import TortoiseWow.Lib.UnorderedMap

/-!
What the guild code keeps: guilds with their ranks and members, petitions with
their signatures, the guild fields of the players who are online, and the tables
of the character database that a restart reads all of it back from.
-/

namespace TortoiseWow.Guilds

open Lib

/-- The bytes of a `std::string`. -/
abbrev Text := List Char

def guildRanksMinCount : Nat := 5
def guildRanksMaxCount : Nat := 10
def guildNoteMaxLength : Nat := 31
def guildInfoMaxLength : Nat := 500
def guildMotdMaxLength : Nat := 128
def maxInternalPlayerName : Nat := 15
def playerStrongMaxLevel : Nat := 255

def grGuildmaster : Nat := 0
def grOfficer : Nat := 1

namespace GuildRankRights

def empty : UInt32 := 0x00000040
def gchatListen : UInt32 := 0x00000041
def gchatSpeak : UInt32 := 0x00000042
def offchatListen : UInt32 := 0x00000044
def offchatSpeak : UInt32 := 0x00000048
def promote : UInt32 := 0x000000C0
def demote : UInt32 := 0x00000140
def invite : UInt32 := 0x00000050
def remove : UInt32 := 0x00000060
def setmotd : UInt32 := 0x00001040
def epnote : UInt32 := 0x00002040
def viewoffnote : UInt32 := 0x00004040
def eoffnote : UInt32 := 0x00008040
def modifyGuildInfo : UInt32 := 0x00010040
def all : UInt32 := 0x000FF1FF

/-- The rights that are asked for somewhere. `empty` is what is left of a right that is not
held, and `all` is only ever assigned. -/
def asked : List UInt32 :=
  [gchatListen, gchatSpeak, offchatListen, offchatSpeak, promote, demote, invite, remove, setmotd,
    epnote, viewoffnote, eoffnote, modifyGuildInfo]

end GuildRankRights

inductive Team
  | none | crossfaction | horde | alliance
  deriving DecidableEq, Repr

structure MemberSlot where
  guid : Nat
  name : Text
  rankId : Nat
  publicNote : Text
  officerNote : Text
  deriving DecidableEq, Repr

structure RankInfo where
  name : Text
  rights : UInt32
  deriving DecidableEq, Repr

structure Guild where
  id : Nat
  name : Text
  leaderGuid : Nat
  motd : Text
  info : Text
  ranks : List RankInfo
  members : UnorderedMap Nat MemberSlot

structure PetitionSignature where
  playerGuid : Nat
  playerAccount : Nat
  deriving DecidableEq, Repr

structure Petition where
  id : Nat
  charterGuid : Nat
  ownerGuid : Nat
  name : Text
  team : Team
  signatures : List PetitionSignature

/-- A character whose `Player` object exists, with the fields that the guild code reads. -/
structure Player where
  name : Text
  accountId : Nat
  team : Team
  inWorld : Bool
  ignores : List Nat
  guildId : Nat
  rank : Nat
  guildIdInvited : Nat
  deriving DecidableEq, Repr

/-- What is known of a character without its `Player`: the cache, and the row it was read from. -/
structure PlayerCacheData where
  name : Text
  level : Nat
  cls : Nat
  account : Nat
  team : Team
  deriving DecidableEq, Repr

structure GuildRow where
  guildid : Nat
  name : Text
  leaderguid : Nat
  info : Text
  motd : Text
  deriving DecidableEq, Repr

structure GuildRankRow where
  guildid : Nat
  rid : Nat
  rname : Text
  rights : UInt32
  deriving DecidableEq, Repr

structure GuildMemberRow where
  guildid : Nat
  guid : Nat
  rank : Nat
  pnote : Text
  offnote : Text
  deriving DecidableEq, Repr

structure PetitionRow where
  ownerguid : Nat
  petitionguid : Nat
  charterguid : Nat
  name : Text
  deriving DecidableEq, Repr

structure PetitionSignRow where
  ownerguid : Nat
  petitionguid : Nat
  playerguid : Nat
  playerAccount : Nat
  deriving DecidableEq, Repr

namespace GuildRankRow

def key (row : GuildRankRow) : Nat × Nat := (row.guildid, row.rid)

end GuildRankRow

namespace PetitionSignRow

def key (row : PetitionSignRow) : Nat × Nat := (row.petitionguid, row.playerguid)

end PetitionSignRow

structure Database where
  guild : KeyedTable GuildRow.guildid
  guildRank : KeyedTable GuildRankRow.key
  /-- `UNIQUE KEY (guid)` -/
  guildMember : KeyedTable GuildMemberRow.guid
  petition : KeyedTable PetitionRow.ownerguid
  petitionSign : KeyedTable PetitionSignRow.key

namespace Database

def insertGuild (row : GuildRow) (db : Database) : Database :=
  { db with guild := db.guild.insert row }

def updateGuild (guildid : Nat) (f : GuildRow → GuildRow)
    (keep : ∀ row, (f row).guildid = row.guildid) (db : Database) : Database :=
  { db with guild := db.guild.update (·.guildid == guildid) f keep }

def deleteGuild (guildid : Nat) (db : Database) : Database :=
  { db with guild := db.guild.delete (·.guildid == guildid) }

def insertRank (row : GuildRankRow) (db : Database) : Database :=
  { db with guildRank := db.guildRank.insert row }

def updateRank (guildid rid : Nat) (f : GuildRankRow → GuildRankRow)
    (keep : ∀ row, (f row).key = row.key) (db : Database) : Database :=
  { db with guildRank := db.guildRank.update (·.key == (guildid, rid)) f keep }

def deleteRanksFrom (guildid rid : Nat) (db : Database) : Database :=
  { db with
    guildRank := db.guildRank.delete fun row => decide (rid ≤ row.rid) && row.guildid == guildid }

def deleteRanks (guildid : Nat) (db : Database) : Database :=
  { db with guildRank := db.guildRank.delete (·.guildid == guildid) }

def insertMember (row : GuildMemberRow) (db : Database) : Database :=
  { db with guildMember := db.guildMember.insert row }

def updateMember (guid : Nat) (f : GuildMemberRow → GuildMemberRow)
    (keep : ∀ row, (f row).guid = row.guid) (db : Database) : Database :=
  { db with guildMember := db.guildMember.update (·.guid == guid) f keep }

def deleteMember (guid : Nat) (db : Database) : Database :=
  { db with guildMember := db.guildMember.delete (·.guid == guid) }

def deleteMembers (guildid : Nat) (db : Database) : Database :=
  { db with guildMember := db.guildMember.delete (·.guildid == guildid) }

def deleteSignsOwnedBy (ownerguid : Nat) (db : Database) : Database :=
  { db with petitionSign := db.petitionSign.delete (·.ownerguid == ownerguid) }

end Database

structure Server where
  /-- `CONFIG_BOOL_ALLOW_TWO_SIDE_INTERACTION_GUILD` -/
  allowTwoSideInteractionGuild : Bool
  /-- `CONFIG_UINT32_MIN_PETITION_SIGNS` -/
  minPetitionSigns : Nat
  characters : Nat → Option PlayerCacheData
  /-- `LANG_GUILD_MASTER` and the four after it, in a locale -/
  mangosString : Nat → Nat → Text
  normalizePlayerName : Text → Nat → Bool → Option Text
  /-- `IsReservedName` and `IsValidCharterName` -/
  validCharterName : Text → Bool
  /-- What the scripts make of the rank of a new member who is online. -/
  onAddMember : Nat → Nat → UInt8 → UInt8

structure World where
  guildMap : UnorderedMap Nat Guild
  guid2guild : OrderedMap Nat Nat
  petitionMap : UnorderedMap Nat Petition
  players : UnorderedMap Nat Player
  nextGuildId : Nat
  nextPetitionId : Nat
  nextItemGuid : Nat
  db : Database

namespace World

def onDb (f : Database → Database) (w : World) : World := { w with db := f w.db }

def findPlayerNotInWorld (w : World) (guid : Nat) : Option Player := w.players.find? guid

def findPlayer (w : World) (guid : Nat) : Option Player := (w.players.find? guid).filter (·.inWorld)

def findPlayerByName (w : World) (name : Text) : Option (Nat × Player) :=
  (w.players.entries.find? (·.2.name = name)).filter (·.2.inWorld)

def modifyPlayer (w : World) (guid : Nat) (f : Player → Player) : World :=
  { w with players := w.players.modify guid f }

def modifyPlayerInWorld (w : World) (guid : Nat) (f : Player → Player) : World :=
  w.modifyPlayer guid fun player => if player.inWorld then f player else player

def getGuildById (w : World) (guildId : Nat) : Option Guild := w.guildMap.find? guildId

def getGuildByName (w : World) (name : Text) : Option Guild :=
  (w.guildMap.entries.find? (·.2.name = name)).map (·.2)

/-- `AddGuild`, and what a method leaves in a guild that the map points to. -/
def putGuild (w : World) (g : Guild) : World := { w with guildMap := w.guildMap.assign g.id g }

def removeGuild (w : World) (guildId : Nat) : World :=
  { w with guildMap := w.guildMap.erase guildId }

def guildMemberAdded (w : World) (guildId guid : Nat) : World :=
  { w with guid2guild := w.guid2guild.assign guid guildId }

def guildMemberRemoved (w : World) (guid : Nat) : World :=
  { w with guid2guild := w.guid2guild.erase guid }

end World

end TortoiseWow.Guilds
