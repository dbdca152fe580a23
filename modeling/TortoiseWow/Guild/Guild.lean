import Mathlib
import TortoiseWow.Guild.Records

/-!
The methods of a guild. Each changes the guild, the players and the tables by
separate statements; a method that does all three takes and returns the guild
beside the world it stands in.
-/

namespace TortoiseWow.Guilds

open Lib

inductive GuildAddStatus
  | ok | guildFull | alreadyInGuild | unknownPlayer | playerDataError
  deriving DecidableEq, Repr

namespace PlayerCacheData

def playableClass (data : PlayerCacheData) : Bool := data.cls ∈ [1, 2, 3, 4, 5, 7, 8, 9, 11]

def saneLevel (data : PlayerCacheData) : Bool :=
  decide (1 ≤ data.level ∧ data.level ≤ playerStrongMaxLevel)

end PlayerCacheData

namespace Guild

def getMemberSlot (g : Guild) (guid : Nat) : Option MemberSlot := g.members.find? guid

def getMemberSlotByName (g : Guild) (name : Text) : Option MemberSlot :=
  (g.members.entries.find? (·.2.name = name)).map (·.2)

def getLowestRank (g : Guild) : Nat := g.ranks.length - 1

def getRankRights (g : Guild) (rankId : Nat) : UInt32 :=
  match g.ranks[rankId]? with
  | some rank => rank.rights
  | none => 0

def hasRankRight (g : Guild) (rankId : Nat) (right : UInt32) : Bool :=
  (g.getRankRights rankId &&& right) != GuildRankRights.empty

def addRank (g : Guild) (name : Text) (rights : UInt32) : Guild :=
  { g with ranks := g.ranks ++ [⟨name, rights⟩] }

def modifyRank (g : Guild) (rankId : Nat) (f : RankInfo → RankInfo) : Guild :=
  { g with ranks := g.ranks.modify rankId f }

def putMember (g : Guild) (slot : MemberSlot) : Guild :=
  { g with members := g.members.assign slot.guid slot }

def eraseMember (g : Guild) (guid : Nat) : Guild := { g with members := g.members.erase guid }

end Guild

def createRank (g : Guild) (w : World) (name : Text) (rights : UInt32) : Guild × World :=
  if g.ranks.length ≥ guildRanksMaxCount then (g, w)
  else
    (g.addRank name rights,
      w.onDb (Database.insertRank ⟨g.id, g.ranks.length, readLiteral (escape name), rights⟩))

def delRank (g : Guild) (w : World) : Guild × World :=
  if g.ranks.length ≤ guildRanksMinCount then (g, w)
  else
    ({ g with ranks := g.ranks.dropLast },
      w.onDb (Database.deleteRanksFrom g.id g.getLowestRank))

def setRankName (g : Guild) (w : World) (rankId : Nat) (name : Text) : Guild × World :=
  if rankId ≥ g.ranks.length then (g, w)
  else
    (g.modifyRank rankId fun rank => { rank with name := name },
      w.onDb
        (Database.updateRank g.id rankId
        (fun row => { row with rname := readLiteral (escape name) })
        fun _ => rfl))

def setRankRights (g : Guild) (w : World) (rankId : Nat) (rights : UInt32) : Guild × World :=
  if rankId ≥ g.ranks.length then (g, w)
  else
    (g.modifyRank rankId fun rank => { rank with rights := rights },
      w.onDb
        (Database.updateRank g.id rankId (fun row => { row with rights := rights }) fun _ => rfl))

def changeRank (g : Guild) (w : World) (slot : MemberSlot) (newRank : Nat) : Guild × World :=
  (g.putMember { slot with rankId := newRank },
    (w.modifyPlayerInWorld slot.guid fun player => { player with rank := newRank }).onDb
      (Database.updateMember slot.guid (fun row => { row with rank := newRank }) fun _ => rfl))

def setPublicNote (g : Guild) (w : World) (slot : MemberSlot) (publicNote : Text) : Guild × World :=
  if slot.publicNote = publicNote then (g, w)
  else
    let escaped := escape publicNote
    (g.putMember { slot with publicNote := escaped },
      w.onDb (Database.updateMember slot.guid (fun row => { row with pnote := readLiteral escaped })
        fun _ => rfl))

def setOfficerNote (g : Guild) (w : World) (slot : MemberSlot) (officerNote : Text) :
    Guild × World :=
  if slot.officerNote = officerNote then (g, w)
  else
    let escaped := escape officerNote
    (g.putMember { slot with officerNote := escaped },
      w.onDb
        (Database.updateMember slot.guid (fun row => { row with offnote := readLiteral escaped })
        fun _ => rfl))

def setMOTD (g : Guild) (w : World) (motd : Text) : Guild × World :=
  ({ g with motd := motd },
    w.onDb (Database.updateGuild g.id (fun row => { row with motd := readLiteral (escape motd) })
      fun _ => rfl))

def setGINFO (g : Guild) (w : World) (ginfo : Text) : Guild × World :=
  ({ g with info := ginfo },
    w.onDb (Database.updateGuild g.id (fun row => { row with info := readLiteral (escape ginfo) })
      fun _ => rfl))

def setLeader (g : Guild) (w : World) (slot : MemberSlot) : Guild × World :=
  let (g, w) := changeRank { g with leaderGuid := slot.guid } w slot grGuildmaster
  (g, w.onDb (Database.updateGuild g.id (fun row => { row with leaderguid := slot.guid })
    fun _ => rfl))

def setNewLeader (g : Guild) (w : World) (newLeaderSlot : MemberSlot)
    (oldLeaderSlot : Option MemberSlot) : Guild × World :=
  let (g, w) := setLeader g w newLeaderSlot
  match oldLeaderSlot with
  | some oldLeaderSlot => changeRank g w oldLeaderSlot grOfficer
  | none => (g, w)

/-- The better of a candidate and the next member of the iteration. -/
def betterLeader (best : Option MemberSlot) (slot : MemberSlot) : Option MemberSlot :=
  match best with
  | none => some slot
  | some best => if best.rankId > slot.rankId then some slot else some best

def getSuitableNewLeader (g : Guild) : Option MemberSlot :=
  ((g.members.entries.filter fun entry => entry.1 ≠ g.leaderGuid).map (·.2)).foldl betterLeader none

/-- The part of `DelMember` behind the change of leader. -/
def eraseMember (g : Guild) (w : World) (guid : Nat) : Bool × Guild × World :=
  let g := g.eraseMember guid
  let w := w.guildMemberRemoved guid
  let w := w.modifyPlayerInWorld guid fun player => { player with guildId := 0, rank := 0 }
  let w := w.onDb (Database.deleteMember guid)
  (g.members.entries.isEmpty, g, w)

def delMember (g : Guild) (w : World) (guid : Nat) (isDisbanding : Bool) : Bool × Guild × World :=
  if g.leaderGuid = guid ∧ isDisbanding = false then
    match getSuitableNewLeader g with
    | none => (true, g, w)
    | some best =>
        let (g, w) := setNewLeader g w best (g.getMemberSlot g.leaderGuid)
        eraseMember g w guid
  else eraseMember g w guid

/-- The loop of `Disband` over the members that are left. -/
def delMembers (g : Guild) (w : World) : List Nat → Guild × World
  | [] => (g, w)
  | guid :: rest =>
      let (_, g, w) := delMember g w guid true
      delMembers g w rest

def disband (g : Guild) (w : World) : World :=
  let (g, w) := delMembers g w g.members.keys
  (w.onDb fun db => (db.deleteGuild g.id).deleteRanks g.id).removeGuild g.id

namespace Petition

def getSignatureForPlayerGuid (petition : Petition) (guid : Nat) : Option PetitionSignature :=
  petition.signatures.find? (·.playerGuid = guid)

def deleteSignature (petition : Petition) (guid : Nat) : Petition :=
  { petition with signatures := petition.signatures.eraseP (·.playerGuid = guid) }

end Petition

namespace World

def getSignedPetition (w : World) (guid : Nat) : Option (Nat × Petition) :=
  w.petitionMap.entries.find? fun entry => (entry.2.getSignatureForPlayerGuid guid).isSome

/-- `PetitionSignature::DeleteFromDB` and `Petition::DeleteSignature`. The statement looks for
the signer in the column of the owners. -/
def cancelSignature (w : World) (guid : Nat) : World :=
  match w.getSignedPetition guid with
  | some (id, petition) =>
      { w with
        petitionMap := w.petitionMap.assign id (petition.deleteSignature guid)
        db := w.db.deleteSignsOwnedBy guid }
  | none => w

end World

variable (server : Server)

def storeMember (g : Guild) (w : World) (slot : MemberSlot) : Guild × World :=
  (g.putMember slot,
    (w.guildMemberAdded g.id slot.guid).onDb (Database.insertMember
      ⟨g.id, slot.guid, slot.rankId, readLiteral (escape slot.publicNote),
        readLiteral (escape slot.officerNote)⟩))

def addMember (g : Guild) (w : World) (plGuid plRank : Nat) : GuildAddStatus × Guild × World :=
  match w.findPlayerNotInWorld plGuid with
  | some pl =>
      if pl.guildId ≠ 0 then (.alreadyInGuild, g, w)
      else
        let rank := (server.onAddMember g.id plGuid (UInt8.ofNat plRank)).toNat
        let (g, w) := storeMember g (w.cancelSignature plGuid) ⟨plGuid, pl.name, rank, [], []⟩
        (.ok, g, w.modifyPlayer plGuid fun pl =>
          { pl with guildId := g.id, rank := rank, guildIdInvited := 0 })
  | none =>
      if (g.getMemberSlot plGuid).isSome then (.alreadyInGuild, g, w)
      else
        let w := w.cancelSignature plGuid
        match server.characters plGuid with
        | none => (.unknownPlayer, g, w)
        | some data =>
            if data.name = [] then (.unknownPlayer, g, w)
            else if ¬data.saneLevel ∨ ¬data.playableClass then (.playerDataError, g, w)
            else (.ok, storeMember g w ⟨plGuid, data.name, plRank, [], []⟩)

/-- `LANG_GUILD_MASTER` to `LANG_GUILD_INITIATE` with the rights of a new guild -/
def defaultRanks : List (Nat × UInt32) :=
  [(811, GuildRankRights.all), (812, GuildRankRights.all),
    (813, GuildRankRights.gchatListen ||| GuildRankRights.gchatSpeak),
    (814, GuildRankRights.gchatListen ||| GuildRankRights.gchatSpeak),
    (815, GuildRankRights.gchatListen ||| GuildRankRights.gchatSpeak)]

def createDefaultGuildRanks (g : Guild) (w : World) (localeIdx : Nat) : Guild × World :=
  defaultRanks.foldl
    (fun (g, w) (entry, rights) => createRank g w (server.mangosString entry localeIdx) rights)
    (g, w.onDb (Database.deleteRanks g.id))

def newGuild (id leader : Nat) (gname : Text) : Guild where
  id := id
  name := gname
  leaderGuid := leader
  motd := "No message set.".toList
  info := []
  ranks := []
  members := .empty

def enterGuild (w : World) (leader : Nat) (gname : Text) (localeIdx : Nat) : Guild × World :=
  let g := newGuild w.nextGuildId leader gname
  let w := { w with nextGuildId := w.nextGuildId + 1 }
  let w := w.onDb fun db => (db.deleteMembers g.id).insertGuild
    ⟨g.id, readLiteral (escape gname), leader, readLiteral (escape g.info),
      readLiteral (escape g.motd)⟩
  createDefaultGuildRanks server g w localeIdx

def create (w : World) (leader : Nat) (gname : Text) (localeIdx : Nat) : Bool × Guild × World :=
  if (w.getGuildByName gname).isSome then (false, newGuild w.nextGuildId leader gname, w)
  else
    let (g, w) := enterGuild server w leader gname localeIdx
    let (status, g, w) := addMember server g w leader grGuildmaster
    (status == .ok, g, w)

end TortoiseWow.Guilds
