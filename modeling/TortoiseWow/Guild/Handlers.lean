import Mathlib
import TortoiseWow.Guild.Guild

/-!
The guild messages of a session. What a message asks for is first checked, which
either answers with a reply or finds the guild and the member that it is about;
then the guild is changed.
-/

namespace TortoiseWow.Guilds

open Lib

inductive Typecommand
  | create | invite | quit | founder
  deriving DecidableEq, Repr

inductive CommandErrors
  | playerNoMoreInGuild | alreadyInGuildS | alreadyInvitedToGuildS | guildNameInvalid
  | guildNameExistsS | guildLeaderLeave | guildPermissions | guildPlayerNotInGuild
  | guildPlayerNotInGuildS | guildPlayerNotFoundS | guildNotAllied | guildRankTooHighS
  | guildRankTooLowS
  deriving DecidableEq, Repr

structure CommandResult where
  typecmd : Typecommand
  text : Text
  cmdresult : CommandErrors
  deriving DecidableEq, Repr

/-- A handler that returns early, with the reply it sends first if any. -/
abbrev Checked (α : Type) := Except (Option CommandResult) α

inductive GuildMessage
  | create (gname : Text)
  | invite (name : Text)
  | remove (name : Text)
  | accept
  | decline
  | promote (name : Text)
  | demote (name : Text)
  | leave
  | disband
  | leader (name : Text)
  | motd (text : Text)
  | setPublicNote (name note : Text)
  | setOfficerNote (name note : Text)
  | rank (rankId : Nat) (rights : UInt32) (rankname : Text)
  | addRank (rankname : Text)
  | delRank
  | changeInfoText (ginfo : Text)
  deriving DecidableEq, Repr

namespace World

variable (server : Server) (w : World) (actor : Nat) (player : Player)

def ownGuild : Checked Guild :=
  match w.getGuildById player.guildId with
  | some g => .ok g
  | none => .error (some ⟨.create, [], .guildPlayerNotInGuild⟩)

def guildWithRight (right : UInt32) : Checked Guild :=
  match w.ownGuild player with
  | .error reply => .error reply
  | .ok g =>
      if g.hasRankRight player.rank right then .ok g
      else .error (some ⟨.invite, [], .guildPermissions⟩)

def ledGuild : Checked Guild :=
  match w.ownGuild player with
  | .error reply => .error reply
  | .ok g => if actor = g.leaderGuid then .ok g else .error (some ⟨.invite, [], .guildPermissions⟩)

def namedMember (right : UInt32) (name : Text) : Checked (Guild × MemberSlot) :=
  match server.normalizePlayerName name maxInternalPlayerName true with
  | none => .error none
  | some name =>
      match w.guildWithRight player right with
      | .error reply => .error reply
      | .ok g =>
          match g.getMemberSlotByName name with
          | some slot => .ok (g, slot)
          | none => .error (some ⟨.invite, name, .guildPlayerNotInGuildS⟩)

def checkRemove (name : Text) : Checked (Guild × MemberSlot) :=
  if ¬player.inWorld then .error none
  else
    match w.namedMember server player GuildRankRights.remove name with
    | .error reply => .error reply
    | .ok (g, slot) =>
        if slot.rankId = grGuildmaster then .error (some ⟨.quit, [], .guildLeaderLeave⟩)
        else if player.rank ≥ slot.rankId then .error (some ⟨.quit, slot.name, .guildRankTooHighS⟩)
        else .ok (g, slot)

def checkPromote (name : Text) : Checked (Guild × MemberSlot) :=
  match w.namedMember server player GuildRankRights.promote name with
  | .error reply => .error reply
  | .ok (g, slot) =>
      if slot.guid = actor then .error (some ⟨.invite, [], .guildNameInvalid⟩)
      -- the sender's rank + 1 is the highest rank that can be given
      else if player.rank + 1 ≥ slot.rankId
        then .error (some ⟨.invite, slot.name, .guildRankTooHighS⟩)
      else .ok (g, slot)

def checkDemote (name : Text) : Checked (Guild × MemberSlot) :=
  match w.namedMember server player GuildRankRights.demote name with
  | .error reply => .error reply
  | .ok (g, slot) =>
      if slot.guid = actor then .error (some ⟨.invite, [], .guildNameInvalid⟩)
      else if player.rank ≥ slot.rankId then .error (some ⟨.invite, slot.name, .guildRankTooHighS⟩)
      else if slot.rankId ≥ g.getLowestRank
        then .error (some ⟨.invite, slot.name, .guildRankTooLowS⟩)
      else .ok (g, slot)

def checkLeader (name : Text) : Checked (Guild × MemberSlot × MemberSlot) :=
  match server.normalizePlayerName name maxInternalPlayerName true with
  | none => .error none
  | some name =>
      match w.ledGuild actor player with
      | .error reply => .error reply
      | .ok g =>
          match g.getMemberSlot actor with
          | none => .error (some ⟨.invite, [], .guildPermissions⟩)
          | some oldSlot =>
              match g.getMemberSlotByName name with
              | none => .error (some ⟨.invite, name, .guildPlayerNotInGuildS⟩)
              | some slot =>
                  if oldSlot.guid = slot.guid then .error (some ⟨.invite, name, .alreadyInGuildS⟩)
                  else .ok (g, oldSlot, slot)

def checkInvite (name : Text) : Checked Nat :=
  let normalized := server.normalizePlayerName name maxInternalPlayerName true
  let name := normalized.getD name
  match normalized.bind w.findPlayerByName with
  | none => .error (some ⟨.invite, name, .guildPlayerNotFoundS⟩)
  | some (guid, invited) =>
      match w.ownGuild player with
      | .error reply => .error reply
      | .ok g =>
          if actor ∈ invited.ignores then .error none
          else if ¬server.allowTwoSideInteractionGuild ∧ invited.team ≠ player.team then
            .error (some ⟨.invite, name, .guildNotAllied⟩)
          else if invited.guildId ≠ 0 then .error (some ⟨.invite, invited.name, .alreadyInGuildS⟩)
          else if invited.guildIdInvited ≠ 0 then
            .error (some ⟨.invite, invited.name, .alreadyInvitedToGuildS⟩)
          else if ¬g.hasRankRight player.rank GuildRankRights.invite then
            .error (some ⟨.invite, [], .guildPermissions⟩)
          else .ok guid

def getPlayerTeamByGUID (guid : Nat) : Team :=
  match w.findPlayer guid with
  | some player => player.team
  | none =>
      match server.characters guid with
      | some data => data.team
      | none => .none

def checkAccept : Checked Guild :=
  match w.getGuildById player.guildIdInvited with
  | none => .error none
  | some g =>
      if player.guildId ≠ 0 then .error none
      else if ¬server.allowTwoSideInteractionGuild ∧
          player.team ≠ w.getPlayerTeamByGUID server g.leaderGuid then .error none
      else .ok g

def checkLeave : Checked Guild :=
  match w.ownGuild player with
  | .error reply => .error reply
  | .ok g =>
      if actor = g.leaderGuid ∧ g.members.entries.length > 1 then
        .error (some ⟨.quit, [], .guildLeaderLeave⟩)
      else .ok g

def checkMotd (text : Text) : Checked Guild :=
  if text.length > guildMotdMaxLength then .error none
    else w.guildWithRight player GuildRankRights.setmotd

def checkNote (right : UInt32) (name note : Text) : Checked (Guild × MemberSlot × Text) :=
  match server.normalizePlayerName name maxInternalPlayerName true,
      server.normalizePlayerName note guildNoteMaxLength false with
  | some _, some note =>
      match w.namedMember server player right name with
      | .error reply => .error reply
      | .ok (g, slot) => if note.length > guildNoteMaxLength then .error none
          else .ok (g, slot, note)
  | _, _ => .error none

def checkRank (rankname : Text) : Checked (Guild × Text) :=
  match w.ledGuild actor player with
  | .error reply => .error reply
  | .ok g =>
      match server.normalizePlayerName rankname 25 false with
      | none => .error none
      | some rankname => .ok (g, rankname)

def checkAddRank (rankname : Text) : Checked (Guild × Text) :=
  match server.normalizePlayerName rankname maxInternalPlayerName true with
  | none => .error none
  | some rankname =>
      match w.ledGuild actor player with
      | .error reply => .error reply
      | .ok g => if g.ranks.length ≥ guildRanksMaxCount then .error none else .ok (g, rankname)

def checkInfoText (ginfo : Text) : Checked (Guild × Text) :=
  match server.normalizePlayerName ginfo guildInfoMaxLength false with
  | none => .error none
  | some ginfo =>
      if ginfo.length > guildInfoMaxLength then .error none
      else
        match w.ownGuild player with
        | .error reply => .error reply
        | .ok g =>
            if g.hasRankRight player.rank GuildRankRights.modifyGuildInfo then .ok (g, ginfo)
            else .error (some ⟨.create, [], .guildPermissions⟩)

/-- A guild of the map after a method has worked on it. -/
def commit (site : Guild × World) : World := site.2.putGuild site.1

/-- What follows a `DelMember`. -/
def commitRemoval : Bool × Guild × World → World
  | (true, g, w) => disband g w
  | (false, g, w) => commit (g, w)

def handleCreate (gname : Text) (localeIdx : Nat) : World :=
  if player.guildId ≠ 0 then w
  else
    match create server w actor gname localeIdx with
    | (true, g, w) => w.putGuild g
    | (false, _, w) => w

def handleInvite (name : Text) : World :=
  match w.checkInvite server actor player name with
  | .error _ => w
  | .ok guid => w.modifyPlayer guid fun invited => { invited with guildIdInvited := player.guildId }

def handleRemove (name : Text) : World :=
  match w.checkRemove server player name with
  | .error _ => w
  | .ok (g, slot) => commitRemoval (delMember g w slot.guid false)

def handleAccept : World :=
  match w.checkAccept server player with
  | .error _ => w
  | .ok g => commit (addMember server g w actor g.getLowestRank).2

def handleDecline : World :=
  if player.guildId ≠ 0 ∨ player.guildIdInvited = 0 then w
  else w.modifyPlayer actor fun player => { player with guildIdInvited := 0 }

def handlePromote (name : Text) : World :=
  match w.checkPromote server actor player name with
  | .error _ => w
  | .ok (g, slot) => commit (changeRank g w slot (slot.rankId - 1))

def handleDemote (name : Text) : World :=
  match w.checkDemote server actor player name with
  | .error _ => w
  | .ok (g, slot) => commit (changeRank g w slot (slot.rankId + 1))

def handleLeave : World :=
  match w.checkLeave actor player with
  | .error _ => w
  | .ok g =>
      if actor = g.leaderGuid then disband g w
      else commitRemoval (delMember g w actor false)

def handleDisband : World :=
  match w.ledGuild actor player with
  | .error _ => w
  | .ok g => disband g w

def handleLeader (name : Text) : World :=
  match w.checkLeader server actor player name with
  | .error _ => w
  | .ok (g, oldSlot, slot) => commit (setNewLeader g w slot (some oldSlot))

def handleMOTD (text : Text) : World :=
  match w.checkMotd player text with
  | .error _ => w
  | .ok g => commit (setMOTD g w text)

def handleSetPublicNote (name note : Text) : World :=
  match w.checkNote server player GuildRankRights.epnote name note with
  | .error _ => w
  | .ok (g, slot, note) => commit (setPublicNote g w slot note)

def handleSetOfficerNote (name note : Text) : World :=
  match w.checkNote server player GuildRankRights.eoffnote name note with
  | .error _ => w
  | .ok (g, slot, note) => commit (setOfficerNote g w slot note)

def handleRank (rankId : Nat) (rights : UInt32) (rankname : Text) : World :=
  match w.checkRank server actor player rankname with
  | .error _ => w
  | .ok (g, rankname) =>
      let (g, w) := setRankName g w rankId rankname
      -- the guildmaster keeps every right
      let rights := if rankId = grGuildmaster then GuildRankRights.all else rights
      commit (setRankRights g w rankId rights)

def handleAddRank (rankname : Text) : World :=
  match w.checkAddRank server actor player rankname with
  | .error _ => w
  | .ok (g, rankname) =>
      commit (createRank g w rankname (GuildRankRights.gchatListen ||| GuildRankRights.gchatSpeak))

def handleDelRank : World :=
  match w.ledGuild actor player with
  | .error _ => w
  | .ok g => commit (delRank g w)

def handleChangeInfoText (ginfo : Text) : World :=
  match w.checkInfoText server player ginfo with
  | .error _ => w
  | .ok (g, ginfo) => commit (setGINFO g w ginfo)

/-- One message of a session; the strings of a new guild come in its locale. -/
def handle (localeIdx : Nat) : GuildMessage → World
  | .create gname => w.handleCreate server actor player gname localeIdx
  | .invite name => w.handleInvite server actor player name
  | .remove name => w.handleRemove server player name
  | .accept => w.handleAccept server actor player
  | .decline => w.handleDecline actor player
  | .promote name => w.handlePromote server actor player name
  | .demote name => w.handleDemote server actor player name
  | .leave => w.handleLeave actor player
  | .disband => w.handleDisband actor player
  | .leader name => w.handleLeader server actor player name
  | .motd text => w.handleMOTD player text
  | .setPublicNote name note => w.handleSetPublicNote server player name note
  | .setOfficerNote name note => w.handleSetOfficerNote server player name note
  | .rank rankId rights rankname => w.handleRank server actor player rankId rights rankname
  | .addRank rankname => w.handleAddRank server actor player rankname
  | .delRank => w.handleDelRank actor player
  | .changeInfoText ginfo => w.handleChangeInfoText server player ginfo

end World

structure Sent where
  actor : Nat
  localeIdx : Nat
  message : GuildMessage
  deriving DecidableEq, Repr

def messageStep (server : Server) (w : World) (sent : Sent) : World :=
  match w.findPlayerNotInWorld sent.actor with
  | some player => w.handle server sent.actor player sent.localeIdx sent.message
  | none => w

end TortoiseWow.Guilds
