import Mathlib
import TortoiseWow.Lib.FixedWidth
import TortoiseWow.Lib.OrderedMap
import TortoiseWow.Lib.Run

/-!
A chat channel of Chat/Channel.cpp: its members with their flags, its owner, its
banned players and the operations of members and game masters on it. Every
operation returns the notices it sends. Who is online, with what security, team
and guild, is asked anew at each operation; an empty guid is 0 and finds nobody.
-/

namespace TortoiseWow.Chat

open Lib

def secPlayer : UInt32 := 0
def secObserver : UInt32 := 1

def channelFlagCustom : UInt8 := 0x01
def channelFlagGeneral : UInt8 := 0x10

def memberFlagNone : UInt8 := 0x00
def memberFlagOwner : UInt8 := 0x01
def memberFlagModerator : UInt8 := 0x02
def memberFlagMuted : UInt8 := 0x08

structure PlayerInfo where
  player : UInt64
  flags : UInt8
  deriving DecidableEq

namespace PlayerInfo

def hasFlag (info : PlayerInfo) (flag : UInt8) : Bool := info.flags &&& flag != 0

def setTo (info : PlayerInfo) (flag : UInt8) (state : Bool) : PlayerInfo :=
  { info with flags := if state then info.flags ||| flag else info.flags &&& ~~~flag }

def isOwner (info : PlayerInfo) : Bool := info.hasFlag memberFlagOwner
def setOwner (info : PlayerInfo) (state : Bool) : PlayerInfo := info.setTo memberFlagOwner state
def isModerator (info : PlayerInfo) : Bool := info.hasFlag memberFlagModerator
def setModerator (info : PlayerInfo) (state : Bool) : PlayerInfo :=
  info.setTo memberFlagModerator state
def isMuted (info : PlayerInfo) : Bool := info.hasFlag memberFlagMuted
def setMuted (info : PlayerInfo) (state : Bool) : PlayerInfo := info.setTo memberFlagMuted state

end PlayerInfo

/-- What a channel reads of an online player. -/
structure PlayerPointer where
  guid : UInt64
  security : UInt32
  team : UInt32
  guildId : UInt32

/-- The players who are online at the moment of an operation. -/
structure Accessor where
  getPlayer : UInt64 → Option PlayerPointer
  getPlayerByName : String → Option PlayerPointer
  /-- `sObjectMgr.GetPlayer`, which finds players in the world only -/
  inWorldByName : String → Option PlayerPointer
  getPlayer_empty : getPlayer 0 = none

structure Settings where
  allowTwoSideInteraction : Bool
  silentlyGmJoin : Bool

inductive ChatNotify where
  | joined (guid : UInt64)
  | left (guid : UInt64)
  | youJoined
  | youLeft
  | wrongPassword
  | notMember
  | notModerator
  | passwordChanged (guid : UInt64)
  | ownerChanged (guid : UInt64)
  | playerNotFound (name : String)
  | notOwner
  | modeChange (guid : UInt64) (oldFlags newFlags : UInt8)
  | playerKicked (target source : UInt64)
  | banned
  | playerBanned (target source : UInt64)
  | playerUnbanned (target source : UInt64)
  | playerNotBanned (name : String)
  | playerAlreadyMember (guid : UInt64)

inductive Notice where
  | toOne (guid : UInt64) (notify : ChatNotify)
  | toAll (notify : ChatNotify)

structure Channel where
  announce : Bool
  password : String
  flags : UInt8
  securityLevel : UInt8
  channelId : UInt32
  ownerGuid : UInt64
  players : OrderedMap UInt64 PlayerInfo
  banned : Finset UInt64

namespace Channel

variable (settings : Settings) (accessor : Accessor) (channel : Channel)

def isConstant : Bool := channel.channelId != 0

def hasFlag (flag : UInt8) : Bool := channel.flags &&& flag != 0

def isOn (guid : UInt64) : Bool := (channel.players.find? guid).isSome

def isBanned (guid : UInt64) : Bool := decide (guid ∈ channel.banned)

def getPlayerFlags (guid : UInt64) : UInt8 := ((channel.players.find? guid).map (·.flags)).getD 0

/-- `m_players[guid]` as the target of an assignment: a missing entry is created. -/
def subscript (guid : UInt64) (f : PlayerInfo → PlayerInfo) : Channel :=
  { channel with
    players := channel.players.assign guid (f ((channel.players.find? guid).getD ⟨0, 0⟩)) }

def moderates (guid : UInt64) : Bool :=
  ((channel.players.find? guid).getD ⟨0, 0⟩).isModerator

def securityOf (guid : UInt64) : UInt32 :=
  ((accessor.getPlayer guid).map (·.security)).getD secPlayer

/-- Joins and leaves of game masters are announced unless the settings hide them. -/
def announces (guid : UInt64) : Bool :=
  channel.announce && (decide (securityOf accessor guid < secObserver) || !settings.silentlyGmJoin)

def setModerator (guid : UInt64) (set : Bool) : Channel × List Notice :=
  if channel.moderates guid ≠ set then
    let oldFlag := channel.getPlayerFlags guid
    let channel := channel.subscript guid (·.setModerator set)
    (channel, [.toAll (.modeChange guid oldFlag (channel.getPlayerFlags guid))])
  else (channel, [])

def setMute (guid : UInt64) (set : Bool) : Channel × List Notice :=
  if ((channel.players.find? guid).getD ⟨0, 0⟩).isMuted ≠ set then
    let oldFlag := channel.getPlayerFlags guid
    let channel := channel.subscript guid (·.setMuted set)
    (channel, [.toAll (.modeChange guid oldFlag (channel.getPlayerFlags guid))])
  else (channel, [])

/-- The players that `SetOwner` does not turn away. -/
def accepts (guid : UInt64) : Bool :=
  match accessor.getPlayer guid with
  | none => false
  | some player => !(channel.hasFlag channelFlagGeneral && decide (player.security < secObserver))

/-- The owner flag is taken from an owner that is still a member. -/
def releaseOwner : Channel :=
  match channel.players.find? channel.ownerGuid with
  | some info =>
      { channel with players := channel.players.assign channel.ownerGuid (info.setOwner false) }
  | none => channel

def setOwner (guid : UInt64) (exclaim : Bool) : Channel × List Notice :=
  if !channel.accepts accessor guid then (channel, [])
  else
    let channel := if channel.ownerGuid ≠ 0 then channel.releaseOwner else channel
    let channel := { channel with ownerGuid := guid }
    if guid ≠ 0 then
      let oldFlag := channel.getPlayerFlags guid
      let channel := channel.subscript guid (·.setOwner true)
      (channel, .toAll (.modeChange guid oldFlag (channel.getPlayerFlags guid)) ::
        if exclaim then [.toAll (.ownerChanged guid)] else [])
    else (channel, [])

def join (guid : UInt64) (password : String) (checkPassword : Bool) : Channel × List Notice :=
  if channel.isOn guid then
    (channel, if !channel.isConstant then [.toOne guid (.playerAlreadyMember guid)] else [])
  else if channel.isBanned guid then (channel, [.toOne guid .banned])
  else if checkPassword ∧ channel.password.length > 0 ∧ password ≠ channel.password then
    (channel, [.toOne guid .wrongPassword])
  else if channel.securityLevel ≠ 0 ∧
      (accessor.getPlayer guid).all fun player =>
        player.security < channel.securityLevel.toUInt32 then
    (channel, [.toOne guid .wrongPassword])
  else if (accessor.getPlayer guid).any fun player =>
    player.guildId != 0 && channel.flags == 0x38 then
    (channel, [])
  else
    let notices :=
      (if channel.announces settings accessor guid then [.toAll (.joined guid)] else []) ++
      [.toOne guid .youJoined]
    let channel := { channel with players := channel.players.assign guid ⟨guid, memberFlagNone⟩ }
    -- if no owner first logged will become
    if channel.hasFlag channelFlagCustom ∧ !channel.isConstant ∧ channel.ownerGuid = 0 then
      let owned := channel.setOwner accessor guid (decide (channel.players.entries.length > 1))
      (owned.1.subscript guid (·.setModerator true), notices ++ owned.2)
    else (channel, notices)

def leave (guid : UInt64) (send : Bool) : Channel × List Notice :=
  match channel.players.find? guid with
  | none => (channel, if send then [.toOne guid .notMember] else [])
  | some info =>
      let notices := (if send then [.toOne guid .youLeft] else []) ++
        if channel.announces settings accessor guid then [.toAll (.left guid)] else []
      let channel := { channel with players := channel.players.erase guid }
      if info.isOwner then
        let newowner := match channel.players.entries with
          | [] => 0
          | first :: _ => first.2.player
        let owned := channel.setOwner accessor newowner true
        (owned.1, notices ++ owned.2)
      else (channel, notices)

/-- The checks that every command of a member begins with. -/
def refuses (guid : UInt64) : Option ChatNotify :=
  if !channel.isOn guid then some .notMember
  else if !channel.moderates guid ∧ securityOf accessor guid < secObserver then some .notModerator
  else none

def kickOrBan (guid : UInt64) (targetName : String) (ban : Bool) : Channel × List Notice :=
  match channel.refuses accessor guid with
  | some refusal => (channel, [.toOne guid refusal])
  | none =>
      match accessor.inWorldByName targetName with
      | none => (channel, [.toOne guid (.playerNotFound targetName)])
      | some target =>
          if !channel.isOn target.guid then (channel, [.toOne guid (.playerNotFound targetName)])
          else
            let changeowner := channel.ownerGuid = target.guid
            if securityOf accessor guid < secObserver ∧ changeowner ∧ guid ≠ channel.ownerGuid then
              (channel, [.toOne guid .notOwner])
            else
              let bans := ban && !channel.isBanned target.guid
              let notice : Notice :=
                .toAll
                  (if bans then .playerBanned target.guid guid else .playerKicked target.guid guid)
              let channel := { channel with
                banned := if bans then insert target.guid channel.banned else channel.banned
                players := channel.players.erase target.guid }
              if changeowner then
                let newowner := if channel.players.entries ≠ [] then guid else 0
                let owned := channel.setOwner accessor newowner true
                (owned.1, notice :: owned.2)
              else (channel, [notice])

def unBan (guid : UInt64) (targetName : String) : Channel × List Notice :=
  match channel.refuses accessor guid with
  | some refusal => (channel, [.toOne guid refusal])
  | none =>
      match accessor.inWorldByName targetName with
      | none => (channel, [.toOne guid (.playerNotFound targetName)])
      | some target =>
          if !channel.isBanned target.guid
            then (channel, [.toOne guid (.playerNotBanned targetName)])
          else
            ({ channel with banned := channel.banned.erase target.guid },
              [.toAll (.playerUnbanned target.guid guid)])

def setPassword (guid : UInt64) (password : String) : Channel × List Notice :=
  match channel.refuses accessor guid with
  | some refusal => (channel, [.toOne guid refusal])
  | none => ({ channel with password := password }, [.toAll (.passwordChanged guid)])

def setMode (guid : UInt64) (targetName : String) (moderator set : Bool) : Channel × List Notice :=
  match accessor.getPlayer guid with
  | none => (channel, [])
  | some player =>
      match channel.refuses accessor guid with
      | some refusal => (channel, [.toOne guid refusal])
      | none =>
          match accessor.getPlayerByName targetName with
          | none => (channel, [.toOne guid (.playerNotFound targetName)])
          | some target =>
              if moderator ∧ guid = channel.ownerGuid ∧ target.guid = channel.ownerGuid then
                (channel, [])
              else if !channel.isOn target.guid then
                (channel, [.toOne guid (.playerNotFound targetName)])
              -- a moderator of the other team only if both are game masters
              else if (player.security < secObserver ∨ target.security < secObserver) ∧
                  player.team ≠ target.team ∧ !settings.allowTwoSideInteraction then
                (channel, [.toOne guid (.playerNotFound targetName)])
              else if channel.ownerGuid = target.guid ∧ channel.ownerGuid ≠ guid then
                (channel, [.toOne guid .notOwner])
              else if moderator then
                if channel.hasFlag channelFlagGeneral ∧ target.security < secObserver then
                  (channel, [])
                else channel.setModerator target.guid set
              else channel.setMute target.guid set

def setOwnerByName (guid : UInt64) (targetName : String) : Channel × List Notice :=
  match accessor.getPlayer guid with
  | none => (channel, [])
  | some player =>
      if !channel.isOn guid then (channel, [.toOne guid .notMember])
      else if player.security < secObserver ∧ guid ≠ channel.ownerGuid then
        (channel, [.toOne guid .notOwner])
      else
        match accessor.inWorldByName targetName with
        | none => (channel, [.toOne guid (.playerNotFound targetName)])
        | some target =>
            if !channel.isOn target.guid then (channel, [.toOne guid (.playerNotFound targetName)])
            else if target.team ≠ player.team ∧ !settings.allowTwoSideInteraction then
              (channel, [.toOne guid (.playerNotFound targetName)])
            else if channel.hasFlag channelFlagGeneral ∧ target.security < secObserver then
              (channel, [])
            else
              (channel.subscript target.guid (·.setModerator true)).setOwner accessor
                target.guid true

end Channel

/-- One operation with the players online at its time. -/
inductive Command where
  | join (guid : UInt64) (password : String) (checkPassword : Bool)
  | leave (guid : UInt64) (send : Bool)
  | kickOrBan (guid : UInt64) (targetName : String) (ban : Bool)
  | unBan (guid : UInt64) (targetName : String)
  | password (guid : UInt64) (password : String)
  | setMode (guid : UInt64) (targetName : String) (moderator set : Bool)
  | setOwner (guid : UInt64) (targetName : String)

namespace Channel

def perform (settings : Settings) (channel : Channel) (accessor : Accessor) :
    Command → Channel × List Notice
  | .join guid password checkPassword => channel.join settings accessor guid password checkPassword
  | .leave guid send => channel.leave settings accessor guid send
  | .kickOrBan guid targetName ban => channel.kickOrBan accessor guid targetName ban
  | .unBan guid targetName => channel.unBan accessor guid targetName
  | .password guid password => channel.setPassword accessor guid password
  | .setMode guid targetName moderator set =>
      channel.setMode settings accessor guid targetName moderator set
  | .setOwner guid targetName => channel.setOwnerByName settings accessor guid targetName

def step (settings : Settings) (channel : Channel) (event : Accessor × Command) : Channel :=
  (channel.perform settings event.1 event.2).1

end Channel

end TortoiseWow.Chat
