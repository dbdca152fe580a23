import TortoiseWow.Battleground.Representation

/-!
The way of an invited player: invitation, port, arrival and leaving, and what else
removes him from the queue. Each event is one call on the world thread.
-/

namespace TortoiseWow.Battleground

/-- What HandleBattleFieldPortOpcode reads about the player besides the queue. -/
structure PortState where
  action : Bool
  inBattleGroundQueue : Bool := true
  canJoin : Bool := true
  inPvPCombat : Bool := false
  levelAllowed : Bool := true
  isInvited : Bool := true
  currentBattleGround : Option UInt32 := none
  deriving Repr, DecidableEq

namespace State

/-- CreateNewBattleGround and StartBattleGround. The invitations of Update that come
between the two do not look at the registered battlegrounds. -/
def startNewBattleGround (config : Config) (s : State) (bracket : Bracket) (template : Template)
    (otherInstances : Nat) : State :=
  let s := { s with maxInstanceId := s.maxInstanceId + UInt32.ofNat otherInstances + 1 }
  s.startBattleGround (s.createNewBattleGround config bracket template)

def inviteGroup (config : Config) (find : Guid → Option PlayerState) (now : UInt32) (s : State)
    (ptr : Ptr) (instanceID : UInt32) : State :=
  match s.getBattleGround instanceID config.bgTypeId with
  | none => s
  | some bg =>
      let invited := s.inviteGroupToBG find now ptr bg
      invited.1.putBattleGround invited.2

/-- A leaving participant is counted out. The battleground has free slots again
unless it is over. -/
def removePlayerAtLeave (config : Config) (s : State) (guid : Guid) (instanceID : UInt32) : State :=
  match s.getBattleGround instanceID config.bgTypeId with
  | none => s
  | some bg =>
      match bg.players.find? (·.1 == guid) with
      | none => s
      | some entry =>
          { s.modifyBattleGround instanceID config.bgTypeId fun bg =>
              { bg with players := bg.players.erase entry }.decreaseInvitedCount entry.2 with
            counted := s.counted.erase (guid, instanceID, entry.2)
            freeSlotQueue :=
              if bg.status = .waitLeave ∨ instanceID ∈ s.freeSlotQueue then s.freeSlotQueue
              else instanceID :: s.freeSlotQueue }

def enter (config : Config) (s : State) (guid : Guid) (ginfo : GroupQueueInfo)
    (currentBattleGround : Option UInt32) : State :=
  let s := s.removePlayer guid false
  let s :=
    match currentBattleGround with
    | some instanceID => s.removePlayerAtLeave config guid instanceID
    | none => s
  { s with ported := (guid, ginfo.isInvitedToBGInstanceGUID, ginfo.groupTeam) :: s.ported }

def handleBattleFieldPort (config : Config) (s : State) (guid : Guid) (player : PortState) :
    State :=
  match s.queuedPlayers.find? guid with
  | none => s
  | some info =>
      match s.groups.entry info.groupInfo with
      | none => s
      | some ginfo =>
          if !player.inBattleGroundQueue then s
          else if !player.action then s.removePlayer guid true
          else if ginfo.isInvitedToBGInstanceGUID = 0 then s
          else
            match s.getBattleGround ginfo.isInvitedToBGInstanceGUID config.bgTypeId with
            | none => s
            | some bg =>
                if player.inPvPCombat then s
                else if !player.canJoin || !player.levelAllowed || bg.status == .waitLeave then
                  s.removePlayer guid true
                else if player.isInvited then
                  s.enter config guid ginfo player.currentBattleGround
                else s

def addPlayer (config : Config) (s : State) (guid : Guid) (instanceID : UInt32) : State :=
  match s.ported.find? fun entry => entry.1 == guid && entry.2.1 == instanceID with
  | none => s
  | some entry =>
      match s.getBattleGround instanceID config.bgTypeId with
      | none => s
      | some _ =>
          { s.modifyBattleGround instanceID config.bgTypeId fun bg =>
              { bg with players := bg.players.filter (·.1 != guid) ++ [(guid, entry.2.2)] } with
            ported := s.ported.erase entry }

/-- An invitation expires. -/
def processQueueInviteRemoval (s : State) (guid : Guid) (bgInstanceGuid : UInt32)
    (removeTime : UInt32) (found : Bool) : State :=
  if found && s.isPlayerInvited guid bgInstanceGuid removeTime then s.removePlayer guid true else s

def endBattleGround (config : Config) (s : State) (instanceID : UInt32) : State :=
  s.modifyBattleGround instanceID config.bgTypeId fun bg => { bg with status := .waitLeave }

def removeBattleGround (s : State) (instanceID : UInt32) : State :=
  { s with
    battleGrounds := s.battleGrounds.filter (·.instanceID != instanceID)
    freeSlotQueue := s.freeSlotQueue.erase instanceID }

end State

inductive BattleEvent where
  | addGroup (leader : Joining) (party : Option Party) (request : JoinRequest)
  | start (bracket : Bracket) (template : Template) (otherInstances : Nat)
  | invite (ptr : Ptr) (instanceID : UInt32) (find : Guid → Option PlayerState) (now : UInt32)
  | removePlayer (guid : Guid)
  | purge (now : UInt32)
  | expire (guid : Guid) (bgInstanceGuid : UInt32) (removeTime : UInt32) (found : Bool)
  | port (guid : Guid) (player : PortState)
  | arrive (guid : Guid) (instanceID : UInt32)
  | leave (guid : Guid) (instanceID : UInt32)
  | loggedOut (guid : Guid) (now : UInt32)
  | loggedIn (guid : Guid)
  | finish (instanceID : UInt32)
  | delete (instanceID : UInt32)

namespace State

def battleStep (config : Config) (s : State) : BattleEvent → State
  | .addGroup leader party request => s.addGroup config.groupLimit leader party request
  | .start bracket template otherInstances =>
      s.startNewBattleGround config bracket template otherInstances
  | .invite ptr instanceID find now => s.inviteGroup config find now ptr instanceID
  | .removePlayer guid => s.removePlayer guid true
  | .purge now => s.purge now s.queuedPlayers.entries.length
  | .expire guid bgInstanceGuid removeTime found =>
      s.processQueueInviteRemoval guid bgInstanceGuid removeTime found
  | .port guid player => s.handleBattleFieldPort config guid player
  | .arrive guid instanceID => s.addPlayer config guid instanceID
  | .leave guid instanceID => s.removePlayerAtLeave config guid instanceID
  | .loggedOut guid now => s.playerLoggedOut guid now
  | .loggedIn guid => s.playerLoggedIn guid
  | .finish instanceID => s.endBattleGround config instanceID
  | .delete instanceID => s.removeBattleGround instanceID

def battleRun (config : Config) (s : State) (events : List BattleEvent) : State :=
  Lib.run (battleStep config) s events

/-- What the callers of AddGroup see to, and an invitation that skips nobody: each
member of the group is in the world, connected, not logging out and not in a
battleground. The instance ids do not wrap. -/
def SkipsNobody (config : Config) (s : State) : BattleEvent → Prop
  | .addGroup leader party request =>
      (∀ guid ∈ joiners leader party request, s.queuedPlayers.find? guid = none) ∧
        request.bgTypeId = config.bgTypeId
  | .start _ _ otherInstances => s.maxInstanceId.toNat + otherInstances + 1 < 2 ^ 32
  | .invite ptr instanceID find _ =>
      (s.getBattleGround instanceID config.bgTypeId).isSome →
        ∀ ginfo, s.groups.entry ptr = some ginfo → ginfo.isInvitedToBGInstanceGUID = 0 →
          ∀ guid ∈ ginfo.players, isInvitable find guid = true
  | _ => True

end State

end TortoiseWow.Battleground
