import TortoiseWow.Lib.OrderedMap
import TortoiseWow.Lib.Run

/-!
The battleground queue of one battleground type: queued players and groups that
point to each other, the lists of groups by bracket, kind and team, and the
battlegrounds with their counters of invited players. Map threads only post
requests; the world thread runs everything here, one operation at a time.
-/

namespace TortoiseWow.Battleground

abbrev Guid := Nat

/-- The place of a group on the heap. -/
abbrev Ptr := Nat

abbrev Bracket := Fin 8

inductive Team where
  | alliance
  | horde
  deriving Repr, DecidableEq

/-- The group types are a kind and a team. -/
inductive Kind where
  | premade
  | normal
  deriving Repr, DecidableEq

inductive TypeId where
  | av
  | ws
  | ab
  | br
  | sv
  | tg
  deriving Repr, DecidableEq

inductive Status where
  | none
  | waitQueue
  | waitJoin
  | inProgress
  | waitLeave
  deriving Repr, DecidableEq

/-- Of the player map only the keys matter; their order is not observed. -/
structure GroupQueueInfo where
  players : List Guid := []
  groupTeam : Team
  bgTypeId : TypeId
  joinTime : UInt32
  removeInviteTime : UInt32 := 0
  isInvitedToBGInstanceGUID : UInt32 := 0
  desiredInstanceId : Nat
  bracketId : Bracket
  deriving Repr, DecidableEq

structure PlayerQueueInfo where
  online : Bool
  lastOnlineTime : UInt32
  groupInfo : Ptr
  deriving Repr, DecidableEq

structure Heap where
  entry : Ptr → Option GroupQueueInfo := fun _ => none
  next : Ptr := 0

def Heap.modify (heap : Heap) (ptr : Ptr) (f : GroupQueueInfo → GroupQueueInfo) : Heap :=
  { heap with entry := Function.update heap.entry ptr ((heap.entry ptr).map f) }

structure BattleGround where
  instanceID : UInt32
  clientInstanceID : Nat
  typeID : TypeId
  bracketId : Bracket
  status : Status
  maxPlayersPerTeam : Nat
  maxPlayers : Nat
  invitedAlliance : UInt32 := 0
  invitedHorde : UInt32 := 0
  players : List (Guid × Team) := []
  deriving Repr, DecidableEq

namespace BattleGround

def increaseInvitedCount (bg : BattleGround) : Team → BattleGround
  | .alliance => { bg with invitedAlliance := bg.invitedAlliance + 1 }
  | .horde => { bg with invitedHorde := bg.invitedHorde + 1 }

def decreaseInvitedCount (bg : BattleGround) : Team → BattleGround
  | .alliance => { bg with invitedAlliance := bg.invitedAlliance - 1 }
  | .horde => { bg with invitedHorde := bg.invitedHorde - 1 }

def getInvitedCount (bg : BattleGround) : Team → UInt32
  | .alliance => bg.invitedAlliance
  | .horde => bg.invitedHorde

def isArena (bg : BattleGround) : Bool := bg.typeID == .br

def getFreeSlotsForTeam (bg : BattleGround) (team : Team) : Nat :=
  if bg.status = .waitJoin ∨ bg.status = .inProgress then
    bg.maxPlayersPerTeam - (bg.getInvitedCount team).toNat
  else 0

def hasFreeSlots (bg : BattleGround) : Bool := decide (bg.players.length < bg.maxPlayers)

end BattleGround

structure SelectionPool where
  selectedGroups : List Ptr := []
  playerCount : Nat := 0
  deriving Repr, DecidableEq

/-- What was in the pools when a battleground was created. -/
structure Creation where
  pools : Team → SelectionPool
  groups : Heap
  minPlayersPerTeam : Nat
  maxPlayersPerTeam : Nat

/-- The queue and its battlegrounds. `counted` are the players that raised an
invited counter and neither left it through RemovePlayer nor by leaving the
battleground; `ported` those on their way into it. `observed`, `creations`,
`endIncremented` and `groupInfoMissing` record what happened. -/
structure State where
  groups : Heap := {}
  queuedPlayers : Lib.OrderedMap Guid PlayerQueueInfo := .empty
  queuedGroups : Bracket → Kind → Team → List Ptr := fun _ _ _ => []
  selectionPools : Team → SelectionPool := fun _ => {}
  battleGrounds : List BattleGround := []
  freeSlotQueue : List UInt32 := []
  maxInstanceId : UInt32 := 0
  counted : List (Guid × UInt32 × Team) := []
  ported : List (Guid × UInt32 × Team) := []
  observed : List SelectionPool := []
  creations : List Creation := []
  endIncremented : Bool := false
  groupInfoMissing : Bool := false

structure PlayerState where
  inBattleGround : Bool := false
  taxiFlying : Bool := false
  connected : Bool := true
  logingOut : Bool := false
  deriving Repr, DecidableEq

structure Joining where
  guid : Guid
  team : Team
  deriving Repr, DecidableEq

structure Party where
  members : List Joining
  membersCount : Nat
  distinct : (members.map (·.guid)).Nodup

/-- What the caller of AddGroup asks for. -/
structure JoinRequest where
  bgTypeId : TypeId
  bracketId : Bracket
  isPremade : Bool
  instanceId : Nat
  excludedMembers : List Guid := []
  now : UInt32
  deriving Repr, DecidableEq

namespace State

def setGroups (s : State) (bracket : Bracket) (kind : Kind) (team : Team) (list : List Ptr) :
    State :=
  { s with queuedGroups := fun b k t =>
      if b = bracket ∧ k = kind ∧ t = team then list else s.queuedGroups b k t }

def modifyGroup (s : State) (ptr : Ptr) (f : GroupQueueInfo → GroupQueueInfo) : State :=
  { s with groups := s.groups.modify ptr f }

def allocate (s : State) (leader : Joining) (request : JoinRequest) : Ptr × State :=
  let ginfo : GroupQueueInfo :=
    { groupTeam := leader.team
      bgTypeId := request.bgTypeId
      joinTime := request.now
      desiredInstanceId := request.instanceId
      bracketId := request.bracketId }
  (s.groups.next, { s with groups :=
    { entry := Function.update s.groups.entry s.groups.next (some ginfo)
      next := s.groups.next + 1 } })

def enqueue (s : State) (ptr : Ptr) (guid : Guid) : State :=
  let info : PlayerQueueInfo := { online := true, lastOnlineTime := 0, groupInfo := ptr }
  let s := { s with queuedPlayers := s.queuedPlayers.assign guid info }
  s.modifyGroup ptr fun ginfo => { ginfo with players := ginfo.players.insert guid }

/-- The group goes to the end of its list, unless nobody is in it. -/
def list (s : State) (ptr : Ptr) (kind : Kind) : State :=
  match s.groups.entry ptr with
  | some ginfo =>
      if ginfo.players = [] then s
      else s.setGroups ginfo.bracketId kind ginfo.groupTeam
        (s.queuedGroups ginfo.bracketId kind ginfo.groupTeam ++ [ptr])
  | none => s

def kindOf (isPremade : Bool) : Kind := if isPremade then .premade else .normal

def addSolo (s : State) (leader : Joining) (request : JoinRequest) : State :=
  let (ptr, s) := s.allocate leader request
  (s.enqueue ptr leader.guid).list ptr (kindOf request.isPremade)

def addMember (groupLimit : Nat) (party : Party) (request : JoinRequest) (ptr : Ptr) (s : State)
    (member : Joining) : State :=
  if member.guid ∈ request.excludedMembers then s
  else if groupLimit < party.membersCount then
    s.addSolo member { request with isPremade := false, excludedMembers := [] }
  else s.enqueue ptr member.guid

def addGroup (groupLimit : Nat) (s : State) (leader : Joining) (party : Option Party)
    (request : JoinRequest) : State :=
  match party with
  | none => s.addSolo leader request
  | some party =>
      let (ptr, s) := s.allocate leader request
      (party.members.foldl (addMember groupLimit party request ptr) s).list ptr
        (kindOf request.isPremade)

/-- Where RemovePlayer finds a group: in the highest bracket that has it, and there
in the normal list if it is in both. -/
def findGroup (s : State) (ptr : Ptr) (team : Team) : Option (Bracket × Kind) :=
  (List.finRange 8).reverse.findSome? fun bracket =>
    if ptr ∈ s.queuedGroups bracket .normal team then some (bracket, .normal)
    else if ptr ∈ s.queuedGroups bracket .premade team then some (bracket, .premade)
    else none

def getBattleGround (s : State) (instanceID : UInt32) (bgTypeId : TypeId) : Option BattleGround :=
  s.battleGrounds.find? fun bg => bg.instanceID == instanceID && bg.typeID == bgTypeId

def modifyBattleGround (s : State) (instanceID : UInt32) (bgTypeId : TypeId)
    (f : BattleGround → BattleGround) : State :=
  { s with battleGrounds := s.battleGrounds.map fun bg =>
      if bg.instanceID = instanceID ∧ bg.typeID = bgTypeId then f bg else bg }

def decreaseInvited (s : State) (guid : Guid) (group : GroupQueueInfo) : State :=
  { s.modifyBattleGround group.isInvitedToBGInstanceGUID group.bgTypeId
      (·.decreaseInvitedCount group.groupTeam) with
    counted := s.counted.erase (guid, group.isInvitedToBGInstanceGUID, group.groupTeam) }

def unlink (s : State) (guid : Guid) (ptr : Ptr) : State :=
  let s := s.modifyGroup ptr fun ginfo => { ginfo with players := ginfo.players.erase guid }
  { s with queuedPlayers := s.queuedPlayers.erase guid }

/-- An empty group leaves its list and is deleted. -/
def unlist (s : State) (ptr : Ptr) (place : Bracket × Kind) (team : Team) : State :=
  { s.setGroups place.1 place.2 team ((s.queuedGroups place.1 place.2 team).erase ptr) with
    groups := { s.groups with entry := Function.update s.groups.entry ptr none } }

def removePlayer (s : State) (guid : Guid) (decreaseInvitedCount : Bool) : State :=
  match s.queuedPlayers.find? guid with
  | none => s
  | some info =>
      match s.groups.entry info.groupInfo with
      | none => s
      | some group =>
          let place := s.findGroup info.groupInfo group.groupTeam
          let s := if decreaseInvitedCount ∧ group.isInvitedToBGInstanceGUID ≠ 0 then
              s.decreaseInvited guid group
            else s
          let s := s.unlink guid info.groupInfo
          match place with
          | none => { s with groupInfoMissing := true }
          | some place =>
              if group.players.erase guid = [] then s.unlist info.groupInfo place group.groupTeam
              else s

def playerLoggedOut (s : State) (guid : Guid) (now : UInt32) : State :=
  match s.queuedPlayers.find? guid with
  | none => s
  | some info =>
      let info := { info with lastOnlineTime := now, online := false }
      { s with queuedPlayers := s.queuedPlayers.assign guid info }

def playerLoggedIn (s : State) (guid : Guid) : State :=
  match s.queuedPlayers.find? guid with
  | none => s
  | some info =>
      { s with queuedPlayers := s.queuedPlayers.assign guid { info with online := true } }

/-- InviteGroupToBG skips members that are offline, logging out or in a battleground. -/
def isInvitable (find : Guid → Option PlayerState) (guid : Guid) : Bool :=
  match find guid with
  | some player => player.connected && !player.logingOut && !player.inBattleGround
  | none => false

def inviteAcceptWaitTime : UInt32 := 80000

def markInvited (s : State) (now : UInt32) (ptr : Ptr) (bg : BattleGround) : State :=
  s.modifyGroup ptr fun ginfo =>
    { ginfo with
      isInvitedToBGInstanceGUID := bg.instanceID
      removeInviteTime := now + inviteAcceptWaitTime }

/-- The battleground is passed along, as a new one is not registered yet. The side
is always the team of the group. -/
def inviteGroupToBG (find : Guid → Option PlayerState) (now : UInt32) (s : State) (ptr : Ptr)
    (bg : BattleGround) : State × BattleGround :=
  match s.groups.entry ptr with
  | none => (s, bg)
  | some ginfo =>
      if ginfo.isInvitedToBGInstanceGUID = 0 then
        let invited := ginfo.players.filter (isInvitable find)
        ({ s.markInvited now ptr bg with
            counted := s.counted ++
              invited.map fun guid => (guid, bg.instanceID, ginfo.groupTeam) },
          invited.foldl (fun bg _ => bg.increaseInvitedCount ginfo.groupTeam) bg)
      else (s, bg)

def isPlayerInvited (s : State) (guid : Guid) (bgInstanceGuid : UInt32) (removeTime : UInt32) :
    Bool :=
  match s.queuedPlayers.find? guid with
  | none => false
  | some info =>
      match s.groups.entry info.groupInfo with
      | none => false
      | some group =>
          group.isInvitedToBGInstanceGUID == bgInstanceGuid && group.removeInviteTime == removeTime

end State

end TortoiseWow.Battleground
