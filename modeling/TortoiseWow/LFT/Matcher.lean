import TortoiseWow.Lib.FixedWidth
import TortoiseWow.Lib.OrderedMap

/-!
The matcher of src/game/LFT/LFTQeueue.cpp. For every queued player as a seed the queue is
walked in its order, and each block of players that queued together is taken if it fits.
The guid of a queued player is his key in the queue, and a walk over the keys of the queue
finds every one of them. `m_signedUpRole` and the messages have no counterpart.
-/

namespace TortoiseWow.LFT

open Lib

abbrev ObjectGuid := Nat

inductive Role where
  | tank
  | healer
  | damage
  deriving Repr, DecidableEq

def Role.bit : Role → UInt8
  | tank => 1
  | healer => 2
  | damage => 4

/-- How many players of a group have the role. -/
def Role.capacity : Role → Nat
  | tank => 1
  | healer => 1
  | damage => 3

def pickRole (roleMask : UInt8) (tankCount healerCount damageCount : Nat) : Option Role :=
  if roleMask &&& Role.tank.bit ≠ 0 ∧ tankCount < 1 then some .tank
  else if roleMask &&& Role.healer.bit ≠ 0 ∧ healerCount < 1 then some .healer
  else if roleMask &&& Role.damage.bit ≠ 0 ∧ damageCount < 3 then some .damage
  else none

structure Player where
  team : UInt32
  level : Nat
  isHardcore : Bool := false
  deriving Repr, DecidableEq

inductive HardcoreInteractionResult where
  | allowed
  | targetNotHardcore
  | notHardcore
  | levelLimitExceeded
  deriving Repr, DecidableEq

def Player.handleHardcoreInteraction (player target : Player) (checkLevelDiff : Bool) :
    HardcoreInteractionResult :=
  if !player.isHardcore && !target.isHardcore then .allowed
  else if player.isHardcore then
    if !target.isHardcore then .targetNotHardcore
    else if checkLevelDiff && 5 < ((player.level : Int) - target.level).natAbs then
      .levelLimitExceeded
    else .allowed
  else if target.isHardcore then .notHardcore
  else .allowed

/-- The players in the world and the setting for groups of both teams. -/
structure Realm where
  getPlayer : ObjectGuid → Option Player
  allowTwoSideInteractionGroup : Bool := false

def Realm.canPlayersGroup (realm : Realm) (leader member : Player) : Bool :=
  if !realm.allowTwoSideInteractionGroup && leader.team != member.team then false
  else leader.handleHardcoreInteraction member true == .allowed

structure QueuedPlayer where
  queueLeaderGuid : ObjectGuid
  team : UInt32
  isHardcore : Bool := false
  queueOrder : Nat
  instances : List String
  roleMask : UInt8
  assignedRole : Option Role
  deriving Repr, DecidableEq

abbrev Entry := ObjectGuid × QueuedPlayer

def blockLeader (entry : Entry) : ObjectGuid :=
  if entry.2.queueLeaderGuid = 0 then entry.1 else entry.2.queueLeaderGuid

structure Offer where
  inst : String
  roles : OrderedMap ObjectGuid Role
  accepted : List ObjectGuid := []

structure LFTManager where
  queue : OrderedMap ObjectGuid QueuedPlayer := .empty
  offers : OrderedMap UInt32 Offer := .empty
  playerOffers : OrderedMap ObjectGuid UInt32 := .empty
  nextOfferId : UInt32 := 1

def Realm.canQueuedPlayersGroup (realm : Realm) (seed candidate : Entry) : Bool :=
  match realm.getPlayer seed.1, realm.getPlayer candidate.1 with
  | some seedPlayer, some candidatePlayer => realm.canPlayersGroup seedPlayer candidatePlayer
  | _, _ =>
      if !realm.allowTwoSideInteractionGroup && seed.2.team != candidate.2.team then false
      else seed.2.isHardcore == candidate.2.isHardcore

def before (left right : Entry) : Prop :=
  left.2.queueOrder < right.2.queueOrder ∨
    left.2.queueOrder = right.2.queueOrder ∧ left.1 ≤ right.1

instance : DecidableRel before := fun _ _ => inferInstanceAs (Decidable (_ ∨ _))

/-- The players chosen so far with their roles, and how many there are of each role. -/
structure Team where
  roles : List (Entry × Role) := []
  count : Role → Nat := fun _ => 0

def Team.members (team : Team) : List Entry := team.roles.map (·.1)

def Team.take (team : Team) (entry : Entry) (role : Role) : Team :=
  { roles := team.roles ++ [(entry, role)]
    count := fun r => if r = role then team.count r + 1 else team.count r }

def Team.pick (team : Team) (entry : Entry) : Option Role :=
  pickRole entry.2.roleMask (team.count .tank) (team.count .healer) (team.count .damage)

def Team.complete (team : Team) : Bool :=
  team.count .tank == 1 && team.count .healer == 1 && team.count .damage == 3 &&
    team.roles.length == 5

namespace LFTManager

variable (lfg : LFTManager)

def getQueueOrder : List Entry := lfg.queue.entries.insertionSort before

/-- Not in an offer, and the instance is in the list. -/
def waitsFor (inst : String) (entry : Entry) : Bool :=
  (lfg.playerOffers.find? entry.1).isNone && entry.2.instances.contains inst

def block (entry : Entry) : List Entry :=
  lfg.getQueueOrder.filter fun other => blockLeader other = blockLeader entry

variable (realm : Realm) (inst : String) (seed : Entry)

/-- The loop over a block: `fitted` has the players of the block so far, and the counts of
the team with them. -/
def fitBlock (team : Team) : List Entry → Team → Option Team
  | [], fitted => some fitted
  | entry :: rest, fitted =>
      if entry ∈ team.members ∨ ¬ lfg.waitsFor inst entry ∨
          ¬ realm.canQueuedPlayersGroup seed entry then none
      else
        match fitted.pick entry with
        | none => none
        | some role => fitBlock team rest (fitted.take entry role)

/-- One candidate of the walk. A full team stays as it is, as if the walk had ended. -/
def consider (team : Team) (candidate : Entry) : Team :=
  if 5 ≤ team.roles.length then team
  else if candidate ∈ team.members ∨ ¬ lfg.waitsFor inst candidate ∨
      ¬ realm.canQueuedPlayersGroup seed candidate then team
  else
    match lfg.fitBlock realm inst seed team (lfg.block candidate) { team with roles := [] } with
    | none => team
    | some fitted =>
        if fitted.roles = [] ∨ 5 < team.roles.length + fitted.roles.length then team
        else { fitted with roles := team.roles ++ fitted.roles }

def buildTeam : Team := lfg.getQueueOrder.foldl (lfg.consider realm inst seed) {}

/-- The loop over the seeds, up to the first that gives a complete team. -/
def findTeam : Option Team :=
  lfg.getQueueOrder.findSome? fun seed =>
    if lfg.waitsFor inst seed then
      let team := lfg.buildTeam realm inst seed
      if team.complete then some team else none
    else none

def selectedRoles (team : Team) : OrderedMap ObjectGuid Role :=
  team.roles.foldl (fun roles member => roles.assign member.1.1 member.2) .empty

def offerTo (offerId : UInt32) (lfg : LFTManager) (member : Entry × Role) : LFTManager :=
  { lfg with
    queue := lfg.queue.assign member.1.1 { member.1.2 with assignedRole := some member.2 }
    playerOffers := lfg.playerOffers.assign member.1.1 offerId }

def makeOffer (team : Team) : LFTManager :=
  team.roles.foldl (offerTo lfg.nextOfferId)
    { lfg with
      nextOfferId := lfg.nextOfferId + 1
      offers := lfg.offers.assign lfg.nextOfferId { inst, roles := selectedRoles team } }

def tryBuildOfferForInstance : LFTManager × Bool :=
  match lfg.findTeam realm inst with
  | none => (lfg, false)
  | some team => (lfg.makeOffer inst team, true)

/-- The instances of those who are in no offer, as the set of the source orders them. -/
def wantedInstances : List String :=
  ((lfg.queue.entries.filter fun entry => (lfg.playerOffers.find? entry.1).isNone).flatMap
    fun entry => entry.2.instances).dedup.insertionSort (· ≤ ·)

def tryMakeOffers : LFTManager :=
  lfg.wantedInstances.foldl (fun lfg inst => (lfg.tryBuildOfferForInstance realm inst).1) lfg

end LFTManager

end TortoiseWow.LFT
