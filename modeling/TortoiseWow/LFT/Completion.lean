import TortoiseWow.Group.Roster
import TortoiseWow.LFT.Soundness

/-!
What becomes of an offer that all of its players have accepted: they are put into one group,
one after the other. A group is known by a number. A raid that is not full has a subgroup
with room, so the subgroups have no counterpart here; nor have the messages and the
teleport of a group of bots.
-/

namespace TortoiseWow.LFT

open Lib Groups

structure Group where
  leaderGuid : ObjectGuid
  memberSlots : List ObjectGuid := []
  isRaidGroup : Bool := false
  deriving Repr, DecidableEq

namespace Group

variable (group : Group)

def capacity : Nat := if group.isRaidGroup then maxRaidSize else maxGroupSize

def isFull : Bool := group.capacity ≤ group.memberSlots.length

def isMember (guid : ObjectGuid) : Bool := group.memberSlots.contains guid

end Group

structure GroupWorld where
  group : Nat → Group
  getGroup : ObjectGuid → Option Nat
  nextGroup : Nat

namespace GroupWorld

variable (world : GroupWorld)

/-- A player who points to a group already keeps it as the current one. -/
def addMember (id : Nat) (guid : ObjectGuid) : GroupWorld × Bool :=
  if (world.group id).isFull then (world, false)
  else
    ({ world with
      group := Function.update world.group id
        { world.group id with memberSlots := (world.group id).memberSlots ++ [guid] }
      getGroup := fun other =>
        if other = guid ∧ world.getGroup guid = none then some id else world.getGroup other },
     true)

def create (leaderGuid : ObjectGuid) : GroupWorld × Bool :=
  addMember
    { world with
      group := Function.update world.group world.nextGroup { leaderGuid }
      nextGroup := world.nextGroup + 1 }
    world.nextGroup leaderGuid

end GroupWorld

variable (realm : Realm) (leaderGuid : ObjectGuid)

/-- The group so far, else the leader's, else a new one; none if the leader is offline. -/
def findOrCreateGroup (world : GroupWorld) : Option Nat → GroupWorld × Option Nat
  | some id => (world, some id)
  | none =>
      match realm.getPlayer leaderGuid with
      | none => (world, none)
      | some _ =>
          match world.getGroup leaderGuid with
          | some id => (world, some id)
          | none =>
              match world.create leaderGuid with
              | (created, true) => (created, some world.nextGroup)
              | (_, false) => (world, none)

/-- The leader may have gone, then nothing is compared. -/
def Realm.leaderAccepts (member : Player) : Bool :=
  match realm.getPlayer leaderGuid with
  | some leader => realm.canPlayersGroup leader member
  | none => true

def addPlayerToGroup (world : GroupWorld) (group : Option Nat) (memberGuid : ObjectGuid) :
    GroupWorld × Option Nat × Bool :=
  match realm.getPlayer memberGuid with
  | none => (world, group, false)
  | some member =>
      match findOrCreateGroup realm leaderGuid world group with
      | (world, none) => (world, none, false)
      | (world, some id) =>
          if (world.group id).isMember memberGuid then (world, some id, true)
          else if world.getGroup memberGuid ≠ none ∧ world.getGroup memberGuid ≠ some id then
            (world, some id, false)
          else if !realm.leaderAccepts leaderGuid member then (world, some id, false)
          else if (world.group id).isFull then (world, some id, false)
          else
            let (world, added) := world.addMember id memberGuid
            (world, some id, added)

/-- The loop over the players of the offer, up to the first who cannot be added. -/
def addPlayersToGroup : GroupWorld → Option Nat → List ObjectGuid → GroupWorld × Bool
  | world, _, [] => (world, true)
  | world, group, guid :: rest =>
      match addPlayerToGroup realm leaderGuid world group guid with
      | (world, group, true) => addPlayersToGroup world group rest
      | (world, _, false) => (world, false)

namespace LFTManager

variable (lfg : LFTManager)

def offerLeader (offer : Offer) : ObjectGuid :=
  let queueLeader := offer.roles.entries.findSome? fun member =>
    (lfg.queue.find? member.1).bind fun queued =>
      if queued.queueLeaderGuid = 0 then none else some queued.queueLeaderGuid
  let tank := (offer.roles.entries.find? fun member => member.2 = .tank).map (·.1)
  let first := offer.roles.entries.head?.map (·.1)
  ((queueLeader.or tank).or first).getD 0

def cancelMember (offer : Offer) (requeueAccepted : Bool) (removeGuid : ObjectGuid)
    (requeueOthers : Bool) (lfg : LFTManager) (guid : ObjectGuid) : LFTManager :=
  let keepQueued := requeueAccepted && guid != removeGuid &&
    (requeueOthers || offer.accepted.contains guid)
  { lfg with
    playerOffers := lfg.playerOffers.erase guid
    queue :=
      match lfg.queue.find? guid, keepQueued with
      | some queued, true =>
          lfg.queue.assign guid
            { queued with assignedRole := pickRole queued.roleMask 0 0 0 }
      | _, _ => lfg.queue.erase guid }

def cancelOffer (offerId : UInt32) (requeueAccepted : Bool) (removeGuid : ObjectGuid := 0)
    (requeueOthers : Bool := false) : LFTManager :=
  match lfg.offers.find? offerId with
  | none => lfg
  | some offer =>
      let cancelled := (offer.roles.entries.map (·.1)).foldl
        (cancelMember offer requeueAccepted removeGuid requeueOthers) lfg
      { cancelled with offers := cancelled.offers.erase offerId }

/-- Out of the queue and out of the offer. -/
def releaseMember (lfg : LFTManager) (guid : ObjectGuid) : LFTManager :=
  { lfg with
    queue := lfg.queue.erase guid
    playerOffers := lfg.playerOffers.erase guid }

def completeOffer (world : GroupWorld) (offerId : UInt32) : LFTManager × GroupWorld × Bool :=
  match lfg.offers.find? offerId with
  | none => (lfg, world, false)
  | some offer =>
      let guids := offer.roles.entries.map (·.1)
      match addPlayersToGroup realm (lfg.offerLeader offer) world none guids with
      | (world, false) => (lfg.cancelOffer offerId false, world, false)
      | (world, true) =>
          let released := guids.foldl releaseMember lfg
          ({ released with offers := released.offers.erase offerId }, world, true)

def handleOfferAccept (world : GroupWorld) (guid : ObjectGuid) : LFTManager × GroupWorld :=
  match lfg.playerOffers.find? guid with
  | none => (lfg, world)
  | some offerId =>
      match lfg.offers.find? offerId with
      | none => (lfg, world)
      | some offer =>
          let accepted := if guid ∈ offer.accepted then offer.accepted else guid :: offer.accepted
          let lfg := { lfg with offers := lfg.offers.assign offerId { offer with accepted } }
          if accepted.length = offer.roles.entries.length then
            let (lfg, world, _) := lfg.completeOffer realm world offerId
            (lfg, world)
          else (lfg, world)

end LFTManager

end TortoiseWow.LFT
