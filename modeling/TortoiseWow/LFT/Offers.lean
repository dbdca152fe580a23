import TortoiseWow.LFT.Completeness
import TortoiseWow.LFT.Completion
import TortoiseWow.Lib.Run

/-!
The offers in every run of the queue, in which players join, leave, log out and accept and
offers are made, completed, cancelled and expire in any order. Whom a rolecheck puts into the
queue, and as what, is left open, and so are the timers.
-/

namespace TortoiseWow.LFT

open Lib

def Offer.players (offer : Offer) : List ObjectGuid := offer.roles.entries.map (·.1)

namespace LFTManager

variable (lfg : LFTManager) (realm : Realm)

def enqueuePlayer (guid : ObjectGuid) (queued : QueuedPlayer) : LFTManager :=
  { lfg with
    queue := lfg.queue.assign guid
      { queued with assignedRole := pickRole queued.roleMask 0 0 0 } }

/-- Before a player queues again, and when he logs out. -/
def cleanupPlayer (guid : ObjectGuid) : LFTManager :=
  let lfg := { lfg with queue := lfg.queue.erase guid }
  match lfg.playerOffers.find? guid with
  | none => lfg
  | some offerId => lfg.cancelOffer offerId true guid true

/-- Out of the offer, else out of the queue with those who queued together. Of a player in a
rolecheck only that is cancelled. -/
def leaveQueue (guid : ObjectGuid) : LFTManager :=
  match lfg.playerOffers.find? guid, lfg.queue.find? guid with
  | some offerId, _ => (lfg.cancelOffer offerId true guid true).tryMakeOffers realm
  | none, none => lfg
  | none, some queued =>
      let toRemove := lfg.queue.entries.filter fun other : Entry =>
        blockLeader other = blockLeader (guid, queued)
      { lfg with queue := (toRemove.map (·.1)).foldl OrderedMap.erase lfg.queue }

/-- `Update`, after the bots and before new offers. -/
def expire (expired : UInt32 → Bool) : LFTManager :=
  let gone := lfg.queue.entries.filter fun entry : Entry => (realm.getPlayer entry.1).isNone
  let left : LFTManager := { lfg with queue := (gone.map (·.1)).foldl OrderedMap.erase lfg.queue }
  ((left.offers.entries.map (·.1)).filter expired).foldl
    (fun lfg offerId => lfg.cancelOffer offerId true) left

def update (expired : UInt32 → Bool) : LFTManager := (lfg.expire realm expired).tryMakeOffers realm

end LFTManager

inductive QueueEvent where
  | enqueuePlayer (guid : ObjectGuid) (queued : QueuedPlayer)
  | tryMakeOffers
  | cleanupPlayer (guid : ObjectGuid)
  | leaveQueue (guid : ObjectGuid)
  | handleOfferAccept (world : GroupWorld) (guid : ObjectGuid)
  | update (expired : UInt32 → Bool)

def LFTManager.step (lfg : LFTManager) : Realm × QueueEvent → LFTManager
  | (_, .enqueuePlayer guid queued) => lfg.enqueuePlayer guid queued
  | (realm, .tryMakeOffers) => lfg.tryMakeOffers realm
  | (_, .cleanupPlayer guid) => lfg.cleanupPlayer guid
  | (realm, .leaveQueue guid) => lfg.leaveQueue realm guid
  | (realm, .handleOfferAccept world guid) => (lfg.handleOfferAccept realm world guid).1
  | (realm, .update expired) => lfg.update realm expired

def offersFor (realm : Realm) : List String → LFTManager → Nat
  | [], _ => 0
  | inst :: rest, lfg =>
      let (lfg, made) := lfg.tryBuildOfferForInstance realm inst
      made.toNat + offersFor realm rest lfg

def LFTManager.matched (lfg : LFTManager) (realm : Realm) : Nat :=
  offersFor realm lfg.wantedInstances lfg

def LFTManager.offersMade (lfg : LFTManager) : Realm × QueueEvent → Nat
  | (realm, .tryMakeOffers) => lfg.matched realm
  | (realm, .leaveQueue guid) =>
      (lfg.playerOffers.find? guid).elim 0 fun offerId =>
        (lfg.cancelOffer offerId true guid true).matched realm
  | (realm, .update expired) => (lfg.expire realm expired).matched realm
  | _ => 0

def LFTManager.offersIn (lfg : LFTManager) : List (Realm × QueueEvent) → Nat
  | [] => 0
  | event :: events => lfg.offersMade event + (lfg.step event).offersIn events

/-- A tank, a healer and three damage dealers, of whom somebody has not accepted yet. -/
structure Offer.Waiting (offer : Offer) : Prop where
  five : offer.players.length = 5
  composition : ∀ role, (offer.roles.entries.countP (·.2 = role)) = role.capacity
  accepted : offer.accepted ⊆ offer.players
  once : offer.accepted.Nodup
  missing : offer.accepted.length < 5

namespace LFTManager

def playersOf (lfg : LFTManager) (id : UInt32) : List ObjectGuid :=
  (lfg.offers.find? id).elim [] Offer.players

structure Paired (lfg : LFTManager) : Prop where
  paired : ∀ guid id, lfg.playerOffers.find? guid = some id ↔ guid ∈ lfg.playersOf id
  waiting : ∀ id, ∀ offer ∈ lfg.offers.find? id, offer.Waiting ∧ id < lfg.nextOfferId

variable {lfg lfg' : LFTManager} {id : UInt32} {offer : Offer}

structure Revised (lfg : LFTManager) (id : UInt32) (value : Option Offer)
    (players : List ObjectGuid) (lfg' : LFTManager) : Prop where
  offers : ∀ other, lfg'.offers.find? other =
    if other = id then value else lfg.offers.find? other
  playerOffers : ∀ guid, lfg'.playerOffers.find? guid =
    if guid ∈ players then value.map fun _ => id else lfg.playerOffers.find? guid

theorem Paired.revised (h : Paired lfg) {value : Option Offer} {players : List ObjectGuid}
    (revised : Revised lfg id value players lfg') (next : lfg.nextOfferId ≤ lfg'.nextOfferId)
    (free : ∀ guid ∈ players, ∀ other, lfg.playerOffers.find? guid = some other → other = id)
    (covered : lfg.playersOf id ⊆ players)
    (sound : ∀ offer ∈ value, offer.Waiting ∧ id < lfg'.nextOfferId ∧
      ∀ guid, guid ∈ offer.players ↔ guid ∈ players) : Paired lfg' := by
  refine ⟨fun guid other => ?_, fun other offer here => ?_⟩
  · have before := h.paired guid other
    have lost : guid ∈ lfg.playersOf id → guid ∈ players := fun inside => covered inside
    rw [playersOf, revised.offers, revised.playerOffers]
    cases value with
    | none => grind [playersOf]
    | some offer => grind [playersOf]
  · rw [revised.offers] at here
    grind [h.waiting other offer, lt_of_lt_of_le]

theorem Paired.mem_playersOf (h : Paired lfg) (found : lfg.offers.find? id = some offer)
    {guid : ObjectGuid} : lfg.playerOffers.find? guid = some id ↔ guid ∈ offer.players := by
  rw [h.paired, playersOf, found, Option.elim_some]

theorem Paired.own (h : Paired lfg) (found : lfg.offers.find? id = some offer) :
    ∀ guid ∈ offer.players, ∀ other, lfg.playerOffers.find? guid = some other → other = id :=
  fun _ inside _ has => Option.some.inj (has.symm.trans ((h.mem_playersOf found).mpr inside))

theorem Paired.dropped (h : Paired lfg) (found : lfg.offers.find? id = some offer)
    (dropped : Revised lfg id none offer.players lfg')
    (next : lfg'.nextOfferId = lfg.nextOfferId) : Paired lfg' := by
  refine h.revised dropped (le_of_eq next.symm) (h.own found) ?_ fun _ here => by cases here
  rw [playersOf, found]
  exact List.Subset.refl _

theorem foldl_dropped {f : LFTManager → ObjectGuid → LFTManager}
    (one : ∀ lfg guid, ∃ queue,
      f lfg guid = { lfg with queue, playerOffers := lfg.playerOffers.erase guid })
    (id : UInt32) (players : List ObjectGuid) (lfg : LFTManager) :
    Revised lfg id none players { players.foldl f lfg with
      offers := (players.foldl f lfg).offers.erase id } := by
  induction players generalizing lfg with
  | nil =>
      refine ⟨fun other => ?_, fun _ => rfl⟩
      grind [OrderedMap.find?_erase_self, OrderedMap.find?_erase_of_ne]
  | cons first rest ih =>
      obtain ⟨queue, same⟩ := one lfg first
      have left := ih (f lfg first)
      rw [same] at left
      rw [List.foldl_cons, same]
      refine ⟨left.offers, fun guid => ?_⟩
      rw [left.playerOffers]
      grind [OrderedMap.find?_erase_self, OrderedMap.find?_erase_of_ne]

theorem cancelOffer_dropped (found : lfg.offers.find? id = some offer) (requeue : Bool)
    (removeGuid : ObjectGuid) (others : Bool) :
    Revised lfg id none offer.players (lfg.cancelOffer id requeue removeGuid others) := by
  simp only [cancelOffer, found]
  exact foldl_dropped (fun _ _ => ⟨_, rfl⟩) id offer.players lfg

theorem completeOffer_dropped (realm : Realm) (world : GroupWorld)
    (found : lfg.offers.find? id = some offer) :
    Revised lfg id none offer.players (lfg.completeOffer realm world id).1 := by
  simp only [completeOffer, found]
  split
  · exact cancelOffer_dropped found false 0 false
  · exact foldl_dropped (fun _ _ => ⟨_, rfl⟩) id offer.players lfg

theorem foldl_next {α : Type} {f : LFTManager → α → LFTManager}
    (one : ∀ lfg a, (f lfg a).nextOfferId = lfg.nextOfferId) (all : List α) (lfg : LFTManager) :
    (all.foldl f lfg).nextOfferId = lfg.nextOfferId := by
  induction all generalizing lfg with
  | nil => rfl
  | cons first rest ih => exact (ih (f lfg first)).trans (one lfg first)

theorem cancelOffer_next (lfg : LFTManager) (id : UInt32) (requeue : Bool)
    (removeGuid : ObjectGuid) (others : Bool) :
    (lfg.cancelOffer id requeue removeGuid others).nextOfferId = lfg.nextOfferId := by
  cases found : lfg.offers.find? id with
  | none => simp only [cancelOffer, found]
  | some offer =>
      simp only [cancelOffer, found]
      exact foldl_next (f := cancelMember offer requeue removeGuid others) (fun _ _ => rfl) _ lfg

theorem completeOffer_next (lfg : LFTManager) (realm : Realm) (world : GroupWorld)
    (id : UInt32) : (lfg.completeOffer realm world id).1.nextOfferId = lfg.nextOfferId := by
  cases found : lfg.offers.find? id with
  | none => simp only [completeOffer, found]
  | some offer =>
      simp only [completeOffer, found]
      split
      · exact cancelOffer_next lfg id false 0 false
      · exact foldl_next (f := releaseMember) (fun _ _ => rfl) _ lfg

theorem expire_next (lfg : LFTManager) (realm : Realm) (expired : UInt32 → Bool) :
    (lfg.expire realm expired).nextOfferId = lfg.nextOfferId :=
  foldl_next (fun lfg id => cancelOffer_next lfg id true 0 false) _ _

theorem Paired.cancelOffer (h : Paired lfg) (id : UInt32) (requeue : Bool)
    (removeGuid : ObjectGuid) (others : Bool) :
    Paired (lfg.cancelOffer id requeue removeGuid others) := by
  cases found : lfg.offers.find? id with
  | none =>
      simp only [LFTManager.cancelOffer, found]
      exact h
  | some offer =>
      exact h.dropped found (cancelOffer_dropped found requeue removeGuid others)
        (cancelOffer_next lfg id requeue removeGuid others)

theorem find?_assign_eq (offers : OrderedMap UInt32 Offer) (value : Offer) (other : UInt32) :
    (offers.assign id value).find? other =
      if other = id then some value else offers.find? other := by
  grind [OrderedMap.find?_assign_self, OrderedMap.find?_assign_of_ne]

/-- A number below the last has the next one above it. -/
theorem toNat_succ {next : UInt32} (room : next.toNat + 1 < 2 ^ 32) :
    (next + 1).toNat = next.toNat + 1 := by
  rw [UInt32.toNat_add, UInt32.toNat_one, Nat.mod_eq_of_lt room]

theorem Paired.makeOffer (h : Paired lfg) {realm : Realm} {inst : String} {team : Team}
    (found : lfg.findTeam realm inst = some team) (room : lfg.nextOfferId.toNat + 1 < 2 ^ 32) :
    Paired (lfg.makeOffer inst team) := by
  obtain ⟨seed, -, -, rfl, complete⟩ := lfg.findTeam_some realm inst found
  have sound := lfg.buildTeam_sound realm inst seed
  generalize lfg.buildTeam realm inst seed = team at sound complete
  obtain ⟨full, five⟩ := complete_iff.mp complete
  have perm := lfg.selectedRoles_perm realm inst seed sound
  have made := lfg.offers_makeOffer inst team
  have later : lfg.nextOfferId < (lfg.makeOffer inst team).nextOfferId := by
    rw [made.2, UInt32.lt_iff_toNat_lt, toNat_succ room]
    exact Nat.lt_succ_self _
  refine @Paired.revised _ _ lfg.nextOfferId h (some { inst, roles := selectedRoles team })
    (team.roles.map (·.1.1)) ⟨fun other => ?_, fun guid => ?_⟩ (le_of_lt later) ?_ ?_ ?_
  · rw [made.1, find?_assign_eq]
  · exact playerOffers_offerTo team.roles _ guid
  · intro guid inside other has
    obtain ⟨member, listed, rfl⟩ := List.mem_map.mp inside
    have free := ((lfg.waitsFor_iff inst).mp
      (sound.admitted _ (List.mem_map_of_mem listed)).1).1
    cases free.symm.trans has
  · intro guid listed
    cases found : lfg.offers.find? lfg.nextOfferId with
    | none => simp [playersOf, found] at listed
    | some offer => exact absurd (h.waiting _ offer found).2 (lt_irrefl _)
  · rintro _ ⟨⟩
    refine ⟨⟨?_, fun role => ?_, List.nil_subset _, List.nodup_nil, Nat.zero_lt_succ 4⟩,
      later, fun guid => ?_⟩
    · rw [Offer.players, List.length_map, perm.length_eq, List.length_map, five]
    · rw [perm.countP_eq, List.countP_map, ← full role, sound.counted]
      rfl
    · rw [Offer.players, (perm.map (·.1)).mem_iff, List.map_map]
      rfl

/-- As many offers as are made, the number of the next one goes on, up to its last value. -/
theorem Paired.foldl_build (h : Paired lfg) (realm : Realm) (instances : List String)
    (few : lfg.nextOfferId.toNat + offersFor realm instances lfg < 2 ^ 32) :
    Paired (instances.foldl (fun lfg inst => (lfg.tryBuildOfferForInstance realm inst).1) lfg) ∧
      (instances.foldl (fun lfg inst => (lfg.tryBuildOfferForInstance realm inst).1)
        lfg).nextOfferId.toNat = lfg.nextOfferId.toNat + offersFor realm instances lfg := by
  induction instances generalizing lfg with
  | nil => exact ⟨h, rfl⟩
  | cons inst rest ih =>
      cases found : lfg.findTeam realm inst with
      | none =>
          have none : lfg.tryBuildOfferForInstance realm inst = (lfg, false) := by
            simp only [tryBuildOfferForInstance, found]
          simp only [offersFor, List.foldl_cons, none, Bool.toNat_false, Nat.zero_add] at few ⊢
          exact ih h few
      | some team =>
          have made : lfg.tryBuildOfferForInstance realm inst =
              (lfg.makeOffer inst team, true) := by
            simp only [tryBuildOfferForInstance, found]
          simp only [offersFor, List.foldl_cons, made, Bool.toNat_true] at few ⊢
          have room : lfg.nextOfferId.toNat + 1 < 2 ^ 32 := by omega
          have next := congrArg UInt32.toNat (lfg.offers_makeOffer inst team).2
          rw [toNat_succ room] at next
          obtain ⟨paired, count⟩ := ih (h.makeOffer found room) (by omega)
          exact ⟨paired, by omega⟩

theorem Paired.tryMakeOffers (h : Paired lfg) (realm : Realm)
    (few : lfg.nextOfferId.toNat + lfg.matched realm < 2 ^ 32) :
    Paired (lfg.tryMakeOffers realm) ∧ (lfg.tryMakeOffers realm).nextOfferId.toNat =
      lfg.nextOfferId.toNat + lfg.matched realm :=
  h.foldl_build realm lfg.wantedInstances few

theorem Paired.handleOfferAccept (h : Paired lfg) (realm : Realm) (world : GroupWorld)
    (guid : ObjectGuid) : Paired (lfg.handleOfferAccept realm world guid).1 := by
  unfold LFTManager.handleOfferAccept
  split
  case h_1 => exact h
  case h_2 id has =>
    split
    case h_1 => exact h
    case h_2 offer found =>
      obtain ⟨waiting, early⟩ := h.waiting id offer found
      dsimp only
      -- nobody accepts twice, so five have accepted only when everybody has
      generalize accepting : (if guid ∈ offer.accepted then offer.accepted
        else guid :: offer.accepted) = accepted
      have sound : accepted ⊆ offer.players ∧ accepted.Nodup ∧ accepted.length ≤ 5 := by
        subst accepting
        split
        · exact ⟨waiting.accepted, waiting.once, Nat.le_of_lt waiting.missing⟩
        · exact ⟨List.cons_subset.mpr ⟨(h.mem_playersOf found).mp has, waiting.accepted⟩,
            List.nodup_cons.mpr ⟨‹_›, waiting.once⟩, waiting.missing⟩
      have offers := @find?_assign_eq id lfg.offers { offer with accepted }
      split
      · have dropped := @completeOffer_dropped
          { lfg with offers := lfg.offers.assign id { offer with accepted } } id _ realm world
          ((offers id).trans (if_pos rfl))
        refine h.dropped found ⟨fun other => ?_, dropped.playerOffers⟩
          (completeOffer_next _ realm world id)
        rw [dropped.offers, offers]
        split <;> rfl
      · refine @Paired.revised _ _ _ h (some { offer with accepted }) _ ⟨offers, fun other => ?_⟩
          le_rfl (h.own found) ?_ ?_
        · split
          · exact (h.mem_playersOf found).mpr ‹_›
          · rfl
        · rw [playersOf, found]
          exact List.Subset.refl _
        · rintro _ ⟨⟩
          have five : offer.roles.entries.length = 5 := by
            rw [← waiting.five, Offer.players, List.length_map]
          exact ⟨⟨waiting.five, waiting.composition, sound.1, sound.2.1,
            Nat.lt_of_le_of_ne sound.2.2 (five ▸ ‹¬ _›)⟩, early, fun _ => Iff.rfl⟩

theorem handleOfferAccept_next (lfg : LFTManager) (realm : Realm) (world : GroupWorld)
    (guid : ObjectGuid) :
    (lfg.handleOfferAccept realm world guid).1.nextOfferId = lfg.nextOfferId := by
  unfold LFTManager.handleOfferAccept
  split
  · rfl
  · split
    · rfl
    next offer _ =>
      dsimp only
      generalize (if guid ∈ offer.accepted then offer.accepted
        else guid :: offer.accepted) = accepted
      split
      · exact completeOffer_next _ realm world _
      · rfl

theorem Paired.step (h : Paired lfg) (event : Realm × QueueEvent)
    (few : lfg.nextOfferId.toNat + lfg.offersMade event < 2 ^ 32) :
    Paired (lfg.step event) ∧
      (lfg.step event).nextOfferId.toNat = lfg.nextOfferId.toNat + lfg.offersMade event := by
  have queue : ∀ queue, Paired { lfg with queue } := fun _ => ⟨h.paired, h.waiting⟩
  obtain ⟨realm, event⟩ := event
  cases event with
  | enqueuePlayer guid queued => exact ⟨queue _, rfl⟩
  | tryMakeOffers => exact h.tryMakeOffers realm few
  | cleanupPlayer guid =>
      simp only [LFTManager.step, LFTManager.cleanupPlayer, offersMade]
      split
      · exact ⟨queue _, rfl⟩
      · exact ⟨(queue _).cancelOffer _ true guid true,
          congrArg UInt32.toNat (cancelOffer_next _ _ true guid true)⟩
  | leaveQueue guid =>
      simp only [LFTManager.step, LFTManager.leaveQueue, offersMade] at few ⊢
      cases has : lfg.playerOffers.find? guid with
      | some id =>
          have left := (h.cancelOffer id true guid true).tryMakeOffers realm
          rw [cancelOffer_next] at left
          rw [has] at few
          exact left few
      | none =>
          cases lfg.queue.find? guid with
          | none => exact ⟨h, rfl⟩
          | some queued => exact ⟨queue _, rfl⟩
  | handleOfferAccept world guid =>
      exact ⟨h.handleOfferAccept realm world guid,
        congrArg UInt32.toNat (handleOfferAccept_next lfg realm world guid)⟩
  | update expired =>
      have expire : Paired (lfg.expire realm expired) :=
        List.foldlRecOn _ _ (queue _) fun _ here id _ => here.cancelOffer id true 0 false
      have left := expire.tryMakeOffers realm
      rw [expire_next] at left
      exact left few

theorem Paired.run (h : Paired lfg) (events : List (Realm × QueueEvent))
    (few : lfg.nextOfferId.toNat + lfg.offersIn events < 2 ^ 32) :
    Paired (Lib.run LFTManager.step lfg events) := by
  induction events generalizing lfg with
  | nil => exact h
  | cons event events ih =>
      rw [offersIn, ← Nat.add_assoc] at few
      obtain ⟨paired, count⟩ := h.step event (Nat.lt_of_le_of_lt (Nat.le_add_right _ _) few)
      exact ih paired (count ▸ few)

/-- No player is ever in two offers, and no offer is left when all five have accepted, as
long as the numbers of the offers have not gone round. -/
theorem offers_paired (events : List (Realm × QueueEvent))
    (few : offersIn {} events < 2 ^ 32 - 1) : Paired (Lib.run step {} events) := by
  have start : Paired {} := ⟨fun _ _ => iff_of_false (fun has => by cases has) List.not_mem_nil,
    fun _ _ here => by cases here⟩
  refine start.run events ?_
  change 1 + offersIn {} events < 2 ^ 32
  omega

def noGroups : GroupWorld where
  group _ := { leaderGuid := 0 }
  getGroup _ := none
  nextGroup := 0

def healerLeaves : List (Realm × QueueEvent) :=
  let players := [solo 1 1 false, solo 2 2 false, solo 3 4 false, solo 4 4 false,
    solo 5 4 false, solo 6 4 false]
  let events : List QueueEvent := players.map (fun entry => .enqueuePlayer entry.1 entry.2) ++
    [.tryMakeOffers, .handleOfferAccept noGroups 1, .leaveQueue 2,
      .enqueuePlayer 7 (solo 7 2 false).2, .update fun _ => false] ++
    [1, 7, 3, 4].map (.handleOfferAccept noGroups)
  events.map (plainRealm, ·)

theorem healerLeaves_paired : offersIn {} healerLeaves = 2 ∧
    Paired (Lib.run step {} healerLeaves) :=
  ⟨by decide +kernel, offers_paired healerLeaves (by decide +kernel)⟩

end LFTManager

end TortoiseWow.LFT
