import TortoiseWow.LFT.Completeness
import TortoiseWow.LFT.Completion

/-!
Completion is all or nothing only where every player of the offer can enter the group of the
leader: otherwise those who came first stay in the group, and all players of the offer lose
their places in the queue. So an offer of two parties, or of a party behind a player with a
smaller guid who queued alone, never becomes a group.
-/

namespace TortoiseWow.LFT

open Lib Groups

namespace GroupWorld

variable (world : GroupWorld)

def enter (id : Nat) (guid : ObjectGuid) : GroupWorld :=
  if (world.group id).isMember guid then world else (world.addMember id guid).1

def HasRoom (id newcomers : Nat) : Prop :=
  newcomers = 0 ∨ (world.group id).memberSlots.length + newcomers ≤ (world.group id).capacity

theorem isFull_iff {id : Nat} : (world.group id).isFull = true ↔ ¬ world.HasRoom id 1 := by
  simp only [Group.isFull, HasRoom, decide_eq_true_eq]
  omega

theorem isMember_iff {group : Group} {guid : ObjectGuid} :
    group.isMember guid = true ↔ guid ∈ group.memberSlots :=
  List.contains_iff_mem

theorem addMember_room {id : Nat} (guid : ObjectGuid) (room : world.HasRoom id 1) :
    world.addMember id guid =
      ({ world with
        group := Function.update world.group id
          { world.group id with memberSlots := (world.group id).memberSlots ++ [guid] }
        getGroup := fun other =>
          if other = guid ∧ world.getGroup guid = none then some id else world.getGroup other },
       true) :=
  if_neg fun full => world.isFull_iff.mp full room

end GroupWorld

section Adding

variable (realm : Realm) (leaderGuid : ObjectGuid)

/-- May enter the group, if there is room. -/
structure Joins (world : GroupWorld) (id : Nat) (guid : ObjectGuid) : Prop where
  online : realm.getPlayer guid ≠ none
  joins : guid ∈ (world.group id).memberSlots ∨
    (world.getGroup guid = none ∨ world.getGroup guid = some id) ∧
      ∀ member, realm.getPlayer guid = some member → realm.leaderAccepts leaderGuid member = true

/-- The players who are not in the group yet. -/
def newcomers (world : GroupWorld) (id : Nat) (guids : List ObjectGuid) : Nat :=
  guids.countP fun guid => guid ∉ (world.group id).memberSlots

theorem addPlayerToGroup_true {world : GroupWorld} {id : Nat} {guid : ObjectGuid}
    (joins : Joins realm leaderGuid world id guid)
    (room : world.HasRoom id (newcomers world id [guid])) :
    addPlayerToGroup realm leaderGuid world (some id) guid =
      (world.enter id guid, some id, true) := by
  obtain ⟨member, online⟩ := Option.ne_none_iff_exists'.mp joins.online
  simp only [addPlayerToGroup, online, findOrCreateGroup, GroupWorld.enter]
  by_cases already : guid ∈ (world.group id).memberSlots
  · have isMember := GroupWorld.isMember_iff.mpr already
    rw [if_pos isMember, if_pos isMember]
  · have notMember : ¬ (world.group id).isMember guid = true :=
      fun isMember => already (GroupWorld.isMember_iff.mp isMember)
    obtain ⟨free, accepts⟩ := joins.joins.resolve_left already
    have one : newcomers world id [guid] = 1 := by
      simp [newcomers, already]
    rw [one] at room
    have notFull : ¬ (world.group id).isFull = true := fun full => world.isFull_iff.mp full room
    rw [if_neg notMember, if_neg notMember, if_neg, if_neg, if_neg notFull,
      world.addMember_room guid room]
    · simp [accepts member online]
    · rcases free with none | same
      · simp [none]
      · simp [same]

theorem addPlayerToGroup_false {world : GroupWorld} {id : Nat} {guid : ObjectGuid}
    (fails : ¬ (Joins realm leaderGuid world id guid ∧
      world.HasRoom id (newcomers world id [guid]))) :
    (addPlayerToGroup realm leaderGuid world (some id) guid).2.2 = false := by
  simp only [addPlayerToGroup, findOrCreateGroup]
  split
  case h_1 => rfl
  case h_2 member online =>
    have here : realm.getPlayer guid ≠ none := by
      rw [online]
      exact Option.some_ne_none _
    split
    case isTrue isMember =>
      have already := GroupWorld.isMember_iff.mp isMember
      refine absurd ⟨⟨here, .inl already⟩, .inl ?_⟩ fails
      simp [newcomers, already]
    split
    case isTrue => rfl
    case isFalse same =>
      split
      case isTrue => rfl
      case isFalse accepts =>
        split
        case isTrue => rfl
        case isFalse notMember notFull =>
          refine absurd ⟨⟨here, .inr ⟨?_, ?_⟩⟩, ?_⟩ fails
          · by_cases none : world.getGroup guid = none
            · exact .inl none
            · exact .inr (Classical.not_not.mp fun differs => same ⟨none, differs⟩)
          · intro other online'
            cases online.symm.trans online'
            simpa using accepts
          · have room := Classical.not_not.mp (mt world.isFull_iff.mpr notFull)
            have already : guid ∉ (world.group id).memberSlots :=
              fun inside => notMember (GroupWorld.isMember_iff.mpr inside)
            have one : newcomers world id [guid] = 1 := by
              simp [newcomers, already]
            rw [one]
            exact room

theorem newcomers_cons (world : GroupWorld) (id : Nat) (guid : ObjectGuid)
    (rest : List ObjectGuid) :
    newcomers world id (guid :: rest) = newcomers world id [guid] + newcomers world id rest := by
  simp only [newcomers, List.countP_cons, List.countP_nil]
  omega

theorem hasRoom_mono {world : GroupWorld} {id few many : Nat} (le : few ≤ many)
    (room : world.HasRoom id many) : world.HasRoom id few := by
  simp only [GroupWorld.HasRoom] at room ⊢
  omega

theorem enter_group {world : GroupWorld} {id : Nat} {guid : ObjectGuid}
    (room : world.HasRoom id (newcomers world id [guid])) :
    ((world.enter id guid).group id).capacity = (world.group id).capacity ∧
      ((world.enter id guid).group id).memberSlots.length =
        (world.group id).memberSlots.length + newcomers world id [guid] ∧
      (∀ other, other ∈ ((world.enter id guid).group id).memberSlots ↔
        other ∈ (world.group id).memberSlots ∨ other = guid) ∧
      ∀ other, other ≠ guid → (world.enter id guid).getGroup other = world.getGroup other := by
  rw [GroupWorld.enter]
  by_cases already : guid ∈ (world.group id).memberSlots
  · rw [if_pos (GroupWorld.isMember_iff.mpr already)]
    refine ⟨rfl, by simp [newcomers, already], fun other => ?_, fun _ _ => rfl⟩
    exact ⟨.inl, fun inside => inside.elim (fun member => member) fun same => same ▸ already⟩
  · have notMember := mt GroupWorld.isMember_iff.mp already
    have one : newcomers world id [guid] = 1 := by
      simp [newcomers, already]
    rw [one] at room ⊢
    rw [if_neg notMember, world.addMember_room guid room]
    simp only [Function.update_self]
    refine ⟨rfl, by simp, fun other => by simp, fun other differs => ?_⟩
    rw [if_neg fun both => differs both.1]

/-- The others may enter after one player has if they might before. -/
theorem joins_enter {world : GroupWorld} {id : Nat} {guid other : ObjectGuid}
    (room : world.HasRoom id (newcomers world id [guid])) (differs : other ≠ guid) :
    Joins realm leaderGuid (world.enter id guid) id other ↔
      Joins realm leaderGuid world id other := by
  obtain ⟨-, -, slots, getGroup⟩ := enter_group room
  have same : other ∈ ((world.enter id guid).group id).memberSlots ↔
      other ∈ (world.group id).memberSlots := by
    rw [slots, or_iff_left differs]
  constructor
  · rintro ⟨online, joins⟩
    rw [same, getGroup other differs] at joins
    exact ⟨online, joins⟩
  · rintro ⟨online, joins⟩
    rw [← same, ← getGroup other differs] at joins
    exact ⟨online, joins⟩

theorem newcomers_enter {world : GroupWorld} {id : Nat} {guid : ObjectGuid} {rest : List ObjectGuid}
    (room : world.HasRoom id (newcomers world id [guid])) (new : guid ∉ rest) :
    newcomers (world.enter id guid) id rest = newcomers world id rest := by
  obtain ⟨-, -, slots, -⟩ := enter_group room
  refine List.countP_congr fun other inside => ?_
  have differs : other ≠ guid := fun same => new (same ▸ inside)
  simp [slots, differs]

theorem addPlayersToGroup_iff {world : GroupWorld} {id : Nat} {guids : List ObjectGuid}
    (nodup : guids.Nodup) :
    (addPlayersToGroup realm leaderGuid world (some id) guids).2 = true ↔
      (∀ guid ∈ guids, Joins realm leaderGuid world id guid) ∧
        world.HasRoom id (newcomers world id guids) := by
  induction guids generalizing world with
  | nil => exact iff_of_true rfl ⟨fun _ none => absurd none List.not_mem_nil, .inl rfl⟩
  | cons guid rest ih =>
      obtain ⟨new, nodup⟩ := List.nodup_cons.mp nodup
      rw [List.forall_mem_cons, newcomers_cons]
      by_cases enters : Joins realm leaderGuid world id guid ∧
          world.HasRoom id (newcomers world id [guid])
      · obtain ⟨joins, room⟩ := enters
        obtain ⟨capacity, length, -, -⟩ := enter_group room
        have others : (∀ other ∈ rest, Joins realm leaderGuid (world.enter id guid) id other) ↔
            ∀ other ∈ rest, Joins realm leaderGuid world id other := by
          refine forall₂_congr fun other inside => joins_enter realm leaderGuid room ?_
          exact fun same => new (same ▸ inside)
        have rooms : (world.enter id guid).HasRoom id (newcomers world id rest) ↔
            world.HasRoom id (newcomers world id [guid] + newcomers world id rest) := by
          simp only [GroupWorld.HasRoom, capacity, length] at room ⊢
          omega
        simp only [addPlayersToGroup, addPlayerToGroup_true realm leaderGuid joins room]
        rw [ih nodup, others, newcomers_enter room new, rooms, and_assoc]
        exact (and_iff_right joins).symm
      · have fails := addPlayerToGroup_false realm leaderGuid enters
        have stops :
          (addPlayersToGroup realm leaderGuid world (some id) (guid :: rest)).2 = false := by
          simp only [addPlayersToGroup]
          split
          case h_1 added => simp [added] at fails
          case h_2 => rfl
        rw [stops]
        refine iff_of_false Bool.false_ne_true fun all => enters ⟨all.1.1, ?_⟩
        exact hasRoom_mono (Nat.le_add_right _ _) all.2

theorem addPlayersToGroup_members {world : GroupWorld} {id : Nat} {guids : List ObjectGuid}
    (added : (addPlayersToGroup realm leaderGuid world (some id) guids).2 = true)
    (other : ObjectGuid) (inside : other ∈ guids ∨ other ∈ (world.group id).memberSlots) :
    other ∈
      ((addPlayersToGroup realm leaderGuid world (some id) guids).1.group id).memberSlots := by
  induction guids generalizing world with
  | nil => exact inside.resolve_left List.not_mem_nil
  | cons guid rest ih =>
      by_cases enters : Joins realm leaderGuid world id guid ∧
          world.HasRoom id (newcomers world id [guid])
      · obtain ⟨joins, room⟩ := enters
        obtain ⟨-, -, slots, -⟩ := enter_group room
        simp only [addPlayersToGroup, addPlayerToGroup_true realm leaderGuid joins room] at added ⊢
        refine ih added ?_
        rw [slots]
        rcases inside with listed | member
        · rcases List.mem_cons.mp listed with here | later
          · exact .inr (.inr here)
          · exact .inl later
        · exact .inr (.inl member)
      · have fails := addPlayerToGroup_false realm leaderGuid enters
        simp only [addPlayersToGroup] at added
        split at added
        case h_1 found => simp [found] at fails
        case h_2 => cases added

end Adding

namespace GroupWorld

variable (world : GroupWorld) (leaderGuid : ObjectGuid)

/-- Nobody points to a group that has not been made. -/
def Allocated : Prop := ∀ guid id, world.getGroup guid = some id → id < world.nextGroup

def leaderSlots : List ObjectGuid :=
  match world.getGroup leaderGuid with
  | some id => (world.group id).memberSlots
  | none => [leaderGuid]

/-- How many members it may have. -/
def leaderCapacity : Nat :=
  match world.getGroup leaderGuid with
  | some id => (world.group id).capacity
  | none => maxGroupSize

end GroupWorld

section Offer

variable (realm : Realm) (leaderGuid : ObjectGuid)

theorem GroupWorld.addMember_allocated {world : GroupWorld} (allocated : world.Allocated) {id : Nat}
    (made : id < world.nextGroup) (guid : ObjectGuid) :
    (world.addMember id guid).1.Allocated ∧
      (world.addMember id guid).1.nextGroup = world.nextGroup := by
  simp only [addMember]
  split
  case isTrue => exact ⟨allocated, rfl⟩
  case isFalse =>
    refine ⟨fun other found has => ?_, rfl⟩
    simp only at has
    split at has
    case isTrue =>
      cases has
      exact made
    case isFalse => exact allocated other found has

theorem findOrCreateGroup_allocated {world : GroupWorld} (allocated : world.Allocated)
    {group : Option Nat} (made : ∀ id, group = some id → id < world.nextGroup) :
    (findOrCreateGroup realm leaderGuid world group).1.Allocated ∧
      ∀ id, (findOrCreateGroup realm leaderGuid world group).2 = some id →
        id < (findOrCreateGroup realm leaderGuid world group).1.nextGroup := by
  cases group with
  | some id => exact ⟨allocated, made⟩
  | none =>
      simp only [findOrCreateGroup]
      split
      case h_1 => exact ⟨allocated, nofun⟩
      split
      case h_1 id found =>
        exact ⟨allocated, fun _ same => Option.some.inj same ▸ allocated _ _ found⟩
      split
      case h_2 => exact ⟨allocated, nofun⟩
      case h_1 created made' =>
        have room : ({ world with
            group := Function.update world.group world.nextGroup { leaderGuid }
            nextGroup := world.nextGroup + 1 } : GroupWorld).Allocated :=
          fun guid id has => Nat.lt_succ_of_lt (allocated guid id has)
        obtain ⟨kept, next⟩ := GroupWorld.addMember_allocated room (Nat.lt_succ_self _) leaderGuid
        rw [← GroupWorld.create, made'] at kept next
        refine ⟨kept, fun id same => ?_⟩
        cases same
        rw [next]
        exact Nat.lt_succ_self _

theorem addPlayerToGroup_allocated {world : GroupWorld} (allocated : world.Allocated)
    {group : Option Nat} (made : ∀ id, group = some id → id < world.nextGroup) (guid : ObjectGuid) :
    (addPlayerToGroup realm leaderGuid world group guid).1.Allocated ∧
      ∀ id, (addPlayerToGroup realm leaderGuid world group guid).2.1 = some id →
        id < (addPlayerToGroup realm leaderGuid world group guid).1.nextGroup := by
  have found := findOrCreateGroup_allocated realm leaderGuid allocated made
  simp only [addPlayerToGroup]
  split
  case h_1 => exact ⟨allocated, made⟩
  split
  case h_1 here =>
    rw [here] at found
    exact found
  case h_2 id here =>
    rw [here] at found
    split
    case isTrue => exact found
    split
    case isTrue => exact found
    split
    case isTrue => exact found
    split
    case isTrue => exact found
    case isFalse =>
      have made' := found.2 id rfl
      obtain ⟨kept, next⟩ := GroupWorld.addMember_allocated found.1 made' guid
      refine ⟨kept, fun other same => ?_⟩
      cases same
      simp only [next]
      exact made'

theorem addPlayersToGroup_allocated {world : GroupWorld} (allocated : world.Allocated)
    {group : Option Nat} (made : ∀ id, group = some id → id < world.nextGroup)
    (guids : List ObjectGuid) :
    (addPlayersToGroup realm leaderGuid world group guids).1.Allocated := by
  induction guids generalizing world group with
  | nil => exact allocated
  | cons guid rest ih =>
      have step := addPlayerToGroup_allocated realm leaderGuid allocated made guid
      simp only [addPlayersToGroup]
      split
      case h_1 here =>
        rw [here] at step
        exact ih step.1 step.2
      case h_2 here =>
        rw [here] at step
        exact step.1

/-- Every player of the offer is in the world and can enter the leader's group, which has room
for all of them. -/
structure Joinable (world : GroupWorld) (guids : List ObjectGuid) : Prop where
  online : ∀ guid ∈ guids, realm.getPlayer guid ≠ none
  leaderOnline : realm.getPlayer leaderGuid ≠ none
  joins : ∀ guid ∈ guids, guid ∈ world.leaderSlots leaderGuid ∨
    (world.getGroup guid = none ∨ world.getGroup guid = world.getGroup leaderGuid) ∧
      ∀ member, realm.getPlayer guid = some member → realm.leaderAccepts leaderGuid member = true
  room : (guids.countP fun guid => guid ∉ world.leaderSlots leaderGuid) = 0 ∨
    (world.leaderSlots leaderGuid).length +
      (guids.countP fun guid => guid ∉ world.leaderSlots leaderGuid) ≤
        world.leaderCapacity leaderGuid

theorem findOrCreateGroup_some (world : GroupWorld) (allocated : world.Allocated)
    (online : realm.getPlayer leaderGuid ≠ none) :
    ∃ world' id, findOrCreateGroup realm leaderGuid world none = (world', some id) ∧
      (world'.group id).memberSlots = world.leaderSlots leaderGuid ∧
      (world'.group id).capacity = world.leaderCapacity leaderGuid ∧
      ∀ guid, guid ∉ world.leaderSlots leaderGuid →
        ((world'.getGroup guid = none ∨ world'.getGroup guid = some id) ↔
          (world.getGroup guid = none ∨ world.getGroup guid = world.getGroup leaderGuid)) := by
  obtain ⟨leader, here⟩ := Option.ne_none_iff_exists'.mp online
  simp only [findOrCreateGroup, here, GroupWorld.leaderSlots, GroupWorld.leaderCapacity]
  cases found : world.getGroup leaderGuid with
  | some id => exact ⟨world, id, rfl, rfl, rfl, fun _ _ => Iff.rfl⟩
  | none =>
      have empty : ({ world with
          group := Function.update world.group world.nextGroup { leaderGuid }
          nextGroup := world.nextGroup + 1 } : GroupWorld).HasRoom world.nextGroup 1 := by
        refine .inr ?_
        simp [Group.capacity, maxGroupSize]
      simp only [GroupWorld.create, GroupWorld.addMember_room _ leaderGuid empty]
      refine ⟨_, _, rfl, ?_, ?_, fun guid outside => ?_⟩
      · simp
      · simp [Group.capacity]
      · have differs : guid ≠ leaderGuid := fun same => outside (List.mem_singleton.mpr same)
        simp only [differs, false_and, if_false]
        rw [or_self]
        exact or_iff_left fun same => Nat.lt_irrefl _ (allocated guid _ same)

theorem joinable_iff {world world' : GroupWorld} {id : Nat} (guids : List ObjectGuid)
    (leaderOnline : realm.getPlayer leaderGuid ≠ none)
    (slots : (world'.group id).memberSlots = world.leaderSlots leaderGuid)
    (capacity : (world'.group id).capacity = world.leaderCapacity leaderGuid)
    (free : ∀ guid, guid ∉ world.leaderSlots leaderGuid →
      ((world'.getGroup guid = none ∨ world'.getGroup guid = some id) ↔
        (world.getGroup guid = none ∨ world.getGroup guid = world.getGroup leaderGuid))) :
    (∀ guid ∈ guids, Joins realm leaderGuid world' id guid) ∧
        world'.HasRoom id (newcomers world' id guids) ↔
      Joinable realm leaderGuid world guids := by
  rw [GroupWorld.HasRoom, newcomers, slots, capacity]
  constructor
  · rintro ⟨enters, room⟩
    refine ⟨fun guid listed => (enters guid listed).online, leaderOnline, ?_, room⟩
    intro guid listed
    by_cases already : guid ∈ world.leaderSlots leaderGuid
    · exact .inl already
    · have joins := (enters guid listed).joins
      rw [slots, free guid already] at joins
      exact joins
  · intro joinable
    refine ⟨fun guid listed => ⟨joinable.online guid listed, ?_⟩, joinable.room⟩
    rw [slots]
    by_cases already : guid ∈ world.leaderSlots leaderGuid
    · exact .inl already
    · rw [free guid already]
      exact joinable.joins guid listed

/-- The players of an offer are added exactly if they can enter the leader's group, and then
they are all in one group. -/
theorem addPlayersToGroup_leader {world : GroupWorld} (allocated : world.Allocated)
    {guids : List ObjectGuid} (nonempty : guids ≠ []) (nodup : guids.Nodup) :
    ((addPlayersToGroup realm leaderGuid world none guids).2 = true ↔
      Joinable realm leaderGuid world guids) ∧
    ((addPlayersToGroup realm leaderGuid world none guids).2 = true → ∃ id, ∀ guid ∈ guids,
      guid ∈ ((addPlayersToGroup realm leaderGuid world none guids).1.group id).memberSlots) := by
  cases guids with
  | nil => exact absurd rfl nonempty
  | cons guid rest =>
      cases here : realm.getPlayer guid with
      | none =>
          have stops :
            (addPlayersToGroup realm leaderGuid world none (guid :: rest)).2 = false := by
            simp only [addPlayersToGroup, addPlayerToGroup, here]
          rw [stops]
          refine ⟨iff_of_false Bool.false_ne_true fun joinable => ?_, nofun⟩
          exact joinable.online guid List.mem_cons_self here
      | some member =>
          by_cases leaderOnline : realm.getPlayer leaderGuid = none
          · have stops :
              (addPlayersToGroup realm leaderGuid world none (guid :: rest)).2 = false := by
              simp only [addPlayersToGroup, addPlayerToGroup, findOrCreateGroup, here, leaderOnline]
            rw [stops]
            refine ⟨iff_of_false Bool.false_ne_true fun joinable => ?_, nofun⟩
            exact joinable.leaderOnline leaderOnline
          · obtain ⟨world', id, found, slots, capacity, free⟩ :=
              findOrCreateGroup_some realm leaderGuid world allocated leaderOnline
            have same : addPlayersToGroup realm leaderGuid world none (guid :: rest) =
                addPlayersToGroup realm leaderGuid world' (some id) (guid :: rest) := by
              have again : findOrCreateGroup realm leaderGuid world' (some id) =
                  (world', some id) := rfl
              simp only [addPlayersToGroup, addPlayerToGroup, here, found, again]
            rw [same, addPlayersToGroup_iff realm leaderGuid nodup]
            refine ⟨joinable_iff realm leaderGuid _ leaderOnline slots capacity free, ?_⟩
            rw [← addPlayersToGroup_iff realm leaderGuid nodup]
            exact fun added => ⟨id, fun other listed =>
              addPlayersToGroup_members realm leaderGuid added other (.inl listed)⟩

end Offer

/-- The group of the player is the one he queued with: he queued alone and has none, or it is a
party of his queue leader that he is in. -/
def GroupWorld.asQueued (world : GroupWorld) (guid : ObjectGuid) (queued : QueuedPlayer) : Bool :=
  match world.getGroup guid with
  | none => queued.queueLeaderGuid == guid
  | some id =>
      (world.group id).leaderGuid == queued.queueLeaderGuid && (world.group id).isMember guid &&
        !(world.group id).isRaidGroup

namespace LFTManager

variable (lfg : LFTManager) (realm : Realm) (world : GroupWorld) (offerId : UInt32)

/-- Completion puts all into one group if they are in the world and in the groups they queued
with, and where it fails it changes no group and nobody loses his place in the queue. -/
structure Atomic (offer : Offer) : Prop where
  completes : (∀ member ∈ offer.roles.entries, realm.getPlayer member.1 ≠ none ∧
      (lfg.queue.find? member.1).any (world.asQueued member.1) = true) →
    ∃ id, ∀ member ∈ offer.roles.entries,
      member.1 ∈ ((lfg.completeOffer realm world offerId).2.1.group id).memberSlots
  groupsKept : (lfg.completeOffer realm world offerId).2.2 = false →
    (lfg.completeOffer realm world offerId).2.1.getGroup = world.getGroup ∧
      ∀ id, ((lfg.completeOffer realm world offerId).2.1.group id).memberSlots =
        (world.group id).memberSlots
  queueKept : (lfg.completeOffer realm world offerId).2.2 = false →
    ∀ guid, lfg.queue.find? guid ≠ none →
      (lfg.completeOffer realm world offerId).1.queue.find? guid ≠ none

theorem completeOffer_allocated (allocated : world.Allocated) :
    (lfg.completeOffer realm world offerId).2.1.Allocated := by
  simp only [completeOffer]
  split
  case h_1 => exact allocated
  case h_2 offer _ =>
    have kept := addPlayersToGroup_allocated realm (lfg.offerLeader offer) allocated
      (nofun : ∀ id, none = some id → id < world.nextGroup) (offer.roles.entries.map (·.1))
    split
    case h_1 here =>
      rw [here] at kept
      exact kept
    case h_2 here =>
      rw [here] at kept
      exact kept

theorem find?_cancelMember (offer : Offer) {guids : List ObjectGuid} {guid : ObjectGuid}
    (gone : guid ∈ guids ∨ lfg.queue.find? guid = none) :
    (guids.foldl (cancelMember offer false 0 false) lfg).queue.find? guid = none := by
  induction guids generalizing lfg with
  | nil => exact gone.resolve_left List.not_mem_nil
  | cons first rest ih =>
      rw [List.foldl_cons]
      refine ih _ ?_
      have queue : (cancelMember offer false 0 false lfg first).queue = lfg.queue.erase first := by
        simp only [cancelMember, Bool.false_and]
        cases lfg.queue.find? first <;> rfl
      rw [queue]
      by_cases same : guid = first
      · rw [same]
        exact .inr (OrderedMap.find?_erase_self _ _)
      · rw [OrderedMap.find?_erase_of_ne _ same]
        exact gone.imp_left fun listed => (List.mem_cons.mp listed).resolve_left same

theorem find?_cancelOffer {offer : Offer} (found : lfg.offers.find? offerId = some offer)
    {member : ObjectGuid × Role} (listed : member ∈ offer.roles.entries) :
    (lfg.cancelOffer offerId false).queue.find? member.1 = none := by
  simp only [cancelOffer, found]
  exact lfg.find?_cancelMember offer (.inl (List.mem_map_of_mem listed))

/-- Completion of an offer with a player in the queue is all or nothing exactly if all of its
players can enter the leader's group. -/
theorem completeOffer_atomic_iff (allocated : world.Allocated) {offer : Offer}
    (found : lfg.offers.find? offerId = some offer)
    (queued : ∃ member ∈ offer.roles.entries, lfg.queue.find? member.1 ≠ none) :
    lfg.Atomic realm world offerId offer ↔
      Joinable realm (lfg.offerLeader offer) world (offer.roles.entries.map (·.1)) := by
  obtain ⟨member, listed, inQueue⟩ := queued
  have nonempty : offer.roles.entries.map (·.1) ≠ [] :=
    List.ne_nil_of_mem (List.mem_map_of_mem listed)
  obtain ⟨added, together⟩ := addPlayersToGroup_leader realm (lfg.offerLeader offer) allocated
    nonempty offer.roles.keys_nodup
  rw [← added]
  cases outcome : addPlayersToGroup realm (lfg.offerLeader offer) world none
    (offer.roles.entries.map (·.1)) with
  | mk world' done =>
      rw [outcome] at together
      cases done with
      | false =>
          have result : lfg.completeOffer realm world offerId =
              (lfg.cancelOffer offerId false, world', false) := by
            simp only [completeOffer, found, outcome]
          refine iff_of_false (fun atomic => ?_) Bool.false_ne_true
          have kept := atomic.queueKept (by rw [result]) member.1 inQueue
          rw [result] at kept
          exact kept (lfg.find?_cancelOffer offerId found listed)
      | true =>
          have result : (lfg.completeOffer realm world offerId).2 = (world', true) := by
            simp only [completeOffer, found, outcome]
          refine iff_of_true ⟨fun _ => ?_, ?_, ?_⟩ rfl
          · rw [result]
            obtain ⟨id, members⟩ := together rfl
            exact ⟨id, fun other inside => members other.1 (List.mem_map_of_mem inside)⟩
          · rw [result]
            exact nofun
          · rw [result]
            exact nofun

theorem queued_offerTo (id : UInt32) (members : List (Entry × Role)) {guid : ObjectGuid}
    (queued : lfg.queue.find? guid ≠ none) :
    (members.foldl (offerTo id) lfg).queue.find? guid ≠ none := by
  induction members generalizing lfg with
  | nil => exact queued
  | cons member rest ih =>
      refine ih _ ?_
      by_cases same : guid = member.1.1
      · rw [same, offerTo, OrderedMap.find?_assign_self]
        exact Option.some_ne_none _
      · rw [offerTo, OrderedMap.find?_assign_of_ne _ same]
        exact queued

theorem tryBuildOffer_queued {inst : String} {lfg' : LFTManager}
    (built : lfg.tryBuildOfferForInstance realm inst = (lfg', true)) :
    ∃ offer, lfg'.offers.find? lfg.nextOfferId = some offer ∧ offer.roles.entries.length = 5 ∧
      ∀ member ∈ offer.roles.entries, lfg'.queue.find? member.1 ≠ none := by
  simp only [tryBuildOfferForInstance] at built
  split at built
  case h_1 => cases built
  case h_2 team found =>
    cases built
    obtain ⟨seed, -, -, rfl, complete⟩ := lfg.findTeam_some realm inst found
    have sound := lfg.buildTeam_sound realm inst seed
    have perm := lfg.selectedRoles_perm realm inst seed sound
    refine ⟨_, (lfg.offers_makeOffer inst _).1 ▸ OrderedMap.find?_assign_self _ _ _, ?_, ?_⟩
    · rw [perm.length_eq, List.length_map, (complete_iff.mp complete).2]
    · intro member listed
      obtain ⟨chosen, inside, rfl⟩ := List.mem_map.mp (perm.mem_iff.mp listed)
      apply queued_offerTo
      change lfg.queue.find? chosen.1.1 ≠ none
      rw [OrderedMap.find?_of_mem (sound.queued _ (List.mem_map_of_mem inside))]
      exact Option.some_ne_none _

end LFTManager

/-- The players of an offer that can be completed are alone, or in the party of the leader. -/
theorem Joinable.oneParty {realm : Realm} {leaderGuid : ObjectGuid} {world : GroupWorld}
    {guids : List ObjectGuid} (joinable : Joinable realm leaderGuid world guids)
    (current : ∀ guid id, guid ∈ (world.group id).memberSlots → world.getGroup guid = some id)
    {guid : ObjectGuid} (listed : guid ∈ guids) :
    world.getGroup guid = none ∨ world.getGroup guid = world.getGroup leaderGuid := by
  rcases joinable.joins guid listed with already | ⟨free, -⟩
  · rw [GroupWorld.leaderSlots] at already
    cases leader : world.getGroup leaderGuid with
    | none =>
        rw [leader] at already
        rw [List.mem_singleton.mp already]
        exact .inl leader
    | some id =>
        rw [leader] at already
        exact .inr (current guid id already)
  · exact free

namespace LFTManager

def partyWorld : GroupWorld where
  group := fun id =>
    if id = 0 then { leaderGuid := 1, memberSlots := [1, 2] }
    else { leaderGuid := 4, memberSlots := [4, 5] }
  getGroup := fun guid =>
    if guid = 1 ∨ guid = 2 then some 0 else if guid = 4 ∨ guid = 5 then some 1 else none
  nextGroup := 2

theorem partyWorld_allocated : partyWorld.Allocated := by
  intro guid id has
  simp only [partyWorld] at has ⊢
  split at has
  case isTrue =>
    cases has
    decide
  split at has
  case isTrue =>
    cases has
    decide
  cases has

def oneParty : LFTManager :=
  (queueOf [queuedWith 1 1 1 false, queuedWith 1 2 2 false, solo 3 4 false, solo 6 4 false,
    solo 7 4 false]).tryMakeOffers plainRealm

theorem oneParty_allocated : (oneParty.completeOffer plainRealm partyWorld 1).2.1.Allocated :=
  completeOffer_allocated oneParty plainRealm partyWorld 1 partyWorld_allocated

theorem oneParty_completes :
    ∃ offer, oneParty.offers.find? 1 = some offer ∧
      oneParty.Atomic plainRealm partyWorld 1 offer := by
  have here : (oneParty.offers.find? 1).map (fun offer =>
      (oneParty.offerLeader offer, offer.roles.entries.map (·.1))) =
        some (1, [1, 2, 3, 6, 7]) := by
    decide +kernel
  obtain ⟨offer, found, same⟩ := Option.map_eq_some_iff.mp here
  obtain ⟨leader, guids⟩ := Prod.mk.inj same
  have first : ∃ member ∈ offer.roles.entries, oneParty.queue.find? member.1 ≠ none := by
    have listed : 1 ∈ offer.roles.entries.map (·.1) := guids ▸ List.mem_cons_self
    obtain ⟨member, inside, eq⟩ := List.mem_map.mp listed
    refine ⟨member, inside, ?_⟩
    rw [eq, ← Option.isSome_iff_ne_none]
    decide +kernel
  refine ⟨offer, found, (completeOffer_atomic_iff oneParty plainRealm partyWorld 1
    partyWorld_allocated found first).mpr ?_⟩
  rw [leader, guids]
  exact
    { online := fun _ _ => Option.some_ne_none _
      leaderOnline := Option.some_ne_none _
      joins := by
        intro guid listed
        by_cases first : guid = 1 ∨ guid = 2
        · refine .inl ?_
          rcases first with rfl | rfl <;> decide
        · refine .inr ⟨.inl ?_, fun member here => ?_⟩
          · simp only [List.mem_cons, List.not_mem_nil, or_false] at listed
            rcases listed with rfl | rfl | rfl | rfl | rfl <;> simp [partyWorld] at first ⊢
          · cases here
            decide
      room := by decide }

def twoParties : LFTManager :=
  (queueOf [queuedWith 1 1 1 false, queuedWith 1 2 2 false, solo 3 4 false,
    queuedWith 4 4 4 false, queuedWith 4 5 4 false]).tryMakeOffers plainRealm

def twoPartiesAccepted : LFTManager × GroupWorld :=
  [1, 2, 3, 4, 5].foldl (fun state guid => state.1.handleOfferAccept plainRealm state.2 guid)
    (twoParties, partyWorld)

/-- All five are in the groups they queued with and accept; 3 is put into the party of 1 and 2,
4 cannot be, and nobody is in the queue any more. -/
theorem twoParties_torn :
    (∀ guid ∈ [1, 2, 3, 4, 5],
      (twoParties.queue.find? guid).any (partyWorld.asQueued guid) = true) ∧
    (twoPartiesAccepted.2.getGroup 3 = some 0 ∧ twoPartiesAccepted.2.getGroup 4 = some 1 ∧
      twoPartiesAccepted.1.queue.entries = []) ∧
    ¬ ∀ offer, twoParties.offers.find? 1 = some offer →
      twoParties.Atomic plainRealm partyWorld 1 offer := by
  refine ⟨by decide +kernel, by decide +kernel, fun atomic => ?_⟩
  have here : (twoParties.offers.find? 1).isSome = true := by decide +kernel
  obtain ⟨offer, found⟩ := Option.isSome_iff_exists.mp here
  have fails : (twoParties.completeOffer plainRealm partyWorld 1).2.2 = false := by decide +kernel
  have queued : (twoParties.queue.find? 1).isSome = true := by decide +kernel
  have gone :
    ((twoParties.completeOffer plainRealm partyWorld 1).1.queue.find? 1).isNone = true := by
    decide +kernel
  exact (atomic offer found).queueKept fails 1 (Option.isSome_iff_ne_none.mp queued)
    (Option.isNone_iff_eq_none.mp gone)

end LFTManager

end TortoiseWow.LFT
