import Mathlib
import TortoiseWow.Guild.Frame
import TortoiseWow.Lib.FixedWidth
import TortoiseWow.Lib.Run

/-!
Which rights the members of a guild have. Every right shares the bit of `empty`, and a
right is held when the bits that are left of it are not just that one. So a rank without
the bit, and a rank that is gone, hold every right.
-/

namespace TortoiseWow.Guilds

open Lib

variable {server : Server} {g : Guild} {w : World} {slot : MemberSlot} {actor : Nat}
  {player : Player}

namespace Guild

def RankContains (g : Guild) (rankId : Nat) (right : UInt32) : Prop :=
  ∃ rank, g.ranks[rankId]? = some rank ∧ rank.rights &&& right = right

def RankSound (g : Guild) (rankId : Nat) : Prop := g.RankContains rankId GuildRankRights.empty

/-- What each member can do is what the member's rank says. -/
def RightsContained (g : Guild) : Prop :=
  ∀ guid slot, g.members.find? guid = some slot →
    slot.rankId < g.ranks.length ∧
    ∀ right ∈ GuildRankRights.asked,
      (g.hasRankRight slot.rankId right = true ↔ g.RankContains slot.rankId right)

def AllSound (g : Guild) : Prop :=
  ∀ guid slot, g.members.find? guid = some slot → g.RankSound slot.rankId

theorem getRankRights_of_getElem? {rankId : Nat} {rank : RankInfo}
    (found : g.ranks[rankId]? = some rank) :
    g.getRankRights rankId = rank.rights := by
  rw [getRankRights, found]

/-- The bits of the rights, in the order of the rights. -/
def askedBits : List Nat := [0, 1, 2, 3, 7, 8, 4, 5, 12, 13, 14, 15, 16]

theorem asked_eq_map :
    GuildRankRights.asked = askedBits.map fun i =>
      GuildRankRights.empty ||| UInt32.ofNat (2 ^ i) := by
  decide

theorem asked_split {right : UInt32} (asked : right ∈ GuildRankRights.asked) :
    ∃ bit i, right = GuildRankRights.empty ||| bit ∧ bit.toNat = 2 ^ i ∧
      GuildRankRights.empty &&& bit = 0 ∧ bit ≠ 0 := by
  rw [asked_eq_map] at asked
  obtain ⟨i, mem, rfl⟩ := List.mem_map.mp asked
  have single : ∀ i ∈ askedBits, (UInt32.ofNat (2 ^ i)).toNat = 2 ^ i := by decide
  have apart : ∀ i ∈ askedBits, GuildRankRights.empty &&& UInt32.ofNat (2 ^ i) = 0 := by decide
  have nonzero : ∀ i ∈ askedBits, UInt32.ofNat (2 ^ i) ≠ 0 := by decide
  exact ⟨_, i, rfl, single i mem, apart i mem, nonzero i mem⟩

theorem right_of_shared {rights right : UInt32} (asked : right ∈ GuildRankRights.asked)
    (shared : rights &&& GuildRankRights.empty = GuildRankRights.empty) :
    rights &&& right ≠ GuildRankRights.empty ↔ rights &&& right = right := by
  obtain ⟨bit, i, rfl, single, apart, nonzero⟩ := asked_split asked
  have two : GuildRankRights.empty ≠ GuildRankRights.empty ||| bit := by
    intro same
    have masked := congrArg (· &&& bit) same
    simp only [or_and_uint32, apart, UInt32.and_self, UInt32.zero_or] at masked
    exact nonzero masked.symm
  rw [and_or_uint32, shared]
  rcases and_bit_uint32 rights single with without | within
  · rw [without, UInt32.or_zero]
    exact iff_of_false (fun apart => apart rfl) two
  · rw [within]
    exact iff_of_true two.symm rfl

theorem right_without_shared {rights : UInt32}
    (missing : rights &&& GuildRankRights.empty ≠ GuildRankRights.empty) {right : UInt32}
    (asked : right ∈ GuildRankRights.asked) :
    rights &&& right ≠ GuildRankRights.empty ∧ rights &&& right ≠ right := by
  have base : right &&& GuildRankRights.empty = GuildRankRights.empty := by
    obtain ⟨bit, -, rfl, -, apart, -⟩ := asked_split asked
    rw [UInt32.and_comm, and_or_uint32, apart, UInt32.and_self, UInt32.or_zero]
  have masked : rights &&& right &&& GuildRankRights.empty = rights &&& GuildRankRights.empty := by
    rw [UInt32.and_assoc, base]
  constructor
  · intro same
    rw [same, UInt32.and_self] at masked
    exact missing masked.symm
  · intro same
    rw [same, base] at masked
    exact missing masked.symm

theorem hasRankRight_of_sound {rankId : Nat} (sound : g.RankSound rankId) {right : UInt32}
    (asked : right ∈ GuildRankRights.asked) :
    g.hasRankRight rankId right = true ↔ g.RankContains rankId right := by
  obtain ⟨rank, found, shared⟩ := sound
  rw [hasRankRight, bne_iff_ne, getRankRights_of_getElem? found, right_of_shared asked shared]
  constructor
  · intro contained
    exact ⟨rank, found, contained⟩
  · rintro ⟨other, same, contained⟩
    cases found.symm.trans same
    exact contained

theorem sound_of_hasRankRight {rankId : Nat} (below : rankId < g.ranks.length)
    (agree : ∀ right ∈ GuildRankRights.asked,
      (g.hasRankRight rankId right = true ↔ g.RankContains rankId right)) : g.RankSound rankId := by
  have found : g.ranks[rankId]? = some g.ranks[rankId] := List.getElem?_eq_getElem below
  refine ⟨g.ranks[rankId], found, ?_⟩
  by_contra missing
  have asked : GuildRankRights.gchatListen ∈ GuildRankRights.asked := by decide
  obtain ⟨granted, outside⟩ := right_without_shared missing asked
  have has : g.hasRankRight rankId GuildRankRights.gchatListen = true := by
    rw [hasRankRight, bne_iff_ne, getRankRights_of_getElem? found]
    exact granted
  obtain ⟨rank, same, contained⟩ := (agree _ asked).mp has
  cases found.symm.trans same
  exact outside contained

theorem RankContains.lt {rankId : Nat} {right : UInt32} (contains : g.RankContains rankId right) :
    rankId < g.ranks.length := by
  obtain ⟨rank, found, -⟩ := contains
  exact (List.getElem?_eq_some_iff.mp found).1

theorem rightsContained_iff : g.RightsContained ↔ g.AllSound := by
  constructor
  · intro contained guid slot mem
    obtain ⟨below, agree⟩ := contained guid slot mem
    exact sound_of_hasRankRight below agree
  · intro sound guid slot mem
    exact ⟨(sound guid slot mem).lt, fun right asked =>
      hasRankRight_of_sound (sound guid slot mem) asked⟩

/-- What every message keeps: at least five ranks, and all rights with the first. -/
structure Governed (g : Guild) : Prop where
  keyed : g.Keyed
  enough : guildRanksMinCount ≤ g.ranks.length
  master : ∃ rank, g.ranks[grGuildmaster]? = some rank ∧ rank.rights = GuildRankRights.all

theorem Governed.sound_master (governed : g.Governed) : g.RankSound grGuildmaster := by
  obtain ⟨rank, found, rights⟩ := governed.master
  exact ⟨rank, found, by rw [rights]; rfl⟩

theorem Governed.putMember (governed : g.Governed) (slot : MemberSlot) :
    (g.putMember slot).Governed :=
  ⟨governed.keyed.putMember slot, governed.enough, governed.master⟩

theorem Governed.eraseMember (governed : g.Governed) (guid : Nat) : (g.eraseMember guid).Governed :=
  ⟨governed.keyed.eraseMember guid, governed.enough, governed.master⟩

theorem Governed.withLeader (governed : g.Governed) (guid : Nat) :
    Governed { g with leaderGuid := guid } :=
  ⟨governed.keyed, governed.enough, governed.master⟩

theorem allSound_putMember (sound : g.AllSound) (slot : MemberSlot) :
    (g.putMember slot).AllSound ↔ g.RankSound slot.rankId := by
  constructor
  · intro after
    exact after slot.guid slot (by rw [find?_putMember, if_pos rfl])
  · intro moved guid found mem
    rw [find?_putMember] at mem
    by_cases same : guid = slot.guid
    · rw [if_pos same] at mem
      cases mem
      exact moved
    · rw [if_neg same] at mem
      exact sound guid found mem

theorem allSound_eraseMember (sound : ∀ guid slot, g.members.find? guid = some slot →
    guid ≠ erased → g.RankSound slot.rankId) : (g.eraseMember erased).AllSound := by
  intro guid slot mem
  rw [find?_eraseMember] at mem
  by_cases same : guid = erased
  · rw [if_pos same] at mem
    cases mem
  · rw [if_neg same] at mem
    exact sound guid slot mem same

theorem allSound_setLeader (governed : g.Governed) (sound : g.AllSound) :
    (setLeader g w slot).1.AllSound :=
  (allSound_putMember (g := { g with leaderGuid := slot.guid }) sound _).mpr governed.sound_master

theorem allSound_setNewLeader (governed : g.Governed) (sound : g.AllSound) (old : MemberSlot) :
    (setNewLeader g w slot (some old)).1.AllSound ↔ g.RankSound grOfficer :=
  allSound_putMember (g := (setLeader g w slot).1) (allSound_setLeader governed sound)
    { old with rankId := grOfficer }

theorem governed_setNewLeader (governed : g.Governed) (old : Option MemberSlot) :
    (setNewLeader g w slot old).1.Governed := by
  have first := (governed.withLeader slot.guid).putMember { slot with rankId := grGuildmaster }
  cases old with
  | none => exact first
  | some old => exact first.putMember _

theorem governed_delMember (governed : g.Governed) (guid : Nat) (isDisbanding : Bool) :
    (delMember g w guid isDisbanding).2.1.Governed := by
  rw [delMember]
  split
  · cases getSuitableNewLeader g with
    | none => exact governed
    | some best => exact (governed_setNewLeader governed _).eraseMember guid
  · exact governed.eraseMember guid

/-- The rank of an officer that the old leader gets on the way out goes with the slot. -/
theorem allSound_leaderGone (governed : g.Governed) (sound : g.AllSound) {old : Option MemberSlot}
    (leaves : ∀ leader, old = some leader → leader.guid = erased) :
    ((setNewLeader g w slot old).1.eraseMember erased).AllSound := by
  apply allSound_eraseMember
  intro other found mem apart
  cases old with
  | none => exact allSound_setLeader governed sound other found mem
  | some leader =>
      rw [setNewLeader_find?, leaves leader rfl, if_neg apart] at mem
      exact allSound_setLeader governed sound other found mem

theorem allSound_delMember (governed : g.Governed) (sound : g.AllSound) (guid : Nat)
    (isDisbanding : Bool) : (delMember g w guid isDisbanding).2.1.AllSound := by
  rw [delMember]
  split
  · rename_i leaves
    cases getSuitableNewLeader g with
    | none => exact sound
    | some best =>
        refine allSound_leaderGone governed sound fun leader found => ?_
        exact (governed.keyed _ _ found).trans leaves.1
  · exact allSound_eraseMember fun other slot mem _ => sound other slot mem

theorem rankContains_createRank {rankId : Nat} {right : UInt32} (name : Text) (rights : UInt32)
    (contains : g.RankContains rankId right) :
    (createRank g w name rights).1.RankContains rankId right := by
  obtain ⟨rank, found, bits⟩ := contains
  rw [createRank]
  split
  · exact ⟨rank, found, bits⟩
  · have below := (List.getElem?_eq_some_iff.mp found).1
    exact ⟨rank, (List.getElem?_append_left below).trans found, bits⟩

theorem createRank_members (name : Text) (rights : UInt32) :
    (createRank g w name rights).1.members = g.members := by
  rw [createRank]
  split
  · rfl
  · rfl

theorem governed_createRank (governed : g.Governed) (name : Text) (rights : UInt32) :
    (createRank g w name rights).1.Governed := by
  obtain ⟨rank, found, bits⟩ := governed.master
  rw [createRank]
  split
  · exact governed
  · have below := (List.getElem?_eq_some_iff.mp found).1
    refine ⟨governed.keyed, ?_, rank, (List.getElem?_append_left below).trans found, bits⟩
    have grown : (g.ranks ++ [RankInfo.mk name rights]).length = g.ranks.length + 1 :=
      List.length_append
    exact governed.enough.trans (grown ▸ Nat.le_succ _)

theorem allSound_createRank (sound : g.AllSound) (name : Text) (rights : UInt32) :
    (createRank g w name rights).1.AllSound := by
  intro guid slot mem
  rw [createRank_members] at mem
  exact rankContains_createRank name rights (sound guid slot mem)

theorem governed_delRank (governed : g.Governed) : (delRank g w).1.Governed := by
  obtain ⟨rank, found, bits⟩ := governed.master
  rw [delRank]
  split
  · exact governed
  · rename_i more
    have length : g.ranks.dropLast.length = g.ranks.length - 1 := List.length_dropLast
    have five : guildRanksMinCount = 5 := rfl
    refine ⟨governed.keyed, ?_, rank, ?_, bits⟩
    · show guildRanksMinCount ≤ g.ranks.dropLast.length
      omega
    · show g.ranks.dropLast[grGuildmaster]? = some rank
      rw [List.getElem?_dropLast, if_pos (by rw [grGuildmaster]; omega)]
      exact found

/-- Nobody may hold the rank that goes. -/
theorem allSound_delRank (sound : g.AllSound) :
    (delRank g w).1.AllSound ↔
      (guildRanksMinCount < g.ranks.length →
        ∀ guid slot, g.members.find? guid = some slot → slot.rankId ≠ g.getLowestRank) := by
  rw [delRank]
  by_cases few : g.ranks.length ≤ guildRanksMinCount
  · rw [if_pos few]
    exact iff_of_true sound fun more => absurd few (Nat.not_le.mpr more)
  · rw [if_neg few]
    have contains (rankId : Nat) (apart : rankId ≠ g.getLowestRank) (before : g.RankSound rankId) :
        RankSound { g with ranks := g.ranks.dropLast } rankId := by
      have below := before.lt
      obtain ⟨rank, found, bits⟩ := before
      refine ⟨rank, ?_, bits⟩
      show g.ranks.dropLast[rankId]? = some rank
      rw [getLowestRank] at apart
      rw [List.getElem?_dropLast, if_pos (by omega)]
      exact found
    constructor
    · intro after _ guid slot mem same
      have below : slot.rankId < g.ranks.dropLast.length := (after guid slot mem).lt
      rw [List.length_dropLast, same, getLowestRank] at below
      exact Nat.lt_irrefl _ below
    · intro free guid slot mem
      exact contains slot.rankId (free (Nat.lt_of_not_le few) guid slot mem) (sound guid slot mem)

theorem modifyRank_ranks_getElem? (rankId : Nat) (f : RankInfo → RankInfo) (i : Nat) :
    (g.modifyRank rankId f).ranks[i]? = if rankId = i then g.ranks[i]?.map f else g.ranks[i]? := by
  show (g.ranks.modify rankId f)[i]? = _
  rw [List.getElem?_modify]
  split
  · rfl
  · exact congrFun Option.map_id _

theorem governed_modifyRank (governed : g.Governed) {rankId : Nat} {f : RankInfo → RankInfo}
    (master : rankId = grGuildmaster → ∀ rank, rank.rights = GuildRankRights.all →
      (f rank).rights = GuildRankRights.all) : (g.modifyRank rankId f).Governed := by
  obtain ⟨rank, found, bits⟩ := governed.master
  refine ⟨governed.keyed, ?_, ?_⟩
  · exact governed.enough.trans (List.length_modify f g.ranks rankId).ge
  · by_cases same : rankId = grGuildmaster
    · refine ⟨f rank, ?_, master same rank bits⟩
      rw [modifyRank_ranks_getElem?, if_pos same, found, Option.map_some]
    · refine ⟨rank, ?_, bits⟩
      rw [modifyRank_ranks_getElem?, if_neg same, found]

theorem governed_setRankName (governed : g.Governed) (rankId : Nat) (name : Text) :
    (setRankName g w rankId name).1.Governed := by
  rw [setRankName]
  split
  · exact governed
  · exact governed_modifyRank governed fun _ _ bits => bits

theorem rankContains_setRankName {rankId : Nat} {right : UInt32} (edited : Nat) (name : Text) :
    (setRankName g w edited name).1.RankContains rankId right ↔ g.RankContains rankId right := by
  rw [setRankName]
  split
  · exact Iff.rfl
  · simp only [RankContains, modifyRank_ranks_getElem?]
    split
    · simp [Option.map_eq_some_iff]
    · exact Iff.rfl

theorem setRankName_members (rankId : Nat) (name : Text) :
    (setRankName g w rankId name).1.members = g.members := by
  rw [setRankName]
  split
  · rfl
  · rfl

theorem allSound_setRankName (sound : g.AllSound) (rankId : Nat) (name : Text) :
    (setRankName g w rankId name).1.AllSound := by
  intro guid slot mem
  rw [setRankName_members] at mem
  exact (rankContains_setRankName rankId name).mpr (sound guid slot mem)

theorem governed_setRankRights (governed : g.Governed) {rankId : Nat} {rights : UInt32}
    (master : rankId = grGuildmaster → rights = GuildRankRights.all) :
    (setRankRights g w rankId rights).1.Governed := by
  rw [setRankRights]
  split
  · exact governed
  · exact governed_modifyRank governed fun first _ _ => master first

/-- Nobody may hold a rank that loses the shared bit. -/
theorem allSound_setRankRights (sound : g.AllSound) (rankId : Nat) (rights : UInt32) :
    (setRankRights g w rankId rights).1.AllSound ↔
      (rights &&& GuildRankRights.empty = GuildRankRights.empty ∨
        ∀ guid slot, g.members.find? guid = some slot → slot.rankId ≠ rankId) := by
  rw [setRankRights]
  by_cases outside : rankId ≥ g.ranks.length
  · rw [if_pos outside]
    refine iff_of_true sound (Or.inr fun guid slot mem same => ?_)
    exact absurd (sound guid slot mem).lt (Nat.not_lt.mpr (same ▸ outside))
  · rw [if_neg outside]
    have here (slotRank : Nat) (before : g.RankSound slotRank) :
        (g.modifyRank rankId fun rank => { rank with rights := rights }).RankSound slotRank ↔
          (rights &&& GuildRankRights.empty = GuildRankRights.empty ∨ slotRank ≠ rankId) := by
      obtain ⟨rank, found, bits⟩ := before
      rw [RankSound, RankContains, modifyRank_ranks_getElem?]
      by_cases same : rankId = slotRank
      · rw [if_pos same, found, Option.map_some]
        constructor
        · rintro ⟨edited, eq, shared⟩
          cases eq
          exact Or.inl shared
        · rintro (shared | apart)
          · exact ⟨_, rfl, shared⟩
          · exact absurd same.symm apart
      · rw [if_neg same, found]
        exact iff_of_true ⟨rank, rfl, bits⟩ (Or.inr fun eq => same eq.symm)
    constructor
    · intro after
      by_cases shared : rights &&& GuildRankRights.empty = GuildRankRights.empty
      · exact Or.inl shared
      · refine Or.inr fun guid slot mem => ?_
        exact ((here slot.rankId (sound guid slot mem)).mp (after guid slot mem)).resolve_left
          shared
    · intro careful guid slot mem
      exact (here slot.rankId (sound guid slot mem)).mpr
        (careful.imp_right fun free => free guid slot mem)

theorem delRank_id : (delRank g w).1.id = g.id := by
  rw [delRank]
  split
  · rfl
  · rfl

theorem delRank_members : (delRank g w).1.members = g.members := by
  rw [delRank]
  split
  · rfl
  · rfl

theorem setRankName_id (rankId : Nat) (name : Text) :
    (setRankName g w rankId name).1.id = g.id := by
  rw [setRankName]
  split
  · rfl
  · rfl

theorem setRankRights_id (rankId : Nat) (rights : UInt32) :
    (setRankRights g w rankId rights).1.id = g.id := by
  rw [setRankRights]
  split
  · rfl
  · rfl

theorem setRankRights_members (rankId : Nat) (rights : UInt32) :
    (setRankRights g w rankId rights).1.members = g.members := by
  rw [setRankRights]
  split
  · rfl
  · rfl

theorem rankContains_of_delRank {rankId : Nat} {right : UInt32}
    (contains : (delRank g w).1.RankContains rankId right) : g.RankContains rankId right := by
  rw [delRank] at contains
  split at contains
  · exact contains
  · obtain ⟨rank, found, bits⟩ := contains
    refine ⟨rank, ?_, bits⟩
    rw [List.getElem?_dropLast] at found
    split at found
    · exact found
    · cases found

theorem rankContains_of_setRankRights {rankId edited : Nat} {right rights : UInt32}
    (had : rights &&& right = right → g.RankContains edited right)
    (contains : (setRankRights g w edited rights).1.RankContains rankId right) :
    g.RankContains rankId right := by
  rw [setRankRights] at contains
  split at contains
  · exact contains
  · obtain ⟨rank, found, bits⟩ := contains
    rw [modifyRank_ranks_getElem?] at found
    by_cases same : edited = rankId
    · rw [if_pos same] at found
      obtain ⟨before, -, rfl⟩ := Option.map_eq_some_iff.mp found
      exact same ▸ had bits
    · rw [if_neg same] at found
      exact ⟨rank, found, bits⟩

end Guild

end TortoiseWow.Guilds
