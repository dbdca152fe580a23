import Mathlib
import TortoiseWow.Guild.Handlers

/-!
What the methods of a guild do to its members and ranks, and what they leave alone.
-/

namespace TortoiseWow.Guilds

open Lib

variable {server : Server} {g : Guild} {w : World} {slot : MemberSlot} {guid actor : Nat}
  {player : Player}

namespace Guild

@[simp] theorem find?_putMember (g : Guild) (slot : MemberSlot) (guid : Nat) :
    (g.putMember slot).members.find? guid =
      if guid = slot.guid then some slot else g.members.find? guid :=
  g.members.find?_assign slot.guid guid slot

@[simp] theorem find?_eraseMember (g : Guild) (erased guid : Nat) :
    (g.eraseMember erased).members.find? guid =
      if guid = erased then none else g.members.find? guid :=
  g.members.find?_erase erased guid

def Keyed (g : Guild) : Prop := ∀ guid slot, g.members.find? guid = some slot → slot.guid = guid

theorem Keyed.putMember (keyed : g.Keyed) (slot : MemberSlot) : (g.putMember slot).Keyed := by
  intro guid found mem
  rw [find?_putMember] at mem
  by_cases same : guid = slot.guid
  · rw [if_pos same] at mem
    cases mem
    exact same.symm
  · rw [if_neg same] at mem
    exact keyed guid found mem

theorem Keyed.eraseMember (keyed : g.Keyed) (erased : Nat) : (g.eraseMember erased).Keyed := by
  intro guid found mem
  rw [find?_eraseMember] at mem
  by_cases same : guid = erased
  · rw [if_pos same] at mem
    cases mem
  · rw [if_neg same] at mem
    exact keyed guid found mem

theorem find?_of_byName (keyed : g.Keyed) {name : Text}
    (found : g.getMemberSlotByName name = some slot) : g.members.find? slot.guid = some slot := by
  obtain ⟨entry, mem, rfl⟩ := Option.map_eq_some_iff.mp found
  have here : g.members.find? entry.1 = some entry.2 :=
    UnorderedMap.find?_eq_some_iff.mpr (List.mem_of_find?_eq_some mem)
  rwa [keyed entry.1 entry.2 here]

end Guild

theorem setNewLeader_find? (old : MemberSlot) :
    (setNewLeader g w slot (some old)).1.members.find? guid =
      if guid = old.guid then some { old with rankId := grOfficer }
      else (setLeader g w slot).1.members.find? guid :=
  Guild.find?_putMember (setLeader g w slot).1 _ guid

theorem createDefaultGuildRanks_guild (none : g.ranks = []) (localeIdx : Nat) :
    (createDefaultGuildRanks server g w localeIdx).1 =
      { g with
        ranks :=
          defaultRanks.map fun entry => ⟨server.mangosString entry.1 localeIdx, entry.2⟩ } := by
  cases g with
  | mk id name leaderGuid motd info ranks members =>
      cases none
      rfl

theorem createRank_world (name : Text) (rights : UInt32) :
    ∃ db, (createRank g w name rights).2 = { w with db := db } := by
  rw [createRank]
  split
  · exact ⟨w.db, rfl⟩
  · exact ⟨_, rfl⟩

theorem createDefaultGuildRanks_world (localeIdx : Nat) :
    ∃ db, (createDefaultGuildRanks server g w localeIdx).2 = { w with db := db } := by
  rw [createDefaultGuildRanks]
  apply List.foldlRecOn (motive := fun site : Guild × World => ∃ db, site.2 = { w with db := db })
  · exact ⟨_, rfl⟩
  · intro site only entry _
    obtain ⟨db, same⟩ := only
    obtain ⟨after, wrote⟩ := createRank_world (g := site.1) (w := site.2)
      (server.mangosString entry.1 localeIdx) entry.2
    exact ⟨after, by rw [wrote, same]⟩

def joiningSlot (server : Server) (guildId guid : Nat) (player : Player) (rank : Nat) :
    MemberSlot :=
  ⟨guid, player.name, (server.onAddMember guildId guid (UInt8.ofNat rank)).toNat, [], []⟩

theorem addMember_online (online : w.findPlayerNotInWorld actor = some player)
    (free : player.guildId = 0) (rank : Nat) :
    (addMember server g w actor rank).1 = .ok ∧
      (addMember server g w actor rank).2.1 =
        g.putMember (joiningSlot server g.id actor player rank) := by
  have joins : ¬player.guildId ≠ 0 := not_not.mpr free
  constructor
  · simp only [addMember, online, if_neg joins]
  · simp only [addMember, online, if_neg joins]
    rfl

@[simp] theorem createRank_guildMap (name : Text) (rights : UInt32) :
    (createRank g w name rights).2.guildMap = w.guildMap := by
  rw [createRank]
  split
  · rfl
  · rfl

@[simp] theorem delRank_guildMap : (delRank g w).2.guildMap = w.guildMap := by
  rw [delRank]
  split
  · rfl
  · rfl

@[simp] theorem setRankName_guildMap (rankId : Nat) (name : Text) :
    (setRankName g w rankId name).2.guildMap = w.guildMap := by
  rw [setRankName]
  split
  · rfl
  · rfl

@[simp] theorem setRankRights_guildMap (rankId : Nat) (rights : UInt32) :
    (setRankRights g w rankId rights).2.guildMap = w.guildMap := by
  rw [setRankRights]
  split
  · rfl
  · rfl

@[simp] theorem changeRank_guildMap (newRank : Nat) :
    (changeRank g w slot newRank).2.guildMap = w.guildMap := rfl

@[simp] theorem setNewLeader_guildMap (old : Option MemberSlot) :
    (setNewLeader g w slot old).2.guildMap = w.guildMap := by
  cases old with
  | none => rfl
  | some old => rfl

@[simp] theorem eraseMember_guildMap : (eraseMember g w guid).2.2.guildMap = w.guildMap := rfl

@[simp] theorem delMember_guildMap (isDisbanding : Bool) :
    (delMember g w guid isDisbanding).2.2.guildMap = w.guildMap := by
  rw [delMember]
  split
  · cases getSuitableNewLeader g with
    | none => rfl
    | some best => exact (eraseMember_guildMap).trans (setNewLeader_guildMap _)
  · rfl

theorem delMember_id (isDisbanding : Bool) : (delMember g w guid isDisbanding).2.1.id = g.id := by
  rw [delMember]
  split
  · cases getSuitableNewLeader g with
    | none => rfl
    | some best =>
        cases g.getMemberSlot g.leaderGuid with
        | none => rfl
        | some old => rfl
  · rfl

theorem delMembers_guild (guids : List Nat) :
    (delMembers g w guids).1.id = g.id ∧ (delMembers g w guids).2.guildMap = w.guildMap := by
  induction guids generalizing g w with
  | nil => exact ⟨rfl, rfl⟩
  | cons guid rest ih =>
      obtain ⟨id, map⟩ :=
        ih (g := (delMember g w guid true).2.1) (w := (delMember g w guid true).2.2)
      exact ⟨id.trans (delMember_id true), map.trans (delMember_guildMap true)⟩

theorem disband_guildMap : (disband g w).guildMap = w.guildMap.erase g.id := by
  obtain ⟨id, map⟩ := delMembers_guild (g := g) (w := w) g.members.keys
  show (delMembers g w g.members.keys).2.guildMap.erase (delMembers g w g.members.keys).1.id = _
  rw [id, map]

@[simp] theorem cancelSignature_guildMap : (w.cancelSignature guid).guildMap = w.guildMap := by
  rw [World.cancelSignature]
  split
  · rfl
  · rfl

theorem addMember_guildMap (rank : Nat) :
    (addMember server g w guid rank).2.2.guildMap = w.guildMap := by
  rw [addMember]
  split
  · split
    · rfl
    · exact cancelSignature_guildMap
  · split
    · rfl
    · dsimp only
      split
      · exact cancelSignature_guildMap
      · split
        · exact cancelSignature_guildMap
        · split
          · exact cancelSignature_guildMap
          · exact cancelSignature_guildMap

theorem enterGuild_guild (gname : Text) (localeIdx : Nat) :
    (enterGuild server w actor gname localeIdx).1 =
      { newGuild w.nextGuildId actor gname with
        ranks := defaultRanks.map fun entry => ⟨server.mangosString entry.1 localeIdx, entry.2⟩ } :=
  createDefaultGuildRanks_guild rfl localeIdx

/-- Founding a guild only takes an id and writes to the tables. -/
theorem enterGuild_world (gname : Text) (localeIdx : Nat) :
    ∃ db, (enterGuild server w actor gname localeIdx).2 =
      { w with nextGuildId := w.nextGuildId + 1, db := db } := by
  rw [enterGuild]
  exact createDefaultGuildRanks_world localeIdx

theorem create_taken {gname : Text} (taken : (w.getGuildByName gname).isSome) (localeIdx : Nat) :
    create server w actor gname localeIdx = (false, newGuild w.nextGuildId actor gname, w) := by
  rw [create, if_pos taken]

theorem create_free {gname : Text} (online : w.findPlayerNotInWorld actor = some player)
    (free : player.guildId = 0) (unused : w.getGuildByName gname = none) (localeIdx : Nat) :
    (create server w actor gname localeIdx).1 = true ∧
      (create server w actor gname localeIdx).2.1 =
        (enterGuild server w actor gname localeIdx).1.putMember
        (joiningSlot server w.nextGuildId actor player grGuildmaster) ∧
      (create server w actor gname localeIdx).2.2.guildMap = w.guildMap := by
  have absent : ¬(w.getGuildByName gname).isSome := by rw [unused]; exact Bool.false_ne_true
  have entered : ∃ db, (enterGuild server w actor gname localeIdx).2 =
      { w with nextGuildId := w.nextGuildId + 1, db := db } := enterGuild_world gname localeIdx
  obtain ⟨db, world⟩ := entered
  have here : (enterGuild server w actor gname localeIdx).2.findPlayerNotInWorld actor =
    some player := by
    rw [world]
    exact online
  have key : (enterGuild server w actor gname localeIdx).1.id = w.nextGuildId := by
    rw [enterGuild_guild]
    rfl
  have map : (enterGuild server w actor gname localeIdx).2.guildMap = w.guildMap := by rw [world]
  obtain ⟨ok, member⟩ := @addMember_online server (enterGuild server w actor gname localeIdx).1 _
    actor player here free grGuildmaster
  rw [key] at member
  rw [create, if_neg absent]
  refine ⟨?_, member, (addMember_guildMap _).trans map⟩
  exact beq_iff_eq.mpr ok

namespace World

theorem ownGuild_ok (found : w.ownGuild player = .ok g) :
    w.guildMap.find? player.guildId = some g := by
  rw [ownGuild] at found
  split at found
  · cases found
    assumption
  · cases found

theorem guildWithRight_ok {right : UInt32} (found : w.guildWithRight player right = .ok g) :
    w.guildMap.find? player.guildId = some g := by
  rw [guildWithRight] at found
  split at found
  · cases found
  · rename_i own
    split at found
    · cases found
      exact ownGuild_ok own
    · cases found

theorem ledGuild_ok (found : w.ledGuild actor player = .ok g) :
    w.guildMap.find? player.guildId = some g ∧ actor = g.leaderGuid := by
  rw [ledGuild] at found
  split at found
  · cases found
  · rename_i own
    split at found
    · rename_i leads
      cases found
      exact ⟨ownGuild_ok own, leads⟩
    · cases found

theorem namedMember_ok {right : UInt32} {name : Text}
    (found : w.namedMember server player right name = .ok (g, slot)) :
    w.guildMap.find? player.guildId = some g ∧ ∃ name, g.getMemberSlotByName name = some slot := by
  rw [namedMember] at found
  split at found
  · cases found
  · split at found
    · cases found
    · rename_i own
      split at found
      · rename_i named
        cases found
        exact ⟨guildWithRight_ok own, _, named⟩
      · cases found

theorem checkRemove_ok {name : Text} (found : w.checkRemove server player name = .ok (g, slot)) :
    w.guildMap.find? player.guildId = some g ∧ (∃ name, g.getMemberSlotByName name = some slot) ∧
      slot.rankId ≠ grGuildmaster := by
  rw [checkRemove] at found
  split at found
  · cases found
  · split at found
    · cases found
    · rename_i named
      split at found
      · cases found
      · rename_i apart
        split at found
        · cases found
        · cases found
          exact ⟨(namedMember_ok named).1, (namedMember_ok named).2, apart⟩

theorem checkPromote_ok {name : Text}
    (found : w.checkPromote server actor player name = .ok (g, slot)) :
    w.guildMap.find? player.guildId = some g ∧ (∃ name, g.getMemberSlotByName name = some slot) ∧
      player.rank + 1 < slot.rankId := by
  rw [checkPromote] at found
  split at found
  · cases found
  · rename_i named
    split at found
    · cases found
    · split at found
      · cases found
      · rename_i low
        cases found
        exact ⟨(namedMember_ok named).1, (namedMember_ok named).2, Nat.lt_of_not_ge low⟩

theorem checkDemote_ok {name : Text}
    (found : w.checkDemote server actor player name = .ok (g, slot)) :
    w.guildMap.find? player.guildId = some g ∧ (∃ name, g.getMemberSlotByName name = some slot) ∧
      player.rank < slot.rankId ∧ slot.rankId < g.getLowestRank := by
  rw [checkDemote] at found
  split at found
  · cases found
  · rename_i named
    split at found
    · cases found
    · split at found
      · cases found
      · rename_i below
        split at found
        · cases found
        · rename_i above
          cases found
          exact ⟨(namedMember_ok named).1, (namedMember_ok named).2, Nat.lt_of_not_ge below,
            Nat.lt_of_not_ge above⟩

theorem checkLeader_ok {name : Text} {old : MemberSlot}
    (found : w.checkLeader server actor player name = .ok (g, old, slot)) :
    w.guildMap.find? player.guildId = some g ∧ actor = g.leaderGuid ∧
      g.getMemberSlot actor = some old ∧ (∃ name, g.getMemberSlotByName name = some slot) ∧
      old.guid ≠ slot.guid := by
  rw [checkLeader] at found
  split at found
  · cases found
  · split at found
    · cases found
    · rename_i led
      split at found
      · cases found
      · rename_i own
        split at found
        · cases found
        · rename_i named
          split at found
          · cases found
          · rename_i apart
            cases found
            exact ⟨(ledGuild_ok led).1, (ledGuild_ok led).2, own, ⟨_, named⟩, apart⟩

theorem checkAccept_ok (found : w.checkAccept server player = .ok g) :
    w.guildMap.find? player.guildIdInvited = some g ∧ player.guildId = 0 := by
  rw [checkAccept] at found
  split at found
  · cases found
  · rename_i invited
    split at found
    · cases found
    · rename_i free
      split at found
      · cases found
      · cases found
        exact ⟨invited, not_not.mp free⟩

theorem checkLeave_ok (found : w.checkLeave actor player = .ok g) :
    w.guildMap.find? player.guildId = some g := by
  rw [checkLeave] at found
  split at found
  · cases found
  · rename_i own
    split at found
    · cases found
    · cases found
      exact ownGuild_ok own

theorem checkMotd_ok {text : Text} (found : w.checkMotd player text = .ok g) :
    w.guildMap.find? player.guildId = some g := by
  rw [checkMotd] at found
  split at found
  · cases found
  · exact guildWithRight_ok found

theorem checkNote_ok {right : UInt32} {name note text : Text}
    (found : w.checkNote server player right name note = .ok (g, slot, text)) :
    w.guildMap.find? player.guildId = some g ∧ ∃ name, g.getMemberSlotByName name = some slot := by
  rw [checkNote] at found
  split at found
  · split at found
    · cases found
    · rename_i named
      split at found
      · cases found
      · cases found
        exact namedMember_ok named
  · cases found

theorem checkRank_ok {rankname name : Text}
    (found : w.checkRank server actor player rankname = .ok (g, name)) :
    w.guildMap.find? player.guildId = some g := by
  rw [checkRank] at found
  split at found
  · cases found
  · rename_i led
    split at found
    · cases found
    · cases found
      exact (ledGuild_ok led).1

theorem checkAddRank_ok {rankname name : Text}
    (found : w.checkAddRank server actor player rankname = .ok (g, name)) :
    w.guildMap.find? player.guildId = some g := by
  rw [checkAddRank] at found
  split at found
  · cases found
  · split at found
    · cases found
    · rename_i led
      split at found
      · cases found
      · cases found
        exact (ledGuild_ok led).1

theorem checkInfoText_ok {ginfo info : Text}
    (found : w.checkInfoText server player ginfo = .ok (g, info)) :
    w.guildMap.find? player.guildId = some g := by
  rw [checkInfoText] at found
  split at found
  · cases found
  · split at found
    · cases found
    · split at found
      · cases found
      · rename_i own
        split at found
        · cases found
          exact ownGuild_ok own
        · cases found

end World

end TortoiseWow.Guilds
