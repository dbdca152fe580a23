import Mathlib
import TortoiseWow.Guild.Rights

/-!
Rights over runs of guild messages. A message moves a member into a rank, takes the
shared bit from a rank or takes the last rank away; whether what the members can do
still agrees with their ranks afterwards is decided by that rank and its holders.
-/

namespace TortoiseWow.Guilds

open Lib

variable {server : Server} {g : Guild} {w : World} {slot : MemberSlot} {actor : Nat}
  {player : Player}

namespace World

def Governed (w : World) : Prop := ∀ id g, w.guildMap.find? id = some g → g.id = id ∧ g.Governed

def RightsContained (w : World) : Prop :=
  ∀ id g, w.guildMap.find? id = some g → g.RightsContained

def AllSound (w : World) : Prop := ∀ id g, w.guildMap.find? id = some g → g.AllSound

theorem rightsContained_iff : w.RightsContained ↔ w.AllSound := by
  constructor
  · intro contained id g found
    exact Guild.rightsContained_iff.mp (contained id g found)
  · intro sound id g found
    exact Guild.rightsContained_iff.mpr (sound id g found)

/-- What comes of a message: the guilds are still well governed, and the rights agree with
the ranks exactly under the condition. -/
def Settles (w w' : World) (careful : Prop) : Prop :=
  w'.Governed ∧ (w.AllSound → (w'.AllSound ↔ careful))

theorem settles_same (governed : w.Governed) {w' : World} (same : w'.guildMap = w.guildMap) :
    Settles w w' True := by
  refine ⟨fun id g found => governed id g (same ▸ found), fun sound => ?_⟩
  exact iff_of_true (fun id g found => sound id g (same ▸ found)) trivial

theorem settles_commit (governed : w.Governed) {site : Guild × World}
    (same : site.2.guildMap = w.guildMap) (kept : site.1.Governed) {careful : Prop}
    (agree : w.AllSound → (site.1.AllSound ↔ careful)) : Settles w (commit site) careful := by
  have after (other : Nat) : (commit site).guildMap.find? other =
      if other = site.1.id then some site.1 else w.guildMap.find? other := by
    show (site.2.guildMap.assign site.1.id site.1).find? other = _
    rw [UnorderedMap.find?_assign, same]
  constructor
  · intro other g found
    rw [after] at found
    by_cases here : other = site.1.id
    · rw [if_pos here] at found
      cases found
      exact ⟨here.symm, kept⟩
    · rw [if_neg here] at found
      exact governed other g found
  · intro sound
    rw [← agree sound]
    constructor
    · intro all
      exact all site.1.id site.1 (by rw [after, if_pos rfl])
    · intro one other g found
      rw [after] at found
      by_cases here : other = site.1.id
      · rw [if_pos here] at found
        cases found
        exact one
      · rw [if_neg here] at found
        exact sound other g found

theorem settles_disband (governed : w.Governed) {w₁ : World} (same : w₁.guildMap = w.guildMap) :
    Settles w (disband g w₁) True := by
  have after (other : Nat) (g' : Guild) (found : (disband g w₁).guildMap.find? other = some g') :
      w.guildMap.find? other = some g' := by
    rw [disband_guildMap, UnorderedMap.find?_erase, same] at found
    by_cases here : other = g.id
    · rw [if_pos here] at found
      cases found
    · rwa [if_neg here] at found
  refine ⟨fun other g' found => governed other g' (after other g' found), fun sound => ?_⟩
  exact iff_of_true (fun other g' found => sound other g' (after other g' found)) trivial

theorem settles_removal (governed : w.Governed) {id : Nat} (found : w.guildMap.find? id = some g)
    (guid : Nat) : Settles w (commitRemoval (delMember g w guid false)) True := by
  have inside := (governed id g found).2
  have kept : (delMember g w guid false).2.1.Governed := Guild.governed_delMember inside guid false
  have map : (delMember g w guid false).2.2.guildMap = w.guildMap := delMember_guildMap false
  have agree (sound : w.AllSound) : (delMember g w guid false).2.1.AllSound ↔ True :=
    iff_of_true (Guild.allSound_delMember inside (sound id g found) guid false) trivial
  revert kept map agree
  match delMember g w guid false with
  | (true, g', w') =>
      intro _ map _
      exact settles_disband governed map
  | (false, g', w') =>
      intro kept map agree
      exact settles_commit governed map kept agree

theorem settles_changeRank (governed : w.Governed) {id : Nat} (found : w.guildMap.find? id = some g)
    (newRank : Nat) :
    Settles w (commit (changeRank g w slot newRank)) (g.RankSound newRank) := by
  have inside := (governed id g found).2
  apply settles_commit governed
  · exact changeRank_guildMap newRank
  · exact inside.putMember _
  · intro sound
    exact Guild.allSound_putMember (sound id g found) _

def carefulMessage (server : Server) (w : World) (actor : Nat) (player : Player) :
    GuildMessage → Prop
  | .create gname =>
      player.guildId = 0 → w.getGuildByName gname = none →
        (server.onAddMember w.nextGuildId actor (UInt8.ofNat grGuildmaster)).toNat <
          defaultRanks.length
  | .accept =>
      match w.checkAccept server player with
      | .ok g => g.RankSound (server.onAddMember g.id actor (UInt8.ofNat g.getLowestRank)).toNat
      | .error _ => True
  | .promote name =>
      match w.checkPromote server actor player name with
      | .ok (g, slot) => g.RankSound (slot.rankId - 1)
      | .error _ => True
  | .demote name =>
      match w.checkDemote server actor player name with
      | .ok (g, slot) => g.RankSound (slot.rankId + 1)
      | .error _ => True
  | .leader name =>
      match w.checkLeader server actor player name with
      | .ok (g, _, _) => g.RankSound grOfficer
      | .error _ => True
  | .rank rankId rights rankname =>
      match w.checkRank server actor player rankname with
      | .ok (g, _) =>
          rankId = grGuildmaster ∨ rights &&& GuildRankRights.empty = GuildRankRights.empty ∨
            ∀ guid slot, g.members.find? guid = some slot → slot.rankId ≠ rankId
      | .error _ => True
  | .delRank =>
      match w.ledGuild actor player with
      | .ok g =>
          guildRanksMinCount < g.ranks.length →
            ∀ guid slot, g.members.find? guid = some slot → slot.rankId ≠ g.getLowestRank
      | .error _ => True
  | _ => True

theorem sound_enterGuild (gname : Text) (localeIdx rankId : Nat) :
    (enterGuild server w actor gname localeIdx).1.RankSound rankId ↔
      rankId < defaultRanks.length := by
  have shared : ∀ entry ∈ defaultRanks, entry.2 &&& GuildRankRights.empty =
    GuildRankRights.empty := by
    intro entry mem
    simp only [defaultRanks, List.mem_cons, List.not_mem_nil, or_false] at mem
    rcases mem with rfl | rfl | rfl | rfl | rfl
    all_goals rfl
  rw [enterGuild_guild]
  constructor
  · rintro ⟨rank, found, -⟩
    have below := (List.getElem?_eq_some_iff.mp found).1
    rwa [List.length_map] at below
  · intro below
    refine ⟨⟨server.mangosString defaultRanks[rankId].1 localeIdx, defaultRanks[rankId].2⟩, ?_,
      shared _ (List.getElem_mem below)⟩
    rw [List.getElem?_map, List.getElem?_eq_getElem below, Option.map_some]

theorem governed_enterGuild (gname : Text) (localeIdx : Nat) :
    (enterGuild server w actor gname localeIdx).1.Governed := by
  rw [enterGuild_guild]
  exact ⟨fun guid slot found => (nomatch found), Nat.le_refl 5, _, rfl, rfl⟩

theorem settles_create (governed : w.Governed) (online : w.findPlayerNotInWorld actor = some player)
    (gname : Text) (localeIdx : Nat) :
    Settles w (w.handleCreate server actor player gname localeIdx)
      (w.carefulMessage server actor player (.create gname)) := by
  have unchanged (none : w.carefulMessage server actor player (.create gname)) :
      Settles w w (w.carefulMessage server actor player (.create gname)) :=
    ⟨governed, fun sound => iff_of_true sound none⟩
  rw [handleCreate]
  by_cases free : player.guildId = 0
  · rw [if_neg (not_not.mpr free)]
    cases unused : w.getGuildByName gname with
    | some taken =>
        rw [create_taken (by rw [unused]; rfl)]
        exact unchanged fun _ absent => nomatch unused.symm.trans absent
    | none =>
        have made := @create_free server w actor player gname online free unused localeIdx
        revert made
        match create server w actor gname localeIdx with
        | (ok, g, after) =>
            rintro ⟨rfl, rfl, map⟩
            have entered : (enterGuild server w actor gname localeIdx).1.AllSound := by
              rw [enterGuild_guild]
              exact fun guid slot found => nomatch found
            apply @settles_commit w governed (_, after) map
            · exact (governed_enterGuild gname localeIdx).putMember _
            · intro _
              rw [Guild.allSound_putMember entered, sound_enterGuild]
              exact ⟨fun below _ _ => below, fun careful => careful free unused⟩
  · rw [if_pos free]
    exact unchanged fun own => absurd own free

theorem settles_accept (governed : w.Governed)
    (online : w.findPlayerNotInWorld actor = some player) :
    Settles w (w.handleAccept server actor player)
      (w.carefulMessage server actor player .accept) := by
  rw [handleAccept, carefulMessage]
  cases checked : w.checkAccept server player with
  | error reply => exact settles_same governed rfl
  | ok g =>
      obtain ⟨found, free⟩ := checkAccept_ok checked
      obtain ⟨-, joined⟩ := @addMember_online server g w actor player online free g.getLowestRank
      have map := @addMember_guildMap server g w actor g.getLowestRank
      apply settles_commit governed
      · exact map
      · rw [joined]
        exact (governed _ g found).2.putMember _
      · intro sound
        rw [joined, Guild.allSound_putMember (sound _ g found)]
        exact Iff.rfl

theorem settles_leader (governed : w.Governed) (name : Text) :
    Settles w (w.handleLeader server actor player name)
      (w.carefulMessage server actor player (.leader name)) := by
  rw [handleLeader, carefulMessage]
  cases checked : w.checkLeader server actor player name with
  | error reply => exact settles_same governed rfl
  | ok led =>
      obtain ⟨g, old, slot⟩ := led
      obtain ⟨found, -⟩ := checkLeader_ok checked
      have inside := (governed _ g found).2
      apply settles_commit governed
      · exact setNewLeader_guildMap (some old)
      · exact Guild.governed_setNewLeader inside (some old)
      · intro sound
        exact Guild.allSound_setNewLeader inside (sound _ g found) old

theorem settles_leave (governed : w.Governed) : Settles w (w.handleLeave actor player) True := by
  rw [handleLeave]
  cases checked : w.checkLeave actor player with
  | error reply => exact settles_same governed rfl
  | ok g =>
      by_cases leads : actor = g.leaderGuid
      · simp only [if_pos leads]
        exact settles_disband governed rfl
      · simp only [if_neg leads]
        exact settles_removal governed (checkLeave_ok checked) actor

theorem settles_rank (governed : w.Governed) (rankId : Nat) (rights : UInt32) (rankname : Text) :
    Settles w (w.handleRank server actor player rankId rights rankname)
      (w.carefulMessage server actor player (.rank rankId rights rankname)) := by
  rw [handleRank, carefulMessage]
  cases checked : w.checkRank server actor player rankname with
  | error reply => exact settles_same governed rfl
  | ok led =>
      obtain ⟨g, name⟩ := led
      have found := checkRank_ok checked
      have named := Guild.governed_setRankName (w := w) (governed _ g found).2 rankId name
      have agree (sound : w.AllSound) :
          (setRankRights (setRankName g w rankId name).1 (setRankName g w rankId name).2 rankId
            (if rankId = grGuildmaster then GuildRankRights.all else rights)).1.AllSound ↔
          (rankId = grGuildmaster ∨ rights &&& GuildRankRights.empty = GuildRankRights.empty ∨
            ∀ guid slot, g.members.find? guid = some slot → slot.rankId ≠ rankId) := by
        have before := Guild.allSound_setRankName (w := w) (sound _ g found) rankId name
        rw [Guild.allSound_setRankRights before, Guild.setRankName_members]
        by_cases first : rankId = grGuildmaster
        · rw [if_pos first]
          exact iff_of_true (Or.inl rfl) (Or.inl first)
        · rw [if_neg first]
          exact (or_iff_right first).symm
      refine settles_commit governed ?_ ?_ agree
      · exact (setRankRights_guildMap rankId _).trans (setRankName_guildMap rankId name)
      · exact Guild.governed_setRankRights named fun first => if_pos first

/-- A change that leaves members and ranks as they are. -/
theorem settles_aside (governed : w.Governed) {id : Nat} (found : w.guildMap.find? id = some g)
    {site : Guild × World} (same : site.2.guildMap = w.guildMap) (kept : site.1.Governed)
    (sound : g.AllSound → site.1.AllSound) : Settles w (commit site) True :=
  settles_commit governed same kept fun all => iff_of_true (sound (all id g found)) trivial

theorem settles_note (governed : w.Governed) {id : Nat} (found : w.guildMap.find? id = some g)
    {name : Text} (named : g.getMemberSlotByName name = some slot) {site : Guild × World}
    (same : site.2.guildMap = w.guildMap)
    (noted : ∃ edited, site.1 = g.putMember edited ∧ edited.rankId = slot.rankId) :
    Settles w (commit site) True := by
  obtain ⟨edited, put, rank⟩ := noted
  have inside := (governed id g found).2
  have member := Guild.find?_of_byName inside.keyed named
  apply settles_aside governed found same
  · rw [put]
    exact inside.putMember edited
  · intro sound
    rw [put, Guild.allSound_putMember sound, rank]
    exact sound slot.guid slot member

theorem settles_handle (governed : w.Governed) (online : w.findPlayerNotInWorld actor = some player)
    (localeIdx : Nat) (message : GuildMessage) :
    Settles w (w.handle server actor player localeIdx message)
      (w.carefulMessage server actor player message) := by
  cases message with
  | create gname => exact settles_create governed online gname localeIdx
  | invite name =>
      apply settles_same governed
      show (w.handleInvite server actor player name).guildMap = w.guildMap
      rw [handleInvite]
      split
      · rfl
      · rfl
  | remove name =>
      show Settles w (w.handleRemove server player name) True
      rw [handleRemove]
      split
      · exact settles_same governed rfl
      · rename_i checked
        exact settles_removal governed (checkRemove_ok checked).1 _
  | accept => exact settles_accept governed online
  | decline =>
      apply settles_same governed
      show (w.handleDecline actor player).guildMap = w.guildMap
      rw [handleDecline]
      split
      · rfl
      · rfl
  | promote name =>
      show Settles w (w.handlePromote server actor player name) _
      rw [handlePromote, carefulMessage]
      cases checked : w.checkPromote server actor player name with
      | error reply => exact settles_same governed rfl
      | ok found => exact settles_changeRank governed (checkPromote_ok checked).1 _
  | demote name =>
      show Settles w (w.handleDemote server actor player name) _
      rw [handleDemote, carefulMessage]
      cases checked : w.checkDemote server actor player name with
      | error reply => exact settles_same governed rfl
      | ok found => exact settles_changeRank governed (checkDemote_ok checked).1 _
  | leave => exact settles_leave governed
  | disband =>
      show Settles w (w.handleDisband actor player) True
      rw [handleDisband]
      split
      · exact settles_same governed rfl
      · exact settles_disband governed rfl
  | leader name => exact settles_leader governed name
  | motd text =>
      show Settles w (w.handleMOTD player text) True
      rw [handleMOTD]
      split
      · exact settles_same governed rfl
      · rename_i checked
        have found := checkMotd_ok checked
        have inside := (governed _ _ found).2
        exact settles_aside governed found rfl ⟨inside.keyed, inside.enough, inside.master⟩ id
  | setPublicNote name note =>
      show Settles w (w.handleSetPublicNote server player name note) True
      rw [handleSetPublicNote]
      split
      · exact settles_same governed rfl
      · rename_i checked
        obtain ⟨found, named, byName⟩ := checkNote_ok checked
        rw [setPublicNote]
        split
        · exact settles_aside governed found rfl (governed _ _ found).2 id
        · exact settles_note governed found byName rfl ⟨_, rfl, rfl⟩
  | setOfficerNote name note =>
      show Settles w (w.handleSetOfficerNote server player name note) True
      rw [handleSetOfficerNote]
      split
      · exact settles_same governed rfl
      · rename_i checked
        obtain ⟨found, named, byName⟩ := checkNote_ok checked
        rw [setOfficerNote]
        split
        · exact settles_aside governed found rfl (governed _ _ found).2 id
        · exact settles_note governed found byName rfl ⟨_, rfl, rfl⟩
  | rank rankId rights rankname => exact settles_rank governed rankId rights rankname
  | addRank rankname =>
      show Settles w (w.handleAddRank server actor player rankname) True
      rw [handleAddRank]
      split
      · exact settles_same governed rfl
      · rename_i checked
        have found := checkAddRank_ok checked
        apply settles_aside governed found (createRank_guildMap _ _)
        · exact Guild.governed_createRank (governed _ _ found).2 _ _
        · exact fun sound => Guild.allSound_createRank sound _ _
  | delRank =>
      show Settles w (w.handleDelRank actor player) _
      rw [handleDelRank, carefulMessage]
      cases checked : w.ledGuild actor player with
      | error reply => exact settles_same governed rfl
      | ok g =>
          have found := (ledGuild_ok checked).1
          apply settles_commit governed
          · exact delRank_guildMap
          · exact Guild.governed_delRank (governed _ g found).2
          · exact fun sound => Guild.allSound_delRank (sound _ g found)
  | changeInfoText ginfo =>
      show Settles w (w.handleChangeInfoText server player ginfo) True
      rw [handleChangeInfoText]
      split
      · exact settles_same governed rfl
      · rename_i checked
        have found := checkInfoText_ok checked
        have inside := (governed _ _ found).2
        exact settles_aside governed found rfl ⟨inside.keyed, inside.enough, inside.master⟩ id

def closes (w : World) (player : Player) : GuildMessage → Prop
  | .delRank => True
  | .rank rankId rights _ =>
      ∀ g, w.getGuildById player.guildId = some g → ∀ right ∈ GuildRankRights.asked,
        rights &&& right = right → g.RankContains rankId right
  | _ => False

/-- Nobody can invite, kick, promote or read officer notes who could not before. -/
def OpensNothing (w w' : World) : Prop :=
  ∀ id g g', w.guildMap.find? id = some g → w'.guildMap.find? id = some g' →
    ∀ guid slot slot', g.members.find? guid = some slot → g'.members.find? guid = some slot' →
      ∀ right ∈ [GuildRankRights.invite, GuildRankRights.remove, GuildRankRights.promote,
          GuildRankRights.viewoffnote],
        g'.hasRankRight slot'.rankId right = true → g.hasRankRight slot.rankId right = true

theorem opensNothing_commit (sound : w.AllSound) {id : Nat} (found : w.guildMap.find? id = some g)
    (keyed : g.id = id) {site : Guild × World} (same : site.2.guildMap = w.guildMap)
    (key : site.1.id = g.id) (members : site.1.members = g.members)
    (fewer : ∀ rankId, ∀ right ∈ GuildRankRights.asked,
      site.1.RankContains rankId right → g.RankContains rankId right)
    (after : (commit site).AllSound) : OpensNothing w (commit site) := by
  have four : ∀ right ∈ [GuildRankRights.invite, GuildRankRights.remove, GuildRankRights.promote,
      GuildRankRights.viewoffnote], right ∈ GuildRankRights.asked := by
    intro right mem
    simp only [List.mem_cons, List.not_mem_nil, or_false] at mem
    rcases mem with rfl | rfl | rfl | rfl
    all_goals simp [GuildRankRights.asked]
  intro other g₀ g₁ before now guid slot slot' mem mem' right inside has
  have asked := four right inside
  have holds := (Guild.hasRankRight_of_sound (after other g₁ now guid slot' mem') asked).mp has
  rw [Guild.hasRankRight_of_sound (sound other g₀ before guid slot mem) asked]
  have here : (commit site).guildMap.find? other =
      if other = id then some site.1 else w.guildMap.find? other := by
    show (site.2.guildMap.assign site.1.id site.1).find? other = _
    rw [UnorderedMap.find?_assign, key, keyed, same]
  rw [here] at now
  by_cases this : other = id
  · rw [if_pos this] at now
    cases now
    cases found.symm.trans (this ▸ before)
    cases mem.symm.trans (members ▸ mem')
    exact fewer slot.rankId right asked holds
  · rw [if_neg this] at now
    cases before.symm.trans now
    cases mem.symm.trans mem'
    exact holds

theorem opensNothing_refl (w : World) : OpensNothing w w := by
  intro id g g' found found' guid slot slot' mem mem' right _ has
  cases found.symm.trans found'
  cases mem.symm.trans mem'
  exact has

theorem handle_opensNothing (governed : w.Governed) (sound : w.AllSound) (localeIdx : Nat)
    {message : GuildMessage} (closing : w.closes player message)
    (after : (w.handle server actor player localeIdx message).AllSound) :
    OpensNothing w (w.handle server actor player localeIdx message) := by
  cases message with
  | delRank =>
      revert after
      show (w.handleDelRank actor player).AllSound → OpensNothing w (w.handleDelRank actor player)
      rw [handleDelRank]
      cases checked : w.ledGuild actor player with
      | error reply => exact fun _ => opensNothing_refl w
      | ok g =>
          have found := (ledGuild_ok checked).1
          refine opensNothing_commit sound found (governed _ g found).1 delRank_guildMap ?_ ?_ ?_
          · exact Guild.delRank_id
          · exact Guild.delRank_members
          · exact fun rankId right _ => Guild.rankContains_of_delRank
  | rank rankId rights rankname =>
      revert after
      show (w.handleRank server actor player rankId rights rankname).AllSound →
        OpensNothing w (w.handleRank server actor player rankId rights rankname)
      rw [handleRank]
      cases checked : w.checkRank server actor player rankname with
      | error reply => exact fun _ => opensNothing_refl w
      | ok led =>
          obtain ⟨g, name⟩ := led
          have found := checkRank_ok checked
          refine opensNothing_commit sound found (governed _ g found).1 ?_ ?_ ?_ ?_
          · exact (setRankRights_guildMap rankId _).trans (setRankName_guildMap rankId name)
          · exact (Guild.setRankRights_id rankId _).trans (Guild.setRankName_id rankId name)
          · exact (Guild.setRankRights_members rankId _).trans
              (Guild.setRankName_members rankId name)
          · intro other right asked contains
            rw [← Guild.rankContains_setRankName (w := w) rankId name]
            refine Guild.rankContains_of_setRankRights (fun given => ?_) contains
            rw [Guild.rankContains_setRankName]
            by_cases first : rankId = grGuildmaster
            · rw [if_pos first] at given
              obtain ⟨rank, here, bits⟩ := (governed _ g found).2.master
              exact ⟨rank, first ▸ here, bits ▸ given⟩
            · rw [if_neg first] at given
              exact closing g found right asked given
  | _ => exact closing.elim

end World

def rightsKept (server : Server) (w : World) (sent : Sent) : Prop :=
  (messageStep server w sent).RightsContained ∧
    ∀ player, w.findPlayerNotInWorld sent.actor = some player → w.closes player sent.message →
      w.OpensNothing (messageStep server w sent)

def carefulStep (server : Server) (w : World) (sent : Sent) : Prop :=
  ∀ player, w.findPlayerNotInWorld sent.actor = some player →
    w.carefulMessage server sent.actor player sent.message

theorem settles_messageStep (governed : w.Governed) (sent : Sent) :
    w.Settles (messageStep server w sent) (carefulStep server w sent) := by
  rw [messageStep, carefulStep]
  cases online : w.findPlayerNotInWorld sent.actor with
  | none =>
      have settled := World.settles_same governed (show w.guildMap = w.guildMap from rfl)
      exact ⟨settled.1, fun sound => iff_of_true sound fun _ absent => nomatch absent⟩
  | some player =>
      have settled :=
        @World.settles_handle server w sent.actor player governed online sent.localeIdx sent.message
      refine ⟨settled.1, fun sound => (settled.2 sound).trans ?_⟩
      exact ⟨fun careful _ same => Option.some.inj same ▸ careful, fun careful =>
        careful player rfl⟩

theorem rightsKept_iff_carefulStep (governed : w.Governed) (sound : w.AllSound) (sent : Sent) :
    rightsKept server w sent ↔ carefulStep server w sent := by
  have settled := @settles_messageStep server w governed sent
  rw [rightsKept, World.rightsContained_iff, settled.2 sound]
  refine and_iff_left_of_imp fun careful player online closing => ?_
  have after := (settled.2 sound).mpr careful
  revert after
  simp only [messageStep, online]
  exact World.handle_opensNothing governed sound sent.localeIdx closing

/-- From a world without guilds, rights are what the ranks say as long as, and only as long as,
nobody is in or comes into a rank that is gone or lacks the shared bit. -/
theorem rights_not_gained_iff (server : Server) (w : World) (none : w.guildMap = .empty)
    (sents : List Sent) :
    Along (messageStep server) (rightsKept server) w sents ↔
      Along (messageStep server) (carefulStep server) w sents := by
  have start : w.Governed ∧ w.AllSound := by
    constructor
    · intro id g found
      rw [none] at found
      cases found
    · intro id g found
      rw [none] at found
      cases found
  refine along_iff (I := fun w => w.Governed ∧ w.AllSound) ?_ ?_ start sents
  · rintro w sent ⟨governed, sound⟩
    exact rightsKept_iff_carefulStep governed sound sent
  · rintro w sent ⟨governed, sound⟩ careful
    have settled := @settles_messageStep server w governed sent
    exact ⟨settled.1, (settled.2 sound).mpr careful⟩

/-- Every guild keeps five ranks, the first with all rights. -/
theorem guilds_governed (server : Server) (w : World) (sents : List Sent) :
    (run (messageStep server) { w with guildMap := .empty } sents).Governed :=
  run_always (I := World.Governed) (fun _ sent governed => (settles_messageStep governed sent).1)
    (fun _ _ found => by cases found) sents

def townServer : Server where
  allowTwoSideInteractionGuild := true
  minPetitionSigns := 9
  characters _ := none
  mangosString _ _ := []
  normalizePlayerName name _ _ := some name
  validCharterName _ := true
  onAddMember _ _ rank := rank

def townsman (name : Text) : Player :=
  ⟨name, 0, .horde, true, [], 0, 0, 0⟩

def townWorld : World where
  guildMap := .empty
  guid2guild := .empty
  petitionMap := .empty
  players := (UnorderedMap.empty.assign 1 (townsman ['A'])).assign 2 (townsman ['B'])
  nextGuildId := 1
  nextPetitionId := 1
  nextItemGuid := 1
  db := ⟨.empty, .empty, .empty, .empty, .empty⟩

def founding : List Sent :=
  [⟨1, 0, .create ['G']⟩, ⟨1, 0, .invite ['B']⟩, ⟨2, 0, .accept⟩]

/-- A sixth rank is added, edited before and after a member comes into it, left and deleted. -/
def sixthRank : List Sent :=
  [⟨1, 0, .addRank ['R']⟩, ⟨1, 0, .rank 5 GuildRankRights.remove ['K']⟩, ⟨1, 0, .demote ['B']⟩,
    ⟨1, 0, .rank 5 GuildRankRights.gchatListen ['L']⟩, ⟨1, 0, .promote ['B']⟩, ⟨1, 0, .delRank⟩]

theorem sixthRank_rights_kept :
    Along (messageStep townServer) (rightsKept townServer) townWorld (founding ++ sixthRank) := by
  refine (rights_not_gained_iff townServer townWorld rfl _).mpr
    ⟨?_, ?_, ?_, ?_, ?_, ?_, ?_, ?_, ?_, trivial⟩
  · intro _ _ _ _
    decide
  · exact fun _ _ => trivial
  · rintro player online
    cases online
    exact Exists.intro ⟨[], 0x43⟩ ⟨rfl, rfl⟩
  · exact fun _ _ => trivial
  · rintro player online
    cases online
    exact Or.inr (Or.inl rfl)
  · rintro player online
    cases online
    exact Exists.intro ⟨['K'], 0x60⟩ ⟨rfl, rfl⟩
  · rintro player online
    cases online
    exact Or.inr (Or.inl rfl)
  · rintro player online
    cases online
    exact Exists.intro ⟨[], 0x43⟩ ⟨rfl, rfl⟩
  · rintro player online
    cases online
    intro _ guid slot found
    have listed := UnorderedMap.find?_eq_some_iff.mp found
    rcases List.mem_cons.mp listed with there | there
    · cases there
      decide
    · cases List.mem_singleton.mp there
      decide

/-- The rights of the last rank are cleared, and the member who holds it can kick. -/
theorem cleared_rank_kicks :
    ¬Along (messageStep townServer) (rightsKept townServer) townWorld
      (founding ++ [⟨1, 0, .rank 4 0 ['R']⟩]) := by
  rintro ⟨-, -, -, ⟨contained, -⟩, -⟩
  obtain ⟨-, agree⟩ := contained 1 _ rfl 2 ⟨2, ['B'], 4, [], []⟩ rfl
  have asked : GuildRankRights.remove ∈ GuildRankRights.asked := by simp [GuildRankRights.asked]
  obtain ⟨rank, found, bits⟩ := (agree _ asked).mp rfl
  cases found
  exact absurd bits (by decide)

end TortoiseWow.Guilds
