import Mathlib
import TortoiseWow.Lib.KeyedWrites
import TortoiseWow.Lib.Run
import TortoiseWow.Reputation.Soundness

/-!
Reputations over saves and loads. In every state that calls, saves and loads can
reach, saving and loading gives back all standings, and the flags of just those
factions whose flags replay.
-/

namespace TortoiseWow.Reputation

open Lib

namespace ReputationMgr

variable {world : World} {mgr : ReputationMgr} {forced : UInt32 → Option ReputationRank}

section Load

def placeOf (world : World) (row : UInt32 × Int × UInt32) : UInt32 :=
  match world.factionMap.find? row.1 with
  | none => 0
  | some entry => entry.repListID

def loadedFrom (world : World) (forced : UInt32 → Option ReputationRank)
    (row : UInt32 × Int × UInt32) (state : Option FactionState) : Option FactionState :=
  match world.factionMap.find? row.1 with
  | none => state
  | some entry =>
      if entry.canHaveReputation then
        some (replay world forced row.1 entry row.2.1 row.2.2 (state.getD emptyFaction))
      else state

theorem keyedWrite_loadRow :
    KeyedWrite OrderedMap.find? (loadRow world forced) (placeOf world)
      (loadedFrom world forced) where
  self factions row := by
    cases found : world.factionMap.find? row.1 with
    | none => simp only [loadRow, placeOf, loadedFrom, found]
    | some entry =>
        simp only [loadRow, placeOf, loadedFrom, found]
        split
        · exact OrderedMap.find?_assign_self _ _ _
        · rfl
  other factions row key apart := by
    cases found : world.factionMap.find? row.1 with
    | none => simp only [loadRow, found]
    | some entry =>
        simp only [placeOf, found] at apart
        simp only [loadRow, found]
        split
        · exact OrderedMap.find?_assign_of_ne _ apart _
        · rfl

theorem replay_changes (id : UInt32) (entry : FactionEntry) (standing : Int) (db : UInt32)
    (faction : FactionState) :
    ∃ new, Changes { faction with standing := standing } new ∧
      replay world forced id entry standing db faction =
        if new.flags = db then { new with needSave := false } else new := by
  refine ⟨_, ?_, rfl⟩
  refine Changes.ite _ (Changes.trans ?war (changes_setAtWar _ true)) ?war
  refine Changes.ite _ (Changes.trans ?inactive (changes_setAtWar _ true))
    (Changes.ite _ (Changes.trans ?inactive (changes_setAtWar _ false)) ?inactive)
  refine Changes.ite _ (Changes.trans ?seen (changes_setInactive _ true)) ?seen
  exact Changes.ite _ (changes_setVisible _) (Changes.refl _)

theorem Sound.place_of_row (h : Sound world mgr) {row : UInt32 × Int × UInt32}
    (mem : row ∈ mgr.rows.entries) :
    ∃ entry, Listed world (placeOf world row) row.1 entry ∧
      (initialFactions world).find? (placeOf world row) = some (newFaction world row.1 entry) := by
  obtain ⟨key, state, first, same⟩ := h.rows row.1 row.2 (UnorderedMap.find?_eq_some_iff.mpr mem)
  obtain ⟨id, entry, listed, rfl⟩ := find?_initial first
  have same : id = row.1 := same
  rw [same] at listed first
  have place : placeOf world row = key := by
    rw [placeOf, listed.found]
    exact listed.key_eq
  rw [place]
  exact ⟨entry, listed, first⟩

theorem Sound.places_nodup (h : Sound world mgr) :
    (mgr.rows.entries.map (placeOf world)).Nodup := by
  apply List.Nodup.map_on
  · intro row mem other mem' same
    obtain ⟨entry, -, first⟩ := h.place_of_row mem
    obtain ⟨entry', -, first'⟩ := h.place_of_row mem'
    rw [same, first'] at first
    have ids : other.1 = row.1 := congrArg FactionState.id (Option.some_inj.mp first)
    have values := UnorderedMap.find?_eq_some_iff.mpr mem
    rw [← ids, UnorderedMap.find?_eq_some_iff.mpr mem'] at values
    exact Prod.ext ids.symm (Option.some_inj.mp values).symm
  · exact List.Nodup.of_map _ mgr.rows.nodup

/-- The state of a faction after a load: that of the table, or what its row makes of it. -/
def reloaded (world : World) (forced : UInt32 → Option ReputationRank)
    (rows : UnorderedMap UInt32 (Int × UInt32)) (id : UInt32) (entry : FactionEntry) :
    FactionState :=
  match rows.find? id with
  | none => newFaction world id entry
  | some row => replay world forced id entry row.1 row.2 (newFaction world id entry)

section Result

variable {result : List (UInt32 × Int × UInt32)} {key id : UInt32} {entry : FactionEntry}

theorem Sound.find?_load_unsaved (h : Sound world mgr) (rows : result.Perm mgr.rows.entries)
    (unsaved : ∀ state, (initialFactions world).find? key = some state →
      mgr.rows.find? state.id = none) :
    (mgr.loadFromDB world forced result).factions.find? key =
    (initialFactions world).find? key := by
  refine keyedWrite_loadRow.foldl_other ?_ _
  intro placed
  obtain ⟨row, listed, rfl⟩ := List.mem_map.mp placed
  have mem := rows.mem_iff.mp listed
  obtain ⟨entry, -, first⟩ := h.place_of_row mem
  have none := unsaved _ first
  have some := UnorderedMap.find?_eq_some_iff.mpr mem
  exact absurd (none.symm.trans some) (nomatch ·)

theorem Sound.find?_load_none (h : Sound world mgr) (rows : result.Perm mgr.rows.entries)
    (first : (initialFactions world).find? key = none) :
    (mgr.loadFromDB world forced result).factions.find? key = none := by
  rw [h.find?_load_unsaved rows, first]
  intro state there
  exact absurd (first.symm.trans there) (nomatch ·)

theorem Sound.find?_load (h : Sound world mgr) (rows : result.Perm mgr.rows.entries)
    (listed : Listed world key id entry)
    (first : (initialFactions world).find? key = some (newFaction world id entry)) :
    (mgr.loadFromDB world forced result).factions.find? key =
      some (reloaded world forced mgr.rows id entry) := by
  rw [reloaded]
  cases saved : mgr.rows.find? id with
  | none =>
      rw [h.find?_load_unsaved rows, first]
      intro state there
      rw [first] at there
      cases there
      exact saved
  | some row =>
      have mem := rows.mem_iff.mpr (UnorderedMap.find?_eq_some_iff.mp saved)
      have distinct : (result.map (placeOf world)).Nodup :=
        (rows.map _).nodup_iff.mpr h.places_nodup
      have written :=
        (@keyedWrite_loadRow world forced).foldl_self distinct mem (initialFactions world)
      have place : placeOf world (id, row) = key := by
        rw [placeOf, listed.found]
        exact listed.key_eq
      rw [place, first, loadedFrom, listed.found] at written
      exact written.trans (if_pos listed.reputable)

theorem reloaded_id (rows : UnorderedMap UInt32 (Int × UInt32)) :
    (reloaded world forced rows id entry).id = id := by
  rw [reloaded]
  split
  · rfl
  · exact replay_id world forced id entry _ _ _

theorem grown_reloaded (rows : UnorderedMap UInt32 (Int × UInt32)) :
    Grown (world.getDefaultStateFlags entry) (reloaded world forced rows id entry).flags := by
  rw [reloaded]
  split
  · exact Grown.refl _
  · rename_i row _
    obtain ⟨new, changes, shape⟩ := @replay_changes world forced id entry row.1 row.2
      (newFaction world id entry)
    rw [shape]
    have grown := changes.grown _ (Grown.refl _)
    split
    · exact grown
    · exact grown

theorem reloaded_saved (rows : UnorderedMap UInt32 (Int × UInt32))
    (clean : (reloaded world forced rows id entry).needSave = false) :
    rows.find? id = some ((reloaded world forced rows id entry).standing,
      (reloaded world forced rows id entry).flags) := by
  simp only [reloaded] at clean ⊢
  split at clean
  · exact absurd clean Bool.false_ne_true.symm
  · rename_i row saved
    obtain ⟨new, changes, shape⟩ := @replay_changes world forced id entry row.1 row.2
      (newFaction world id entry)
    have marked : new.needSave = true := by
      rcases changes.marked with same | marked
      · rw [same]
        rfl
      · exact marked
    have standing := replay_standing world forced id entry row.1 row.2 (newFaction world id entry)
    rw [saved, standing]
    rw [shape] at clean ⊢
    split at clean
    · rename_i same
      rw [if_pos same]
      exact congrArg some (Prod.ext rfl same.symm)
    · exact absurd (marked.symm.trans clean) Bool.false_ne_true.symm

theorem Sound.loadFromDB (h : Sound world mgr) (rows : result.Perm mgr.rows.entries) :
    Sound world (mgr.loadFromDB world forced result) := by
  have shape {key : UInt32} {state : FactionState}
      (found : (mgr.loadFromDB world forced result).factions.find? key = some state) :
      ∃ id entry, Listed world key id entry ∧ state = reloaded world forced mgr.rows id entry := by
    cases first : (initialFactions world).find? key with
    | none =>
        rw [h.find?_load_none rows first] at found
        exact absurd found (nomatch ·)
    | some old =>
        obtain ⟨id, entry, listed, rfl⟩ := find?_initial first
        rw [h.find?_load rows listed first] at found
        exact ⟨id, entry, listed, (Option.some_inj.mp found).symm⟩
  constructor
  · intro key
    cases first : (initialFactions world).find? key with
    | none => rw [h.find?_load_none rows first]
    | some old =>
        obtain ⟨id, entry, listed, rfl⟩ := find?_initial first
        rw [h.find?_load rows listed first, Option.map_some, Option.map_some, reloaded_id]
        rfl
  · intro key state entry found there
    obtain ⟨id, entry', listed, rfl⟩ := shape found
    rw [reloaded_id, listed.found] at there
    cases there
    exact grown_reloaded mgr.rows
  · intro key state found clean
    obtain ⟨id, entry', listed, rfl⟩ := shape found
    rw [reloaded_id]
    exact reloaded_saved mgr.rows clean
  · exact h.rows
  · intro proper
    refine ⟨?_, (h.ranged proper).rows⟩
    intro key state entry found there
    obtain ⟨id, entry', listed, rfl⟩ := shape found
    rw [reloaded_id, listed.found] at there
    cases there
    rw [reloaded]
    split
    · have base := proper.base id _ listed.found listed.reputable
      rw [newFaction, Int.add_zero]
      exact base
    · rename_i row saved
      rw [replay_standing]
      exact (h.ranged proper).rows id row _ saved listed.found

end Result

end Load

section Relog

theorem Sound.step (h : Sound world mgr) (event : Event) : Sound world (step world mgr event) := by
  cases event with
  | setReputation id standing => exact h.setReputation id standing false false
  | setSingleReputation id standing => exact h.setReputation id standing false true
  | modifyReputation id standing noSpillover => exact h.setReputation id standing true noSpillover
  | setVisible id => exact h.setVisible id
  | setAtWar repListID on => exact h.setAtWar repListID on
  | setInactive repListID on => exact h.setInactive repListID on
  | saveToDB => exact h.saveToDB
  | loadFromDB forced result =>
      rw [ReputationMgr.step]
      split
      · rename_i rows
        exact h.loadFromDB (List.isPerm_iff.mp rows)
      · exact h

theorem sound_run (world : World) (events : List Event) :
    Sound world (run (ReputationMgr.step world) (create world) events) :=
  run_always (fun _ event h => h.step event) (sound_create world) events

def standingAndFlags (mgr : ReputationMgr) (repListID : UInt32) : Option (Int × UInt32) :=
  (mgr.factions.find? repListID).map fun state => (state.standing, state.flags)

def Restored (world : World) (forced : UInt32 → Option ReputationRank) (mgr : ReputationMgr) :
    Prop :=
  ∀ result, result.Perm mgr.saveToDB.rows.entries → ∀ repListID,
    (mgr.saveToDB.loadFromDB world forced result).standingAndFlags repListID =
      mgr.standingAndFlags repListID

/-- The flags of every faction are such as a load gives back. -/
def Replayable (world : World) (forced : UInt32 → Option ReputationRank) (mgr : ReputationMgr) :
    Prop :=
  ∀ repListID state entry, mgr.factions.find? repListID = some state →
    world.factionMap.find? state.id = some entry →
      Replays (world.getDefaultStateFlags entry) state.flags state.standing
        (isHostile forced state.id (world.getBaseReputation entry + state.standing))

theorem Sound.restored_iff (h : Sound world mgr) :
    Restored world forced mgr ↔ Replayable world forced mgr := by
  have saved := h.saveToDB
  -- what a relog makes of one state
  have relog {result : List (UInt32 × Int × UInt32)} (rows : result.Perm mgr.saveToDB.rows.entries)
      {key : UInt32} {state : FactionState} (found : mgr.factions.find? key = some state)
      {entry : FactionEntry} (listed : Listed world key state.id entry)
      (first : (initialFactions world).find? key = some (newFaction world state.id entry)) :
      (mgr.saveToDB.loadFromDB world forced result).standingAndFlags key =
        some (state.standing, (replay world forced state.id entry state.standing state.flags
          (newFaction world state.id entry)).flags) := by
    rw [standingAndFlags, saved.find?_load rows listed first, reloaded, h.find?_saveToDB found,
      Option.map_some, replay_standing]
  constructor
  · intro restored key state entry found there
    obtain ⟨entry', listed, first⟩ := h.origin found
    have same := listed.found.symm.trans there
    cases same
    have flags := restored _ (List.Perm.refl _) key
    rw [relog (List.Perm.refl _) found listed first, standingAndFlags, found,
      Option.map_some] at flags
    have grown := h.grown key state _ found there
    exact (replay_flags_iff world forced state.id _ state.standing _ grown).mp
      (congrArg Prod.snd (Option.some_inj.mp flags))
  · intro replays result rows key
    cases found : mgr.factions.find? key with
    | none =>
        have first := h.ids key
        rw [found, Option.map_none] at first
        rw [standingAndFlags, standingAndFlags, found,
          saved.find?_load_none rows (Option.map_eq_none_iff.mp first.symm)]
    | some state =>
        obtain ⟨entry, listed, first⟩ := h.origin found
        have grown := h.grown key state entry found listed.found
        have flags := (replay_flags_iff world forced state.id entry state.standing
          (newFaction world state.id entry) grown).mpr (replays key state entry found listed.found)
        rw [relog rows found listed first, flags, standingAndFlags, found]
        rfl

/-- Base and standing of every faction of the table are in the range of the ranks. -/
def Bounded (world : World) (mgr : ReputationMgr) : Prop :=
  ∀ id entry, world.factionMap.find? id = some entry → inRange (mgr.getReputation world entry)

theorem Sound.bounded (h : Sound world mgr) (proper : Proper world) : Bounded world mgr := by
  intro id entry there
  have nothing : inRange 0 := ⟨by decide, by decide⟩
  rw [getReputation, getState]
  cases reputable : entry.canHaveReputation with
  | false => exact nothing
  | true =>
      rw [if_pos rfl]
      cases found : mgr.factions.find? entry.repListID with
      | none => exact nothing
      | some state =>
          obtain ⟨entry', listed, -⟩ := h.origin found
          have same := proper.apart _ _ _ _ _ listed ⟨there, reputable, rfl⟩
          rw [← same] at there
          exact (h.ranged proper).states _ state entry found there

/-- After any calls, saves and loads: reputations are in range where the table starts them there,
and a relog restores all standings and flags just when the flags of every faction replay. -/
theorem reputation_survives_relog (world : World) (events : List Event) :
    (Proper world → Bounded world (run (ReputationMgr.step world) (create world) events)) ∧
      ∀ forced, Restored world forced (run (ReputationMgr.step world) (create world) events) ↔
        Replayable world forced (run (ReputationMgr.step world) (create world) events) :=
  have sound := sound_run world events
  ⟨sound.bounded, fun _ => sound.restored_iff⟩

/-- A town whose friendship costs the standing with the pirates at war with it, and a faction
without reputation. -/
def harborWorld : World where
  factionMap := ((OrderedMap.empty.assign 87
    ⟨0, fun _ => 0, fun _ => 0, fun _ => -6500, fun _ =>
      factionFlagVisible ||| factionFlagAtWar⟩).assign
    21 ⟨1, fun _ => 0, fun _ => 0, fun _ => 500, fun _ => factionFlagVisible⟩).assign
    30 ⟨-1, fun _ => 0, fun _ => 0, fun _ => 0, fun _ => 0⟩
  repSpilloverTemplate id := if id = 21 then some [⟨87, fun rep => -(rep / 2), 7⟩] else none
  raceMask := 1
  classMask := 1
  onReputationChange _ standing := standing

/-- Both reputations reach their bounds, with a save and a load on the way. -/
def harborEvents : List Event :=
  [.modifyReputation 21 3000 false, .setInactive 1 true, .setAtWar 1 true, .saveToDB,
    .loadFromDB (fun _ => none) [(87, -1500, 3), (21, 3000, 35)],
    .modifyReputation 21 90000 false, .setAtWar 1 false]

theorem harborWorld_proper : Proper harborWorld := by
  have listed {key id : UInt32} {entry : FactionEntry} (h : Listed harborWorld key id entry) :
      (id = 87 ∧ key = 0 ∨ id = 21 ∧ key = 1) ∧ inRange (harborWorld.getBaseReputation entry) := by
    have mem : (id, entry) ∈ harborWorld.factionMap.entries := OrderedMap.find?_eq_some h.found
    rcases List.mem_cons.mp mem with there | mem
    · cases there
      exact ⟨Or.inr ⟨rfl, h.key_eq.symm⟩, by decide, by decide⟩
    rcases List.mem_cons.mp mem with there | mem
    · cases there
      exact absurd h.reputable (by decide)
    · cases List.mem_singleton.mp mem
      exact ⟨Or.inl ⟨rfl, h.key_eq.symm⟩, by decide, by decide⟩
  constructor
  · intro id entry there reputable
    exact (listed ⟨there, reputable, rfl⟩).2
  · intro key id entry id' entry' there there'
    obtain ⟨⟨rfl, first⟩ | ⟨rfl, first⟩, -⟩ := listed there <;>
      obtain ⟨⟨rfl, second⟩ | ⟨rfl, second⟩, -⟩ := listed there'
    · rfl
    · exact absurd (first.symm.trans second) (by decide)
    · exact absurd (first.symm.trans second) (by decide)
    · rfl

theorem harborWorld_replayable :
    Replayable harborWorld (fun _ => none)
      (run (ReputationMgr.step harborWorld) (create harborWorld) harborEvents) := by
  have result :
      (run (ReputationMgr.step harborWorld) (create harborWorld) harborEvents).factions.entries =
        [(0, ⟨87, 3, -35500, true⟩), (1, ⟨21, 33, 42499, true⟩)] := by rfl
  intro key state entry found there
  have mem := result ▸ OrderedMap.find?_eq_some found
  obtain there' | there' : (key, state) = _ ∨ (key, state) = _ := by
    simpa only [List.mem_cons, List.not_mem_nil, or_false] using mem
  · cases there'
    cases there.symm.trans (show _ = some _ from rfl)
    constructor <;> decide
  · cases there'
    cases there.symm.trans (show _ = some _ from rfl)
    constructor <;> decide

theorem harborWorld_survives_relog :
    Bounded harborWorld
        (run (ReputationMgr.step harborWorld) (create harborWorld) harborEvents) ∧
      Restored harborWorld (fun _ => none)
        (run (ReputationMgr.step harborWorld) (create harborWorld) harborEvents) :=
  ⟨(reputation_survives_relog harborWorld harborEvents).1 harborWorld_proper,
    ((reputation_survives_relog harborWorld harborEvents).2 _).mpr harborWorld_replayable⟩

def townWorld : World where
  factionMap := OrderedMap.empty.assign 21
    ⟨1, fun _ => 0, fun _ => 0, fun _ => 0, fun _ => factionFlagVisible⟩
  repSpilloverTemplate _ := none
  raceMask := 1
  classMask := 1
  onReputationChange _ standing := standing

/-- The peace that the player makes with a hostile faction is war again after a relog. -/
theorem peace_with_hostile_lost :
    ¬ Restored townWorld (fun _ => none)
      (run (ReputationMgr.step townWorld) (create townWorld)
        [.setReputation 21 (-4000), .setAtWar 1 false]) := by
  intro restored
  have flags := restored _ (List.Perm.refl _) 1
  exact absurd flags (by decide)

end Relog

end ReputationMgr

end TortoiseWow.Reputation
