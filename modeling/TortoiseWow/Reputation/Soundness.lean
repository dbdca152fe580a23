import Mathlib
import TortoiseWow.Lib.KeyedWrites
import TortoiseWow.Reputation.Flags

/-!
What calls, saves and loads keep of the reputations: each place of the list has
the faction it had at first, with flags that calls can make of those of the
table; what is not marked to be saved is in the rows; and sums of base and
standing stay in the range of the ranks when the faction table starts them there.
-/

namespace TortoiseWow.Reputation

open Lib

namespace ReputationMgr

variable {world : World} {mgr : ReputationMgr}

section Factions

structure Listed (world : World) (key id : UInt32) (entry : FactionEntry) : Prop where
  found : world.factionMap.find? id = some entry
  reputable : entry.canHaveReputation = true
  key_eq : entry.repListID = key

theorem initial_foldl {entries : List (UInt32 × FactionEntry)}
    (table : ∀ faction ∈ entries, world.factionMap.find? faction.1 = some faction.2)
    {factions : OrderedMap UInt32 FactionState}
    (good : ∀ key state, factions.find? key = some state →
      ∃ id entry, Listed world key id entry ∧ state = newFaction world id entry) :
    ∀ key state,
      (entries.foldl
        (fun factions faction =>
          if faction.2.canHaveReputation then
            factions.assign faction.2.repListID (newFaction world faction.1 faction.2)
          else factions) factions).find? key = some state →
        ∃ id entry, Listed world key id entry ∧ state = newFaction world id entry := by
  induction entries generalizing factions with
  | nil => exact good
  | cons faction entries ih =>
      have rest := fun other mem => table other (List.mem_cons_of_mem faction mem)
      rw [List.foldl_cons]
      apply ih rest
      intro key state found
      split at found
      · rename_i reputable
        by_cases same : key = faction.2.repListID
        · rw [same, OrderedMap.find?_assign_self] at found
          cases found
          exact ⟨faction.1, faction.2,
            ⟨table faction List.mem_cons_self, reputable, same.symm⟩, rfl⟩
        · rw [OrderedMap.find?_assign_of_ne _ same] at found
          exact good key state found
      · exact good key state found

/-- Before a load each faction stands under its list id, with the flags of the table. -/
theorem find?_initial {key : UInt32} {state : FactionState}
    (found : (initialFactions world).find? key = some state) :
    ∃ id entry, Listed world key id entry ∧ state = newFaction world id entry :=
  initial_foldl (fun _ mem => OrderedMap.find?_of_mem mem)
    (fun key _ found => absurd ((OrderedMap.find?_empty key).symm.trans found)
      (Option.some_ne_none _).symm)
    key state found

theorem initial_key_unique {key other : UInt32} {state state' : FactionState}
    (found : (initialFactions world).find? key = some state)
    (found' : (initialFactions world).find? other = some state') (same : state.id = state'.id) :
    key = other := by
  obtain ⟨id, entry, listed, rfl⟩ := find?_initial found
  obtain ⟨id', entry', listed', rfl⟩ := find?_initial found'
  have same : id = id' := same
  have rows := listed.found
  rw [same, listed'.found] at rows
  cases rows
  exact listed.key_eq.symm.trans listed'.key_eq

end Factions

section Ranges

def inRange (reputation : Int) : Prop := reputationBottom ≤ reputation ∧ reputation ≤ reputationCap

/-- The base reputations of the character are in the range of the ranks, and no two factions
share a place in the list. -/
structure Proper (world : World) : Prop where
  base : ∀ id entry, world.factionMap.find? id = some entry → entry.canHaveReputation = true →
    inRange (world.getBaseReputation entry)
  apart : ∀ key id entry id' entry', Listed world key id entry →
    Listed world key id' entry' → id = id'

theorem clamp_inRange (standing : Int) : inRange (clamp standing) := by
  unfold clamp
  split
  · exact ⟨by decide, le_refl _⟩
  · split
    · exact ⟨le_refl _, by decide⟩
    · rename_i low high
      exact ⟨not_lt.mp high, not_lt.mp low⟩

structure Ranged (world : World) (mgr : ReputationMgr) : Prop where
  states : ∀ key state entry, mgr.factions.find? key = some state →
    world.factionMap.find? state.id = some entry →
      inRange (world.getBaseReputation entry + state.standing)
  rows : ∀ id row entry, mgr.rows.find? id = some row → world.factionMap.find? id = some entry →
    inRange (world.getBaseReputation entry + row.1)

end Ranges

section Soundness

/-- What any calls, saves and loads keep. -/
structure Sound (world : World) (mgr : ReputationMgr) : Prop where
  ids : ∀ key, (mgr.factions.find? key).map (·.id) = ((initialFactions world).find? key).map (·.id)
  grown : ∀ key state entry, mgr.factions.find? key = some state →
    world.factionMap.find? state.id = some entry →
      Grown (world.getDefaultStateFlags entry) state.flags
  saved : ∀ key state, mgr.factions.find? key = some state → state.needSave = false →
    mgr.rows.find? state.id = some (state.standing, state.flags)
  rows : ∀ id row, mgr.rows.find? id = some row →
    ∃ key state, (initialFactions world).find? key = some state ∧ state.id = id
  ranged : Proper world → Ranged world mgr

theorem Sound.origin (h : Sound world mgr) {key : UInt32} {state : FactionState}
    (found : mgr.factions.find? key = some state) :
    ∃ entry, Listed world key state.id entry ∧
      (initialFactions world).find? key = some (newFaction world state.id entry) := by
  have same := h.ids key
  rw [found, Option.map_some] at same
  obtain ⟨first, hfirst, id_eq⟩ := Option.map_eq_some_iff.mp same.symm
  obtain ⟨id, entry, listed, rfl⟩ := find?_initial hfirst
  have id_eq : id = state.id := id_eq
  rw [id_eq] at listed hfirst
  exact ⟨entry, listed, hfirst⟩

theorem sound_create (world : World) : Sound world (create world) where
  ids _ := rfl
  grown key state entry found there := by
    obtain ⟨id, entry', listed, rfl⟩ := find?_initial found
    have same := listed.found.symm.trans there
    cases same
    exact Grown.refl _
  saved key state found clean := by
    obtain ⟨id, entry, -, rfl⟩ := find?_initial found
    exact absurd clean Bool.false_ne_true.symm
  rows _ _ none := nomatch none
  ranged proper := by
    constructor
    · intro key state entry found there
      obtain ⟨id, entry', listed, rfl⟩ := find?_initial found
      have same := listed.found.symm.trans there
      cases same
      have base := proper.base _ _ listed.found listed.reputable
      exact (Int.add_zero _).symm ▸ base
    · exact fun _ _ _ none => nomatch none

/-- A state that a call makes of another: the same faction, flags that calls can make, and
marked to be saved unless nothing has changed. -/
structure Changes (state new : FactionState) : Prop where
  id_eq : new.id = state.id
  grown : ∀ table, Grown table state.flags → Grown table new.flags
  marked : new = state ∨ new.needSave = true

theorem Changes.refl (state : FactionState) : Changes state state :=
  ⟨rfl, fun _ g => g, Or.inl rfl⟩

theorem Changes.ite {a b b' : FactionState} (c : Prop) [Decidable c] (yes : Changes a b)
    (no : Changes a b') :
    Changes a (if c then b else b') := by
  split
  · exact yes
  · exact no

theorem Changes.trans {a b c : FactionState} (h : Changes a b) (h' : Changes b c) :
    Changes a c where
  id_eq := h'.id_eq.trans h.id_eq
  grown table g := h'.grown table (h.grown table g)
  marked := by
    rcases h'.marked with rfl | marked
    · exact h.marked
    · exact Or.inr marked

theorem changes_setVisible (state : FactionState) : Changes state state.setVisible where
  id_eq := setVisible_id state
  grown _ g := g.setVisible
  marked := by
    rw [FactionState.setVisible]
    split
    · exact Or.inl rfl
    · split
      · exact Or.inl rfl
      · exact Or.inr rfl

theorem changes_setAtWar (state : FactionState) (atWar : Bool) :
    Changes state (state.setAtWar atWar) where
  id_eq := setAtWar_id state atWar
  grown _ g := g.setAtWar atWar
  marked := by
    rw [FactionState.setAtWar]
    split
    · exact Or.inl rfl
    · split
      · exact Or.inl rfl
      · exact Or.inr rfl

theorem changes_setInactive (state : FactionState) (inactive : Bool) :
    Changes state (state.setInactive inactive) where
  id_eq := setInactive_id state inactive
  grown _ g := g.setInactive inactive
  marked := by
    rw [FactionState.setInactive]
    split
    · exact Or.inl rfl
    · split
      · exact Or.inl rfl
      · exact Or.inr rfl

theorem changes_setAtWarChecked (state : FactionState) (on : Bool) :
    Changes state (setAtWarChecked on state) := by
  rw [setAtWarChecked]
  split
  · exact Changes.refl state
  · exact changes_setAtWar state on

theorem setAtWarChecked_standing (state : FactionState) (on : Bool) :
    (setAtWarChecked on state).standing = state.standing := by
  rw [setAtWarChecked]
  split
  · rfl
  · exact setAtWar_standing state on

theorem Sound.assign (h : Sound world mgr) {key : UInt32} {state new : FactionState}
    (found : mgr.factions.find? key = some state) (changes : Changes state new)
    (range : Proper world → ∀ entry, Listed world key state.id entry →
      inRange (world.getBaseReputation entry + new.standing)) :
    Sound world { mgr with factions := mgr.factions.assign key new } where
  ids other := by
    by_cases same : other = key
    · rw [same, OrderedMap.find?_assign_self, ← h.ids key, found, Option.map_some, Option.map_some,
        changes.id_eq]
    · rw [OrderedMap.find?_assign_of_ne _ same]
      exact h.ids other
  grown other state' entry found' there := by
    by_cases same : other = key
    · rw [same, OrderedMap.find?_assign_self] at found'
      cases found'
      rw [changes.id_eq] at there
      exact changes.grown _ (h.grown key state entry found there)
    · rw [OrderedMap.find?_assign_of_ne _ same] at found'
      exact h.grown other state' entry found' there
  saved other state' found' clean := by
    by_cases same : other = key
    · rw [same, OrderedMap.find?_assign_self] at found'
      cases found'
      rcases changes.marked with rfl | marked
      · exact h.saved key _ found clean
      · rw [marked] at clean
        exact absurd clean Bool.false_ne_true.symm
    · rw [OrderedMap.find?_assign_of_ne _ same] at found'
      exact h.saved other state' found' clean
  rows := h.rows
  ranged proper := by
    refine ⟨?_, (h.ranged proper).rows⟩
    intro other state' entry found' there
    by_cases same : other = key
    · rw [same, OrderedMap.find?_assign_self] at found'
      cases found'
      rw [changes.id_eq] at there
      obtain ⟨entry', listed, -⟩ := h.origin found
      have rows := listed.found.symm.trans there
      cases rows
      exact range proper _ listed
    · rw [OrderedMap.find?_assign_of_ne _ same] at found'
      exact (h.ranged proper).states other state' entry found' there

theorem Sound.modify (h : Sound world mgr) (key : UInt32) {f : FactionState → FactionState}
    (changes : ∀ state, Changes state (f state))
    (same : ∀ state, (f state).standing = state.standing) :
    Sound world (mgr.modify key f) := by
  simp only [ReputationMgr.modify]
  split
  · exact h
  · rename_i state found
    refine h.assign found (changes state) ?_
    intro proper entry listed
    rw [same]
    exact (h.ranged proper).states key state entry found listed.found

theorem Sound.setOneFactionReputation (h : Sound world mgr) {id : UInt32} {entry : FactionEntry}
    (there : world.factionMap.find? id = some entry) (standing : Int) (incremental : Bool) :
    Sound world (mgr.setOneFactionReputation world id entry standing incremental false).2 := by
  simp only [ReputationMgr.setOneFactionReputation]
  split
  · exact h
  · rename_i state found
    generalize hnew : clamp (world.onReputationChange id
      (if incremental then standing +
        (state.standing + world.getBaseReputation entry) else standing)) = new
    have bounds : inRange new := hnew ▸ clamp_inRange _
    have written : Changes state
        { state with standing := new - world.getBaseReputation entry, needSave := true } :=
      ⟨rfl, fun _ g => g, Or.inr rfl⟩
    have shown := written.trans (changes_setVisible _)
    refine h.assign found ?_ ?_
    · split
      · split
        · exact shown.trans (changes_setAtWar _ true)
        · split
          · exact shown.trans (changes_setAtWarChecked _ false)
          · exact shown
      · exact shown
    · intro proper entry' listed
      obtain ⟨entry₀, listed₀, -⟩ := h.origin found
      have reputable : entry.canHaveReputation = true := by
        have ids : entry₀.reputationListID = entry.reputationListID :=
          congrArg Int32.ofUInt32 listed₀.key_eq
        have positive := listed₀.reputable
        rw [FactionEntry.canHaveReputation, ids] at positive
        exact positive
      have one := proper.apart _ _ _ _ _ listed ⟨there, reputable, rfl⟩
      have rows := listed.found
      rw [one, there] at rows
      cases rows
      have value : ∀ s : FactionState, s.standing = new - world.getBaseReputation entry →
          inRange (world.getBaseReputation entry + s.standing) := by
        intro s hs
        rw [hs, Int.add_comm, Int.sub_add_cancel]
        exact bounds
      apply value
      split
      · split
        · rw [setAtWar_standing, setVisible_standing]
          rfl
        · split
          · rw [setAtWarChecked_standing, setVisible_standing]
            rfl
          · rw [setVisible_standing]
            rfl
      · rw [setVisible_standing]
        rfl

theorem Sound.spill (h : Sound world mgr) (standing : Int) (incremental : Bool)
    (column : Spillover) :
    Sound world (spill world standing incremental false mgr column) := by
  rw [ReputationMgr.spill]
  split
  · exact h
  · split
    · exact h
    · rename_i entry there
      split
      · exact h.setOneFactionReputation there _ incremental
      · exact h

theorem Sound.setReputation (h : Sound world mgr) (id : UInt32) (standing : Int)
    (incremental noSpillover : Bool) :
    Sound world (mgr.setReputation world id standing incremental noSpillover false) := by
  rw [ReputationMgr.setReputation]
  split
  · exact h
  · rename_i entry there
    refine Sound.setOneFactionReputation ?_ there standing incremental
    generalize (if noSpillover then [] else (world.repSpilloverTemplate id).getD []) = columns
    induction columns generalizing mgr with
    | nil => exact h
    | cons column columns ih => exact ih (h.spill standing incremental column)

theorem Sound.setVisible (h : Sound world mgr) (id : UInt32) :
    Sound world (mgr.setVisible world id) := by
  rw [ReputationMgr.setVisible]
  split
  · exact h
  · split
    · exact h.modify _ changes_setVisible setVisible_standing
    · exact h

theorem Sound.setAtWar (h : Sound world mgr) (repListID : UInt32) (on : Bool) :
    Sound world (mgr.setAtWar repListID on) :=
  h.modify repListID (fun state => changes_setAtWarChecked state on)
    (fun state => setAtWarChecked_standing state on)

theorem Sound.setInactive (h : Sound world mgr) (repListID : UInt32) (on : Bool) :
    Sound world (mgr.setInactive repListID on) :=
  h.modify repListID (fun state => changes_setInactive state on)
    (fun state => setInactive_standing state on)

end Soundness

section Save

theorem Sound.key_unique (h : Sound world mgr) {key other : UInt32} {state state' : FactionState}
    (found : mgr.factions.find? key = some state) (found' : mgr.factions.find? other = some state')
    (same : state.id = state'.id) : key = other := by
  obtain ⟨entry, -, first⟩ := h.origin found
  obtain ⟨entry', -, first'⟩ := h.origin found'
  exact initial_key_unique first first' same

theorem Sound.ids_nodup (h : Sound world mgr) :
    ((mgr.factions.entries.map (·.2)).map (·.id)).Nodup := by
  rw [List.map_map]
  apply List.Nodup.map_on
  · intro entry mem other mem' same
    have found := OrderedMap.find?_of_mem mem
    have found' := OrderedMap.find?_of_mem mem'
    have keys := h.key_unique found found' same
    rw [keys, found'] at found
    exact Prod.ext keys (Option.some_inj.mp found).symm
  · exact List.Nodup.of_map _ mgr.factions.keys_nodup

theorem keyedWrite_saveRow :
    KeyedWrite UnorderedMap.find? saveRow FactionState.id
      (fun faction row => if faction.needSave then some (faction.standing, faction.flags) else row)
        where
  self rows faction := by
    rw [saveRow]
    split
    · exact UnorderedMap.find?_assign_self _ _ _
    · rfl
  other rows faction id apart := by
    rw [saveRow]
    split
    · rw [UnorderedMap.find?_assign_of_ne _ apart, UnorderedMap.find?_erase_of_ne _ apart]
    · rfl

theorem Sound.find?_saveToDB (h : Sound world mgr) {key : UInt32} {state : FactionState}
    (found : mgr.factions.find? key = some state) :
    mgr.saveToDB.rows.find? state.id = some (state.standing, state.flags) := by
  have mem : state ∈ mgr.factions.entries.map (·.2) :=
    List.mem_map.mpr ⟨_, OrderedMap.find?_eq_some found, rfl⟩
  have written := keyedWrite_saveRow.foldl_self h.ids_nodup mem mgr.rows
  refine written.trans ?_
  cases clean : state.needSave with
  | true => exact if_pos rfl
  | false => exact (if_neg Bool.false_ne_true).trans (h.saved key state found clean)

theorem find?_saveToDB_factions (key : UInt32) :
    mgr.saveToDB.factions.find? key =
      (mgr.factions.find? key).map fun faction => { faction with needSave := false } := by
  rw [saveToDB, OrderedMap.find?_filterMap]
  cases mgr.factions.find? key <;> rfl

theorem Sound.saveToDB (h : Sound world mgr) : Sound world mgr.saveToDB := by
  have before {key : UInt32} {state : FactionState}
    (found : mgr.saveToDB.factions.find? key = some state) :
      ∃ old, mgr.factions.find? key = some old ∧ { old with needSave := false } = state := by
    rw [find?_saveToDB_factions] at found
    exact Option.map_eq_some_iff.mp found
  -- a row is that of a state or was there before
  have origin {id : UInt32} {row : Int × UInt32} (found : mgr.saveToDB.rows.find? id = some row) :
      (∃ key state, mgr.factions.find? key = some state ∧ state.id = id ∧
        row = (state.standing, state.flags)) ∨ mgr.rows.find? id = some row := by
    by_cases written : id ∈ (mgr.factions.entries.map (·.2)).map (·.id)
    · obtain ⟨state, mem, rfl⟩ := List.mem_map.mp written
      obtain ⟨entry, listed, rfl⟩ := List.mem_map.mp mem
      have there := OrderedMap.find?_of_mem listed
      rw [h.find?_saveToDB there] at found
      exact Or.inl ⟨entry.1, entry.2, there, rfl, (Option.some_inj.mp found).symm⟩
    · have kept := keyedWrite_saveRow.foldl_other written mgr.rows
      exact Or.inr (kept.symm.trans found)
  constructor
  · intro key
    rw [find?_saveToDB_factions, Option.map_map, ← h.ids key]
    rfl
  · intro key state entry found there
    obtain ⟨old, known, rfl⟩ := before found
    exact h.grown key old entry known there
  · intro key state found _
    obtain ⟨old, known, rfl⟩ := before found
    have row := h.find?_saveToDB known
    exact row
  · intro id row found
    rcases origin found with ⟨key, state, there, same, -⟩ | old
    · obtain ⟨entry, -, first⟩ := h.origin there
      exact ⟨key, _, first, same⟩
    · exact h.rows id row old
  · intro proper
    constructor
    · intro key state entry found there
      obtain ⟨old, known, rfl⟩ := before found
      exact (h.ranged proper).states key old entry known there
    · intro id row entry found there
      rcases origin found with ⟨key, state, known, rfl, rfl⟩ | old
      · exact (h.ranged proper).states key state entry known there
      · exact (h.ranged proper).rows id row entry old there

end Save

end ReputationMgr

end TortoiseWow.Reputation
