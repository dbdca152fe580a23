import TortoiseWow.Pool.PoolRepair

/-!
When the walks remove no link: when the rows have no cycle and no two pools with a common pool
above them have maps that do not go together. While nothing is removed the maps of the pools
are those of pools below them; and after a walk the map of each pool on its way goes with the
map of its mother.
-/

namespace TortoiseWow.PoolLoading

open Relation (ReflTransGen TransGen)

namespace MapEntry

variable {a b c : MapEntry}

theorem compatible_refl (a : MapEntry) : a.compatible a := Or.inl rfl

theorem compatible.symm (h : a.compatible b) : b.compatible a := by
  rcases h with rfl | ⟨ha, hb⟩
  · exact Or.inl rfl
  · exact Or.inr ⟨hb, ha⟩

theorem compatible.trans (hab : a.compatible b) (hbc : b.compatible c) : a.compatible c := by
  rcases hab with rfl | ⟨ha, hb⟩
  · exact hbc
  · rcases hbc with rfl | ⟨-, hc⟩
    · exact Or.inr ⟨ha, hb⟩
    · exact Or.inr ⟨ha, hc⟩

end MapEntry

namespace PoolManager

variable {manager manager' : PoolManager} {child mother : UInt16}

def Closed (manager : PoolManager) (poolId : UInt16) : Prop :=
  ∀ mapEntry mother, manager.mapOf poolId = some mapEntry → manager.Mother poolId mother →
    ∃ other, manager.mapOf mother = some other ∧ mapEntry.compatible other

def Grown (before after : PoolManager) : Prop :=
  ∀ poolId mapEntry, before.mapOf poolId = some mapEntry → after.mapOf poolId = some mapEntry

theorem walks_grown {fuel : Nat} {starts : List UInt16}
    (hwalks : starts.foldlM (fun manager start => walkUp fuel ∅ start manager) manager =
      some manager') : manager.Grown manager' := by
  refine walks_preserve (P := manager.Grown) ?_ (fun _ _ _ h _ => h) starts (fun _ _ h => h) hwalks
  intro after poolId mapEntry h hnone other entry hmap
  have hother := h other entry hmap
  rw [mapOf_remember, if_neg]
  · exact hother
  · rintro rfl
    exact nomatch hnone.symm.trans hother

theorem checkMaps_closed (hlink : manager.Mother child mother)
    (hmaps : manager.checkMaps child mother = some manager') {poolId : UInt16}
    (hother : poolId ≠ mother) (hclosed : poolId ≠ child → manager.Closed poolId) :
    manager'.Closed poolId := by
  intro mapEntry p hmap hp
  rcases checkMaps_cases hmaps with ⟨hnone, entry, hentry, rfl⟩ | ⟨rfl, htested⟩
  · rw [mapOf_remember, if_neg hother] at hmap
    by_cases hpool : poolId = child
    · subst hpool
      have hmother : p = mother := Option.some.inj (hp.symm.trans hlink)
      have hsame : mapEntry = entry := Option.some.inj (hmap.symm.trans hentry)
      exact ⟨entry, by rw [mapOf_remember, if_pos hmother],
        hsame ▸ MapEntry.compatible_refl mapEntry⟩
    · obtain ⟨other, hmapOther, hcompatible⟩ := hclosed hpool mapEntry p hmap hp
      refine ⟨other, ?_, hcompatible⟩
      rw [mapOf_remember, if_neg]
      · exact hmapOther
      · rintro rfl
        exact nomatch hnone.symm.trans hmapOther
  · by_cases hpool : poolId = child
    · subst hpool
      have hmother : p = mother := Option.some.inj (hp.symm.trans hlink)
      exact hmother ▸ htested mapEntry hmap
    · exact hclosed hpool mapEntry p hmap hp

theorem reach_of_top {poolId : UInt16} (htop : manager.poolSearchMap child = none)
    (hreach : ReflTransGen manager.Mother child poolId) : poolId = child := by
  cases hreach.cases_head with
  | inl h => exact h.symm
  | inr h =>
      obtain ⟨mother, hlink, -⟩ := h
      exact nomatch htop.symm.trans hlink

theorem walkUp_closed {fuel : Nat} {checked : Finset UInt16} {S : UInt16 → Prop}
    (hkept : manager.Shrunk manager')
    (hclosed : ∀ poolId, S poolId → poolId ≠ child → manager.Closed poolId)
    (hwalk : walkUp fuel checked child manager = some manager') (poolId : UInt16)
    (hpool : S poolId ∨ ReflTransGen manager.Mother child poolId) : manager'.Closed poolId := by
  induction fuel generalizing checked child manager S with
  | zero => cases hwalk
  | succ fuel ih =>
      unfold walkUp at hwalk
      cases hmother : manager.poolSearchMap child with
      | none =>
          simp only [hmother, Option.some.injEq] at hwalk
          subst hwalk
          by_cases heq : poolId = child
          · intro mapEntry mother _ hlink
            subst heq
            cases hmother.symm.trans hlink
          · refine hclosed poolId (hpool.resolve_right ?_) heq
            exact fun hreach => heq (reach_of_top hmother hreach)
      | some mother =>
          -- the link of the child is there at the end, so it was not removed
          have hstays := hkept child mother hmother
          simp only [hmother] at hwalk
          cases hmaps : manager.checkMaps child mother with
          | none =>
              simp only [hmaps, Option.some.injEq] at hwalk
              cases (hwalk ▸ removeLink_poolSearchMap_self).symm.trans hstays
          | some remembered =>
              have hsearch := checkMaps_poolSearchMap hmaps
              have hlinks : remembered.Mother = manager.Mother := by
                unfold Mother
                rw [hsearch]
              simp only [hmaps] at hwalk
              split at hwalk
              · cases (Option.some.inj hwalk ▸ removeLink_poolSearchMap_self).symm.trans hstays
              · refine ih (S := fun other => S other ∨ other = child) ?_ ?_ hwalk ?_
                · intro c p hlink
                  exact hkept c p (hlinks ▸ hlink)
                · intro other hother hne
                  refine checkMaps_closed hmother hmaps hne ?_
                  exact fun hchild => hclosed other (hother.resolve_right hchild) hchild
                · rw [hlinks]
                  rcases hpool with hpool | hreach
                  · exact Or.inl (Or.inl hpool)
                  · rcases hreach.cases_head with rfl | ⟨next, hlink, hrest⟩
                    · exact Or.inl (Or.inr rfl)
                    · exact Or.inr (Option.some.inj (hlink.symm.trans hmother) ▸ hrest)

theorem walks_closed {fuel : Nat} {starts : List UInt16} {S : UInt16 → Prop}
    (hkept : manager.Shrunk manager') (hclosed : ∀ poolId, S poolId → manager.Closed poolId)
    (hwalks : starts.foldlM (fun manager start => walkUp fuel ∅ start manager) manager =
      some manager') (poolId : UInt16)
    (hpool : S poolId ∨ ∃ start ∈ starts, ReflTransGen manager.Mother start poolId) :
    manager'.Closed poolId := by
  induction starts generalizing manager S with
  | nil =>
      rw [← Option.some.inj hwalks]
      exact hclosed poolId (hpool.resolve_right (by simp))
  | cons start starts ih =>
      obtain ⟨walked, hwalk, hrest⟩ := Option.bind_eq_some_iff.mp hwalks
      have hwalked : manager.Shrunk walked :=
        fun c p hlink => walks_shrunk hrest c p (hkept c p hlink)
      refine ih (S := fun other => S other ∨ ReflTransGen manager.Mother start other) ?_ ?_ hrest ?_
      · intro c p hlink
        exact hkept c p (walkUp_shrunk hwalk c p hlink)
      · intro other hother
        exact walkUp_closed hwalked (fun poolId hS _ => hclosed poolId hS) hwalk other hother
      · rcases hpool with hpool | ⟨other, hother, hreach⟩
        · exact Or.inl (Or.inl hpool)
        · rcases List.mem_cons.mp hother with rfl | hother
          · exact Or.inl (Or.inr hreach)
          · exact Or.inr ⟨other, hother, ReflTransGen.mono hwalked _ _ hreach⟩

end PoolManager

namespace PoolTables

variable {db : PoolTables}

/-- A walk comes to the pool: the greatest id is no start. -/
def Visited (db : PoolTables) (poolId : UInt16) : Prop :=
  poolId ≠ db.maxPoolId ∨ ∃ child, db.MotherRow child poolId

/-- The accepted rows have no cycle, and the maps of all that is spawned under one pool go
together: one map, or maps that are not instanceable. -/
structure Consistent (db : PoolTables) : Prop where
  acyclic : ∀ poolId, ¬ TransGen db.MotherRow poolId poolId
  maps : ∀ a b top mapA mapB, db.Visited a → db.Visited b →
    ReflTransGen db.MotherRow a top → ReflTransGen db.MotherRow b top →
    db.mapEntry a = some mapA → db.mapEntry b = some mapB → mapA.compatible mapB

theorem MotherRow.visited {child mother : UInt16} (h : db.MotherRow child mother) :
    db.Visited mother := Or.inr ⟨child, h⟩

theorem Visited.of_reach {a b : UInt16} (h : db.Visited a)
    (hreach : ReflTransGen db.MotherRow a b) :
    db.Visited b := by
  cases hreach with
  | refl => exact h
  | tail _ hlink => exact hlink.visited

theorem MotherRow.unique {child mother other : UInt16} (h : db.MotherRow child mother)
    (h' : db.MotherRow child other) : mother = other :=
  Option.some.inj (((linked_mother_iff child mother).mpr h).symm.trans
    ((linked_mother_iff child other).mpr h'))

structure Kept (db : PoolTables) (manager : PoolManager) : Prop where
  links : ∀ child mother, manager.Mother child mother ↔ db.MotherRow child mother
  checkPool : ∀ plus, manager.checkPool plus = db.linked.checkPool plus
  maps : ∀ poolId mapEntry, manager.mapOf poolId = some mapEntry →
    ∃ below, db.mapEntry below = some mapEntry ∧ ReflTransGen db.MotherRow below poolId ∧
      (db.Visited poolId → db.Visited below)

theorem kept_linked (db : PoolTables) : db.Kept db.linked := by
  refine ⟨linked_mother_iff, fun _ => rfl, ?_⟩
  intro poolId mapEntry hmap
  exact ⟨poolId, ((linked_linking db).mapOf poolId).symm.trans hmap, .refl, id⟩

theorem Kept.checkMaps {manager manager' : PoolManager} {child mother : UInt16}
    (h : db.Kept manager) (hlink : db.MotherRow child mother) (hchild : db.Visited child)
    (hmaps : manager.checkMaps child mother = some manager') : db.Kept manager' := by
  rcases PoolManager.checkMaps_cases hmaps with ⟨-, mapEntry, hentry, rfl⟩ | ⟨rfl, -⟩
  · refine ⟨h.links, h.checkPool, ?_⟩
    intro poolId entry hmap
    rw [PoolManager.mapOf_remember] at hmap
    split at hmap
    · next heq =>
        subst heq
        obtain ⟨below, hbelow, hreach, hvisited⟩ := h.maps child mapEntry hentry
        exact ⟨below, hbelow.trans hmap, hreach.tail hlink, fun _ => hvisited hchild⟩
    · exact h.maps poolId entry hmap
  · exact h

theorem Kept.checkMaps_ne_none {manager : PoolManager} {child mother : UInt16}
    (h : db.Kept manager) (hdb : db.Consistent) (hlink : db.MotherRow child mother)
    (hchild : db.Visited child) : manager.checkMaps child mother ≠ none := by
  intro hmaps
  obtain ⟨mapA, mapB, hmapA, hmapB, hclash⟩ := PoolManager.checkMaps_none hmaps
  obtain ⟨a, ha, hreachA, hvisitedA⟩ := h.maps child mapA hmapA
  obtain ⟨b, hb, hreachB, hvisitedB⟩ := h.maps mother mapB hmapB
  exact hclash (hdb.maps a b mother mapA mapB (hvisitedA hchild) (hvisitedB hlink.visited)
    (hreachA.tail hlink) hreachB ha hb)

theorem Kept.walkUp {manager manager' : PoolManager} {fuel : Nat} {checked : Finset UInt16}
    {child : UInt16} (h : db.Kept manager) (hdb : db.Consistent) (hchild : db.Visited child)
    (hchecked : ∀ poolId ∈ checked, TransGen db.MotherRow poolId child)
    (hwalk : PoolManager.walkUp fuel checked child manager = some manager') :
    db.Kept manager' := by
  induction fuel generalizing checked child manager with
  | zero => cases hwalk
  | succ fuel ih =>
      unfold PoolManager.walkUp at hwalk
      cases hmother : manager.poolSearchMap child with
      | none =>
          simp only [hmother, Option.some.injEq] at hwalk
          exact hwalk ▸ h
      | some mother =>
          have hlink := (h.links child mother).mp hmother
          simp only [hmother] at hwalk
          cases hmaps : manager.checkMaps child mother with
          | none => exact absurd hmaps (h.checkMaps_ne_none hdb hlink hchild)
          | some remembered =>
              have hbelow : ∀ poolId ∈ insert child checked,
                  TransGen db.MotherRow poolId mother := by
                intro poolId hmem
                rcases Finset.mem_insert.mp hmem with rfl | hmem
                · exact .single hlink
                · exact (hchecked poolId hmem).tail hlink
              simp only [hmaps] at hwalk
              split at hwalk
              · next hmem => exact absurd (hbelow mother hmem) (hdb.acyclic mother)
              · exact ih (h.checkMaps hlink hchild hmaps) hlink.visited hbelow hwalk

theorem Kept.walks {manager manager' : PoolManager} {fuel : Nat} (h : db.Kept manager)
    (hdb : db.Consistent) (starts : List UInt16) (hstarts : ∀ start ∈ starts, db.Visited start)
    (hwalks : starts.foldlM (fun manager start => PoolManager.walkUp fuel ∅ start manager)
      manager = some manager') : db.Kept manager' := by
  induction starts generalizing manager with
  | nil => exact Option.some.inj hwalks ▸ h
  | cons start starts ih =>
      obtain ⟨walked, hwalk, hrest⟩ := Option.bind_eq_some_iff.mp hwalks
      refine ih ?_ (fun other hother => hstarts other (List.mem_cons_of_mem _ hother)) hrest
      exact h.walkUp hdb (hstarts start List.mem_cons_self) (fun _ hmem => by simp at hmem) hwalk

theorem MotherRow.bounds {child mother : UInt16} (h : db.MotherRow child mother) :
    child ≤ db.maxPoolId ∧ mother ≤ db.maxPoolId ∧ mother ≠ child := by
  obtain ⟨row, -, haccepts, rfl, rfl⟩ := h
  exact ⟨haccepts.child, haccepts.mother, haccepts.other⟩

/-- Every pool from which a walk can go on is on the way of one. -/
theorem exists_start {poolId mother : UInt16} (hvisited : db.Visited poolId)
    (hlink : db.MotherRow poolId mother) :
    ∃ start, start < db.maxPoolId ∧ ReflTransGen db.MotherRow start poolId := by
  by_cases hmax : poolId = db.maxPoolId
  · obtain ⟨child, hchild⟩ := hvisited.resolve_left (not_not.mpr hmax)
    have hne : child ≠ db.maxPoolId := fun heq => hchild.bounds.2.2 (hmax.trans heq.symm)
    exact ⟨child, UInt16.lt_of_le_of_ne hchild.bounds.1 hne, .single hchild⟩
  · exact ⟨poolId, UInt16.lt_of_le_of_ne hlink.bounds.1 hmax, .refl⟩

theorem wellFounded_above {manager : PoolManager} {fuel : Nat}
    (hwalks : db.linked.removeCircularReferences fuel = some manager) :
    WellFounded manager.Above := by
  have hlinks : ∀ {child mother}, manager.Mother child mother → db.MotherRow child mother :=
    fun hlink => (linked_mother_iff _ _).mp (PoolManager.walks_shrunk hwalks _ _ hlink)
  have hbelow : ∀ poolId, poolId < db.maxPoolId → Acc manager.Above poolId := by
    intro poolId hlt
    refine PoolManager.walks_acc _ hwalks poolId ?_
    rwa [PoolManager.mem_starts, (linked_linking db).maxPoolId]
  refine ⟨fun poolId => Acc.intro poolId fun mother hlink => ?_⟩
  have hbounds := (hlinks hlink).bounds
  by_cases hmax : mother = db.maxPoolId
  · have hacc := hbelow poolId
      (UInt16.lt_of_le_of_ne hbounds.1 fun heq => hbounds.2.2 (hmax.trans heq.symm))
    exact hacc.inv hlink
  · exact hbelow mother (UInt16.lt_of_le_of_ne hbounds.2.1 hmax)

theorem compatible_above {manager : PoolManager}
    (hlinks : ∀ child mother, db.MotherRow child mother → manager.Mother child mother)
    (hgrown : db.linked.Grown manager)
    (hclosed : ∀ poolId start, start < db.maxPoolId → ReflTransGen db.MotherRow start poolId →
      manager.Closed poolId) {poolId top : UInt16} {mapEntry : MapEntry}
    (hvisited : db.Visited poolId) (hmap : db.mapEntry poolId = some mapEntry)
    (hreach : ReflTransGen db.MotherRow poolId top) :
    ∃ other, manager.mapOf top = some other ∧ mapEntry.compatible other := by
  induction hreach with
  | refl =>
      have hlinked := ((linked_linking db).mapOf poolId).trans hmap
      exact ⟨mapEntry, hgrown poolId mapEntry hlinked, MapEntry.compatible_refl mapEntry⟩
  | tail hreach hlink ih =>
      obtain ⟨other, hother, hcompatible⟩ := ih
      obtain ⟨start, hlt, hstart⟩ := exists_start (hvisited.of_reach hreach) hlink
      obtain ⟨above, habove, hnext⟩ :=
        hclosed _ start hlt hstart other _ hother (hlinks _ _ hlink)
      exact ⟨above, habove, hcompatible.trans hnext⟩

theorem kept_of_consistent {manager : PoolManager} {fuel : Nat} (hdb : db.Consistent)
    (hwalks : db.linked.removeCircularReferences fuel = some manager) : db.Kept manager := by
  refine (kept_linked db).walks hdb db.linked.starts ?_ hwalks
  intro start hstart
  rw [PoolManager.mem_starts, (linked_linking db).maxPoolId] at hstart
  refine Or.inl ?_
  rintro rfl
  exact UInt16.lt_irrefl _ hstart

theorem consistent_iff {manager : PoolManager} {fuel : Nat}
    (hwalks : db.linked.removeCircularReferences fuel = some manager) :
    db.Consistent ↔ ∀ child mother, db.MotherRow child mother → manager.Mother child mother := by
  have hmax := (linked_linking db).maxPoolId
  constructor
  · intro hdb child mother hlink
    exact ((kept_of_consistent hdb hwalks).links child mother).mpr hlink
  · intro hkept
    have hlinked : db.linked.Mother = db.MotherRow := by
      funext child mother
      exact propext (linked_mother_iff child mother)
    have hclosed : ∀ poolId start, start < db.maxPoolId →
        ReflTransGen db.MotherRow start poolId → manager.Closed poolId := by
      intro poolId start hlt hreach
      refine PoolManager.walks_closed (S := fun _ => False) ?_ (fun _ h => h.elim) hwalks poolId
        (Or.inr ⟨start, ?_, hlinked ▸ hreach⟩)
      · intro child mother hlink
        exact hkept child mother ((linked_mother_iff child mother).mp hlink)
      · rwa [PoolManager.mem_starts, hmax]
    constructor
    · intro poolId hcycle
      have hup : TransGen (Function.swap manager.Above) poolId poolId :=
        TransGen.mono hkept _ _ hcycle
      exact (wellFounded_swap (wellFounded_above hwalks)).transGen.irrefl.irrefl poolId hup
    · intro a b top mapA mapB ha hb hreachA hreachB hmapA hmapB
      have hgrown := PoolManager.walks_grown hwalks
      obtain ⟨other, htop, hcompatibleA⟩ := compatible_above hkept hgrown hclosed ha hmapA hreachA
      obtain ⟨other', htop', hcompatibleB⟩ := compatible_above hkept hgrown hclosed hb hmapB hreachB
      have hsame : other = other' := Option.some.inj (htop.symm.trans htop')
      exact hcompatibleA.trans (hsame ▸ hcompatibleB).symm

def Cut (db : PoolTables) (manager : PoolManager) (poolId : UInt16) : Prop :=
  db.HasMother poolId ∧ manager.poolSearchMap poolId = none

def Loads (plus : ℚ → ℚ → ℚ) (db : PoolTables) (manager : PoolManager) : Prop :=
  ∃ fuel, db.loadFromDB plus fuel = some manager

/-- What is asked of the pools when they are loaded. `SpawnPool` and `DespawnPool` call
themselves for pools that are listed in the group of the pool. -/
structure Repaired (plus : ℚ → ℚ → ℚ) (db : PoolTables) (manager : PoolManager) : Prop where
  acyclic : ∀ poolId, ¬ TransGen manager.Mother poolId poolId
  listed : ∀ child mother, manager.Listed child mother ↔ manager.Mother child mother
  flags : ∀ poolId, db.IsPool poolId → (manager.isAutoSpawn poolId ↔
    manager.poolSearchMap poolId = none ∧ manager.checkPool plus poolId)
  topPool : ∀ poolId, ∃ fuel top, manager.isPartOfTopPool fuel poolId = some top
  descends : WellFounded manager.Listed
  spawned : ∀ poolId, db.IsPool poolId → ∃ top, ReflTransGen manager.Mother poolId top ∧
    (manager.isAutoSpawn top ∨ ¬ manager.checkPool plus top)

def AllSpawned (db : PoolTables) (manager : PoolManager) : Prop :=
  ∀ poolId, db.IsPool poolId → ∃ top, ReflTransGen manager.Mother poolId top ∧
    manager.isAutoSpawn top

structure Loaded (plus : ℚ → ℚ → ℚ) (db : PoolTables) (manager : PoolManager) : Prop where
  coherent : manager.Coherent
  links : ∀ child mother, manager.Mother child mother → db.MotherRow child mother
  above : WellFounded manager.Above
  flags : ∀ poolId, manager.isAutoSpawn poolId ↔
    (db.Templated poolId ∧ ¬ db.HasMother poolId) ∧ manager.checkPool plus poolId
  consistent : db.Consistent ↔
    ∀ child mother, db.MotherRow child mother → manager.Mother child mother
  checkPool : db.Consistent → ∀ poolId, db.IsPool poolId →
    manager.checkPool plus poolId = db.linked.checkPool plus poolId

theorem loaded_of_walks {plus : ℚ → ℚ → ℚ} {repaired manager : PoolManager} {fuel : Nat}
    (hwalks : db.linked.removeCircularReferences fuel = some repaired)
    (hchecks : repaired.checkChances plus fuel 0 = some manager) : db.Loaded plus manager := by
  have hlinked := linked_linking db
  have hwalked := PoolManager.walked_of_walks hlinked.coherent hwalks
  have hchecked := PoolManager.checked_of_checkChances hchecks
  have hmother : manager.Mother = repaired.Mother := by
    unfold PoolManager.Mother
    rw [hchecked.poolSearchMap]
  have hlisted : manager.Listed = repaired.Listed := by
    unfold PoolManager.Listed
    rw [hchecked.poolPoolGroups]
  refine ⟨⟨?_, ?_⟩, ?_, ?_, ?_, ?_, ?_⟩
  · rw [hlisted, hmother]
    exact hwalked.coherent.listed
  · rw [hchecked.poolPoolGroups]
    exact hwalked.coherent.nodup
  · rw [hmother]
    exact fun child mother hlink => (linked_mother_iff _ _).mp (hwalked.shrunk _ _ hlink)
  · unfold PoolManager.Above
    rw [hmother]
    exact wellFounded_above hwalks
  · intro poolId
    rw [hchecked.autoSpawn, hchecked.checkPool, hwalked.autoSpawn, linked_isAutoSpawn,
      hwalked.size, hlinked.size]
    refine and_congr_right fun hflag => ⟨fun hpass => hpass ?_ ?_, fun hpass _ _ => hpass⟩
    · rw [UInt16.le_iff_toNat_le]
      exact Nat.zero_le _
    · exact Nat.lt_succ_of_le (UInt16.le_iff_toNat_le.mp hflag.1.le)
  · rw [hmother]
    exact consistent_iff hwalks
  · intro hdb poolId _
    rw [hchecked.checkPool, (kept_of_consistent hdb hwalks).checkPool plus]

/-- Without templates nothing is read, and no row could be accepted. -/
theorem loaded_empty {plus : ℚ → ℚ → ℚ} (hempty : db.poolTemplate = []) :
    db.Loaded plus {} := by
  have hmax : db.maxPoolId = 0 := by simp [maxPoolId, hempty]
  have hnone : ∀ {child mother}, ¬ db.MotherRow child mother := by
    intro child mother hlink
    obtain ⟨hchild, hmother, hne⟩ := hlink.bounds
    rw [hmax, UInt16.le_zero_iff] at hchild hmother
    exact hne (hmother.trans hchild.symm)
  have htemplated : ∀ {poolId}, ¬ db.Templated poolId := by
    intro poolId htemplate
    simp [Templated, hempty] at htemplate
  have hacyclic : db.Consistent := by
    constructor
    · intro poolId hcycle
      obtain ⟨other, -, hlink⟩ := TransGen.tail'_iff.mp hcycle
      exact hnone hlink
    · intro a b top mapA mapB _ _ hreachA hreachB hmapA hmapB
      have hsame : ∀ {poolId}, ReflTransGen db.MotherRow poolId top → poolId = top := by
        intro poolId hreach
        rcases hreach.cases_head with h | ⟨other, hlink, -⟩
        · exact h
        · exact absurd hlink hnone
      rw [hsame hreachA, ← hsame hreachB, hmapB] at hmapA
      exact Option.some.inj hmapA ▸ MapEntry.compatible_refl mapB
  have hunlinked : ∀ {child mother}, ¬ PoolManager.Mother {} child mother := by
    intro child mother hlink
    cases hlink
  refine ⟨⟨?_, fun _ => List.nodup_nil⟩, fun _ _ hlink => absurd hlink hunlinked,
    ⟨fun poolId => Acc.intro poolId fun _ hlink => absurd hlink hunlinked⟩, ?_, ?_, ?_⟩
  · intro child mother
    exact iff_of_false List.not_mem_nil hunlinked
  · intro poolId
    exact ⟨fun hflag => absurd hflag (by decide : ¬ ({} : PoolTemplateData).isAutoSpawn),
      fun hflag => absurd hflag.1.1 htemplated⟩
  · exact ⟨fun _ child mother hlink => absurd hlink hnone, fun _ => hacyclic⟩
  · rintro - poolId (htemplate | ⟨mother, hlink⟩ | ⟨child, hlink⟩)
    · exact absurd htemplate htemplated
    · exact absurd hlink hnone
    · exact absurd hlink hnone

theorem Loads.loaded {plus : ℚ → ℚ → ℚ} {manager : PoolManager} (h : db.Loads plus manager) :
    db.Loaded plus manager := by
  obtain ⟨fuel, hload⟩ := h
  unfold loadFromDB at hload
  split at hload
  · next hempty => exact Option.some.inj hload ▸ loaded_empty (List.isEmpty_iff.mp hempty)
  · obtain ⟨repaired, hwalks, hchecks⟩ := Option.bind_eq_some_iff.mp hload
    exact loaded_of_walks hwalks hchecks

/-- The load ends exactly when the counter of the last loop can get past the greatest id. -/
theorem loads_iff (plus : ℚ → ℚ → ℚ) (db : PoolTables) :
    (∃ manager, db.Loads plus manager) ↔ db.maxPoolId ≠ 65535 := by
  have hlinked := linked_linking db
  constructor
  · rintro ⟨manager, fuel, hload⟩ hmax
    unfold loadFromDB at hload
    split at hload
    · next hempty =>
        rw [List.isEmpty_iff] at hempty
        simp [maxPoolId, hempty] at hmax
    · obtain ⟨repaired, hwalks, hchecks⟩ := Option.bind_eq_some_iff.mp hload
      have hsize := (PoolManager.walked_of_walks hlinked.coherent hwalks).size
      rw [hlinked.size, hmax] at hsize
      rw [PoolManager.checkChances_none (by simp [hsize])] at hchecks
      cases hchecks
  · intro hmax
    by_cases hempty : db.poolTemplate.isEmpty
    · exact ⟨{}, 0, if_pos hempty⟩
    · obtain ⟨fuel, hfuel⟩ := exists_gt (max (Nat.card UInt16) (db.maxPoolId.toNat + 1))
      obtain ⟨repaired, hwalks⟩ := Option.isSome_iff_exists.mp
        (@PoolManager.walks_isSome db.linked fuel db.linked.starts
          ((le_max_left _ _).trans_lt hfuel))
      have hsize := (PoolManager.walked_of_walks hlinked.coherent hwalks).size.trans hlinked.size
      have hlt : db.maxPoolId.toNat + 1 < 65536 := by
        have hle := db.maxPoolId.toNat_lt
        have hne : db.maxPoolId.toNat ≠ 65535 := fun heq => hmax (UInt16.toNat_inj.mp heq)
        omega
      obtain ⟨manager, hchecks⟩ := Option.isSome_iff_exists.mp
        (@PoolManager.checkChances_isSome plus repaired fuel 0 (hsize ▸ hlt) (Nat.zero_le _)
          (hsize ▸ ((le_max_right _ _).trans_lt hfuel)))
      refine ⟨manager, fuel, ?_⟩
      rw [loadFromDB, if_neg hempty]
      exact Option.bind_eq_some_iff.mpr ⟨repaired, hwalks, hchecks⟩

section Repaired

variable {plus : ℚ → ℚ → ℚ} {manager : PoolManager}

theorem Loaded.exists_top (h : db.Loaded plus manager) (poolId : UInt16) :
    ∃ top, ReflTransGen manager.Mother poolId top ∧ manager.poolSearchMap top = none := by
  induction poolId using h.above.induction with
  | h poolId ih =>
      cases hmother : manager.poolSearchMap poolId with
      | none => exact ⟨poolId, .refl, hmother⟩
      | some mother =>
          obtain ⟨top, hreach, htop⟩ := ih mother hmother
          exact ⟨top, .head hmother hreach, htop⟩

theorem Loaded.exists_topPool (h : db.Loaded plus manager) (poolId : UInt16) :
    ∃ fuel top, manager.isPartOfTopPool fuel poolId = some top := by
  induction poolId using h.above.induction with
  | h poolId ih =>
      by_cases hmother : manager.isPartOfAPool poolId = 0
      · exact ⟨1, 0, by simp [PoolManager.isPartOfTopPool, hmother]⟩
      · have hlink : manager.Mother poolId (manager.isPartOfAPool poolId) := by
          unfold PoolManager.isPartOfAPool at hmother ⊢
          unfold PoolManager.Mother
          cases hsearch : manager.poolSearchMap poolId with
          | none => simp [hsearch] at hmother
          | some mother => rfl
        obtain ⟨fuel, top, htop⟩ := ih _ hlink
        refine ⟨fuel + 1, if top ≠ 0 then top else manager.isPartOfAPool poolId, ?_⟩
        simp only [PoolManager.isPartOfTopPool, hmother, htop, ne_eq, not_false_iff, if_true]
        exact (apply_ite some _ _ _).symm

theorem Loaded.isPool_of_reach (h : db.Loaded plus manager) {poolId top : UInt16}
    (hpool : db.IsPool poolId) (hreach : ReflTransGen manager.Mother poolId top) :
    db.IsPool top := by
  cases hreach with
  | refl => exact hpool
  | tail _ hlink => exact Or.inr (Or.inr ⟨_, h.links _ _ hlink⟩)

theorem Loaded.top_of_not_hasMother (h : db.Loaded plus manager) {poolId : UInt16}
    (hmother : ¬ db.HasMother poolId) : manager.poolSearchMap poolId = none := by
  cases hsearch : manager.poolSearchMap poolId with
  | none => rfl
  | some mother => exact absurd ⟨mother, h.links _ _ hsearch⟩ hmother

theorem Loaded.repaired_iff (h : db.Loaded plus manager) :
    db.Repaired plus manager ↔ ∀ poolId, db.IsPool poolId → manager.checkPool plus poolId →
      (db.Templated poolId ∨ db.HasMother poolId) ∧ ¬ db.Cut manager poolId := by
  constructor
  · intro hrepaired poolId hpool hcheck
    have hflags := (hrepaired.flags poolId hpool).trans (and_iff_left hcheck)
    refine ⟨?_, ?_⟩
    · by_cases hmother : db.HasMother poolId
      · exact Or.inr hmother
      · have hflag := hflags.mpr (h.top_of_not_hasMother hmother)
        exact Or.inl ((h.flags poolId).mp hflag).1.1
    · rintro ⟨hmother, htop⟩
      exact ((h.flags poolId).mp (hflags.mpr htop)).1.2 hmother
  · intro hall
    have hflags : ∀ poolId, db.IsPool poolId → (manager.isAutoSpawn poolId ↔
        manager.poolSearchMap poolId = none ∧ manager.checkPool plus poolId) := by
      intro poolId hpool
      rw [h.flags]
      refine and_congr_left fun hcheck => ?_
      obtain ⟨hlisted, hcut⟩ := hall poolId hpool hcheck
      constructor
      · exact fun hflag => h.top_of_not_hasMother hflag.2
      · intro htop
        have hmother : ¬ db.HasMother poolId := fun hmother => hcut ⟨hmother, htop⟩
        exact ⟨hlisted.resolve_right hmother, hmother⟩
    have hup := wellFounded_swap h.above
    refine ⟨fun poolId => hup.transGen.irrefl.irrefl poolId, h.coherent.listed, hflags,
      h.exists_topPool, ?_, ?_⟩
    · exact Subrelation.wf (fun hlisted => (h.coherent.listed _ _).mp hlisted) hup
    · intro poolId hpool
      obtain ⟨top, hreach, htop⟩ := h.exists_top poolId
      refine ⟨top, hreach, ?_⟩
      rw [hflags top (h.isPool_of_reach hpool hreach)]
      exact (Classical.em _).imp (fun hcheck => ⟨htop, hcheck⟩) id

theorem Loaded.consistent_iff_uncut (h : db.Loaded plus manager) :
    db.Consistent ↔ ∀ poolId, ¬ db.Cut manager poolId := by
  rw [h.consistent]
  constructor
  · rintro hkept poolId ⟨⟨mother, hlink⟩, htop⟩
    exact nomatch htop.symm.trans (hkept poolId mother hlink)
  · intro huncut child mother hlink
    cases hsearch : manager.poolSearchMap child with
    | none => exact absurd ⟨⟨mother, hlink⟩, hsearch⟩ (huncut child)
    | some other => exact hlink.unique (h.links child other hsearch) ▸ hsearch

theorem Loaded.repaired_of_consistent_iff (h : db.Loaded plus manager) (hdb : db.Consistent) :
    db.Repaired plus manager ↔ ∀ poolId, db.IsPool poolId → db.linked.checkPool plus poolId →
      db.Templated poolId ∨ db.HasMother poolId := by
  rw [h.repaired_iff]
  refine forall₂_congr fun poolId hpool => ?_
  rw [h.checkPool hdb poolId hpool, and_iff_left (h.consistent_iff_uncut.mp hdb poolId)]

theorem Loaded.not_hasMother_iff (h : db.Loaded plus manager) {poolId : UInt16}
    (huncut : ¬ db.Cut manager poolId) :
    ¬ db.HasMother poolId ↔ manager.poolSearchMap poolId = none :=
  ⟨h.top_of_not_hasMother, fun htop hmother => huncut ⟨hmother, htop⟩⟩

theorem AllSpawned.top (h : db.AllSpawned manager) {poolId : UInt16} (hpool : db.IsPool poolId)
    (htop : manager.poolSearchMap poolId = none) : manager.isAutoSpawn poolId := by
  obtain ⟨top, hreach, hflag⟩ := h poolId hpool
  exact PoolManager.reach_of_top htop hreach ▸ hflag

theorem Loaded.allSpawned_iff (h : db.Loaded plus manager) :
    db.Repaired plus manager ∧ db.AllSpawned manager ↔ db.Consistent ∧
      ∀ poolId, db.IsPool poolId → ¬ db.HasMother poolId →
        db.Templated poolId ∧ db.linked.checkPool plus poolId := by
  constructor
  · rintro ⟨-, hspawned⟩
    have hdb : db.Consistent := by
      rw [h.consistent_iff_uncut]
      rintro poolId ⟨⟨mother, hlink⟩, htop⟩
      have hflag := hspawned.top (Or.inr (Or.inl ⟨mother, hlink⟩)) htop
      exact ((h.flags poolId).mp hflag).1.2 ⟨mother, hlink⟩
    refine ⟨hdb, ?_⟩
    intro poolId hpool hmother
    have huncut := h.consistent_iff_uncut.mp hdb poolId
    have hflag := hspawned.top hpool ((h.not_hasMother_iff huncut).mp hmother)
    obtain ⟨⟨htemplate, -⟩, hcheck⟩ := (h.flags poolId).mp hflag
    exact ⟨htemplate, h.checkPool hdb poolId hpool ▸ hcheck⟩
  · rintro ⟨hdb, htops⟩
    constructor
    · rw [h.repaired_of_consistent_iff hdb]
      intro poolId hpool _
      by_cases hmother : db.HasMother poolId
      · exact Or.inr hmother
      · exact Or.inl (htops poolId hpool hmother).1
    · intro poolId hpool
      obtain ⟨top, hreach, htop⟩ := h.exists_top poolId
      have htopPool := h.isPool_of_reach hpool hreach
      have hmother := (h.not_hasMother_iff (h.consistent_iff_uncut.mp hdb top)).mpr htop
      obtain ⟨htemplate, hcheck⟩ := htops top htopPool hmother
      refine ⟨top, hreach, (h.flags top).mpr ⟨⟨htemplate, hmother⟩, ?_⟩⟩
      rwa [h.checkPool hdb top htopPool]

end Repaired

/-- The load ends unless the greatest id is 65535. Then everything is as it should be, and
something spawns every pool, exactly where the rows are consistent and all pools at the top have
a template and sound chances. Apart from the pools that fail the check, what goes wrong is that a
pool stays unflagged where its link was removed, or where it is named as a mother only; and
links are removed exactly where the rows are not consistent. -/
theorem loadFromDB_iff (plus : ℚ → ℚ → ℚ) (db : PoolTables) :
    ((∃ manager, db.Loads plus manager) ↔ db.maxPoolId ≠ 65535) ∧
      ∀ manager, db.Loads plus manager →
        (db.Repaired plus manager ∧ db.AllSpawned manager ↔ db.Consistent ∧
          ∀ poolId, db.IsPool poolId → ¬ db.HasMother poolId →
            db.Templated poolId ∧ db.linked.checkPool plus poolId) ∧
        (db.Consistent → (db.Repaired plus manager ↔ ∀ poolId, db.IsPool poolId →
          db.linked.checkPool plus poolId → db.Templated poolId ∨ db.HasMother poolId)) ∧
        (db.Repaired plus manager ↔ ∀ poolId, db.IsPool poolId → manager.checkPool plus poolId →
          (db.Templated poolId ∨ db.HasMother poolId) ∧ ¬ db.Cut manager poolId) ∧
        (db.Consistent ↔ ∀ poolId, ¬ db.Cut manager poolId) := by
  refine ⟨loads_iff plus db, ?_⟩
  intro manager hloads
  have hloaded := hloads.loaded
  exact ⟨hloaded.allSpawned_iff, hloaded.repaired_of_consistent_iff, hloaded.repaired_iff,
    hloaded.consistent_iff_uncut⟩

def nested : PoolTables where
  poolTemplate := [⟨1, 1, 0⟩, ⟨2, 1, 0⟩]
  poolPool := [⟨1, 2, 0, 0⟩]
  oneRow := by decide

theorem nested_repaired : ∃ manager, nested.Loads (· + ·) manager ∧
    nested.Repaired (· + ·) manager := by
  have hload : (nested.loadFromDB (· + ·) 8).map (·.poolSearchMap 1) = some (some 2) := by
    decide +kernel
  obtain ⟨manager, hmanager, hlinked⟩ := Option.map_eq_some_iff.mp hload
  refine ⟨manager, ⟨8, hmanager⟩, ((loadFromDB_iff _ nested).2 _ ⟨8, hmanager⟩).2.2.1.mpr ?_⟩
  have hmother : ∀ {child mother}, nested.MotherRow child mother → child = 1 ∧ mother = 2 := by
    rintro child mother ⟨row, hrow, -, rfl, rfl⟩
    rw [List.mem_singleton.mp hrow]
    exact ⟨rfl, rfl⟩
  rintro poolId hpool -
  constructor
  · rcases hpool with h | h | ⟨child, h⟩
    · exact Or.inl h
    · exact Or.inr h
    · exact Or.inl ⟨⟨2, 1, 0⟩, by decide, (hmother h).2.symm⟩
  · rintro ⟨⟨mother, h⟩, hcut⟩
    rw [(hmother h).1] at hcut
    exact nomatch hlinked.symm.trans hcut

/-- Each of the pools 1 and 2 is the mother of the other. -/
def circle : PoolTables where
  poolTemplate := [⟨1, 1, 0⟩, ⟨2, 1, 0⟩]
  poolPool := [⟨1, 2, 0, 0⟩, ⟨2, 1, 0, 0⟩]
  oneRow := by decide

def greatest : PoolTables where
  poolTemplate := [⟨65535, 1, 0⟩]
  poolPool := []
  oneRow := by decide

def motherOnly : PoolTables where
  poolTemplate := [⟨2, 1, 0⟩]
  poolPool := [⟨2, 1, 0, 0⟩]
  oneRow := by decide

/-- Pool 2 of the circle has no mother any more and is not spawned for itself, pool 1 in
`motherOnly` neither; and with the id 65535 the load does not end. -/
theorem circle_unspawned :
    (∃ manager, circle.Loads (· + ·) manager ∧ manager.poolSearchMap 2 = none ∧
      manager.checkPool (· + ·) 2 ∧ ¬ manager.isAutoSpawn 2 ∧
      ¬ circle.Repaired (· + ·) manager) ∧
    (∃ manager, motherOnly.Loads (· + ·) manager ∧ ¬ motherOnly.Repaired (· + ·) manager) ∧
    ¬ ∃ manager, greatest.Loads (· + ·) manager := by
  have hview : ∀ (db : PoolTables) (poolId : UInt16),
      (db.loadFromDB (· + ·) 8).map (fun manager => (manager.poolSearchMap poolId,
        manager.checkPool (· + ·) poolId, manager.isAutoSpawn poolId)) =
          some (none, true, false) →
      ∃ manager, db.Loads (· + ·) manager ∧ manager.poolSearchMap poolId = none ∧
        manager.checkPool (· + ·) poolId ∧ ¬ manager.isAutoSpawn poolId := by
    intro db poolId hload
    obtain ⟨manager, hmanager, hview⟩ := Option.map_eq_some_iff.mp hload
    simp only [Prod.mk.injEq] at hview
    exact ⟨manager, ⟨8, hmanager⟩, hview.1, hview.2.1, by simp [hview.2.2]⟩
  refine ⟨?_, ?_, ?_⟩
  · obtain ⟨manager, hload, htop, hcheck, hflag⟩ := hview circle 2 (by decide +kernel)
    refine ⟨manager, hload, htop, hcheck, hflag, ?_⟩
    intro hrepaired
    have hpool : circle.IsPool 2 := Or.inl ⟨⟨2, 1, 0⟩, by decide, rfl⟩
    exact hflag ((hrepaired.flags 2 hpool).mpr ⟨htop, hcheck⟩)
  · obtain ⟨manager, hload, htop, hcheck, hflag⟩ := hview motherOnly 1 (by decide +kernel)
    refine ⟨manager, hload, ?_⟩
    intro hrepaired
    have hpool : motherOnly.IsPool 1 :=
      Or.inr (Or.inr ⟨2, ⟨2, 1, 0, 0⟩, by decide, ⟨by decide, by decide, by decide, by norm_num⟩,
        rfl, rfl⟩)
    exact hflag ((hrepaired.flags 1 hpool).mpr ⟨htop, hcheck⟩)
  · rw [loads_iff]
    exact not_not.mpr rfl

end PoolTables

end TortoiseWow.PoolLoading
