import TortoiseWow.Pool.PoolLinks

/-!
What `LoadFromDB` makes of the pools of pools. A link is never added after the rows are read, so
the relation of a pool to its mother only shrinks; a pool from which a walk has started is
accessible by it for good. What does not come back is the flag of a pool whose link was removed.
-/

namespace TortoiseWow.PoolLoading

theorem finite_uint16 : Finite UInt16 :=
  Finite.of_injective UInt16.toFin fun _ _ h => UInt16.toFin_inj.mp h

def MapEntry.compatible (a b : MapEntry) : Prop :=
  a = b ∨ a.instanceable = false ∧ b.instanceable = false

namespace PoolManager

variable {plus : ℚ → ℚ → ℚ} {manager manager' : PoolManager} {child mother : UInt16}

def remember (manager : PoolManager) (poolId : UInt16) (mapEntry : MapEntry) : PoolManager :=
  manager.setTemplate poolId { manager.poolTemplate poolId with mapEntry := some mapEntry }

theorem remember_isAutoSpawn (poolId other : UInt16) (mapEntry : MapEntry) :
    (manager.remember poolId mapEntry).isAutoSpawn other = manager.isAutoSpawn other := by
  unfold remember setTemplate isAutoSpawn PoolTemplateData.isAutoSpawn
  by_cases h : other = poolId <;> simp [h]

theorem mapOf_remember (poolId other : UInt16) (mapEntry : MapEntry) :
    (manager.remember poolId mapEntry).mapOf other =
      if other = poolId then some mapEntry else manager.mapOf other := by
  unfold remember setTemplate mapOf
  by_cases h : other = poolId <;> simp [h]

theorem checkAndRemember_cases {mapEntry : MapEntry} {poolId : UInt16}
    (h : manager.checkAndRemember mapEntry poolId = some manager') :
    (manager.mapOf poolId = none ∧ manager' = manager.remember poolId mapEntry) ∨
      (manager' = manager ∧
        ∃ other, manager.mapOf poolId = some other ∧ mapEntry.compatible other) := by
  unfold checkAndRemember at h
  cases hmap : (manager.poolTemplate poolId).mapEntry with
  | none =>
      simp only [hmap, Option.some.injEq] at h
      exact Or.inl ⟨hmap, h.symm⟩
  | some other =>
      simp only [hmap] at h
      split at h
      · next heq => exact Or.inr ⟨(Option.some.inj h).symm, other, hmap, Or.inl heq.symm⟩
      · split at h
        · cases h
        · split at h
          · cases h
          · next hmap' hother =>
              refine Or.inr ⟨(Option.some.inj h).symm, other, hmap, Or.inr ?_⟩
              exact ⟨by simpa using hmap', by simpa using hother⟩

theorem checkAndRemember_none {mapEntry : MapEntry} {poolId : UInt16}
    (h : manager.checkAndRemember mapEntry poolId = none) :
    ∃ other, manager.mapOf poolId = some other ∧ ¬ mapEntry.compatible other := by
  unfold checkAndRemember at h
  cases hmap : (manager.poolTemplate poolId).mapEntry with
  | none => simp [hmap] at h
  | some other =>
      refine ⟨other, hmap, ?_⟩
      rintro (rfl | ⟨hentry, hother⟩)
      · simp [hmap] at h
      · simp [hmap, hentry, hother] at h

theorem checkMaps_cases (h : manager.checkMaps child mother = some manager') :
    (manager.mapOf mother = none ∧
      ∃ mapEntry, manager.mapOf child = some mapEntry ∧
        manager' = manager.remember mother mapEntry) ∨
      (manager' = manager ∧ ∀ mapEntry, manager.mapOf child = some mapEntry →
        ∃ other, manager.mapOf mother = some other ∧ mapEntry.compatible other) := by
  unfold checkMaps at h
  cases hmap : (manager.poolTemplate child).mapEntry with
  | none =>
      simp only [hmap, Option.some.injEq] at h
      refine Or.inr ⟨h.symm, ?_⟩
      intro mapEntry hentry
      simp [mapOf, hmap] at hentry
  | some mapEntry =>
      simp only [hmap] at h
      rcases checkAndRemember_cases h with ⟨hnone, heq⟩ | ⟨heq, hother⟩
      · exact Or.inl ⟨hnone, mapEntry, hmap, heq⟩
      · refine Or.inr ⟨heq, ?_⟩
        intro entry hentry
        rw [mapOf, hmap, Option.some.injEq] at hentry
        exact hentry ▸ hother

theorem checkMaps_none (h : manager.checkMaps child mother = none) :
    ∃ mapEntry other, manager.mapOf child = some mapEntry ∧ manager.mapOf mother = some other ∧
      ¬ mapEntry.compatible other := by
  unfold checkMaps at h
  cases hmap : (manager.poolTemplate child).mapEntry with
  | none => simp [hmap] at h
  | some mapEntry =>
      simp only [hmap] at h
      obtain ⟨other, hother, hclash⟩ := checkAndRemember_none h
      exact ⟨mapEntry, other, hmap, hother, hclash⟩

theorem checkMaps_poolSearchMap (h : manager.checkMaps child mother = some manager') :
    manager'.poolSearchMap = manager.poolSearchMap := by
  rcases checkMaps_cases h with ⟨-, mapEntry, -, rfl⟩ | ⟨rfl, -⟩ <;> rfl

/-- What holds whatever is remembered and whichever links are removed holds after a walk. -/
theorem walkUp_preserves {P : PoolManager → Prop}
    (hremember : ∀ manager poolId mapEntry, P manager → manager.mapOf poolId = none →
      P (manager.remember poolId mapEntry))
    (hremove : ∀ manager child mother, P manager → manager.Mother child mother →
      P (manager.removeLink child mother)) {fuel : Nat} {checked : Finset UInt16}
    (h : P manager) (hwalk : walkUp fuel checked child manager = some manager') : P manager' := by
  induction fuel generalizing checked child manager with
  | zero => cases hwalk
  | succ fuel ih =>
      unfold walkUp at hwalk
      cases hmother : manager.poolSearchMap child with
      | none =>
          simp only [hmother, Option.some.injEq] at hwalk
          exact hwalk ▸ h
      | some mother =>
          simp only [hmother] at hwalk
          cases hmaps : manager.checkMaps child mother with
          | none =>
              simp only [hmaps, Option.some.injEq] at hwalk
              exact hwalk ▸ hremove _ _ _ h hmother
          | some remembered =>
              have hremembered : P remembered := by
                rcases checkMaps_cases hmaps with ⟨hnone, mapEntry, -, rfl⟩ | ⟨rfl, -⟩
                · exact hremember _ _ _ h hnone
                · exact h
              simp only [hmaps] at hwalk
              split at hwalk
              · refine Option.some.inj hwalk ▸ hremove _ _ _ hremembered ?_
                exact (congrFun (checkMaps_poolSearchMap hmaps) child).trans hmother
              · exact ih hremembered hwalk

theorem walks_preserve {P : PoolManager → Prop}
    (hremember : ∀ manager poolId mapEntry, P manager → manager.mapOf poolId = none →
      P (manager.remember poolId mapEntry))
    (hremove : ∀ manager child mother, P manager → manager.Mother child mother →
      P (manager.removeLink child mother)) {fuel : Nat} (starts : List UInt16) (h : P manager)
    (hwalks : starts.foldlM (fun manager start => walkUp fuel ∅ start manager) manager =
      some manager') : P manager' := by
  induction starts generalizing manager with
  | nil => exact Option.some.inj hwalks ▸ h
  | cons start starts ih =>
      obtain ⟨walked, hwalk, hrest⟩ := Option.bind_eq_some_iff.mp hwalks
      exact ih (walkUp_preserves hremember hremove h hwalk) hrest

/-- Links may have gone, and none has come. -/
def Shrunk (after before : PoolManager) : Prop :=
  ∀ child mother, after.Mother child mother → before.Mother child mother

theorem Shrunk.removeLink {before : PoolManager} (h : manager.Shrunk before) :
    (manager.removeLink child mother).Shrunk before := by
  intro c p hlink
  exact h c p ((removeLink_mother_iff c p).mp hlink).2

theorem walkUp_shrunk {fuel : Nat} {checked : Finset UInt16}
    (hwalk : walkUp fuel checked child manager = some manager') : manager'.Shrunk manager :=
  walkUp_preserves (P := (Shrunk · manager)) (fun _ _ _ h _ => h) (fun _ _ _ h _ => h.removeLink)
    (fun _ _ h => h) hwalk

theorem walks_shrunk {fuel : Nat} {starts : List UInt16}
    (hwalks : starts.foldlM (fun manager start => walkUp fuel ∅ start manager) manager =
      some manager') : manager'.Shrunk manager :=
  walks_preserve (P := (Shrunk · manager)) (fun _ _ _ h _ => h) (fun _ _ _ h _ => h.removeLink)
    starts (fun _ _ h => h) hwalks

def Above (manager : PoolManager) (mother child : UInt16) : Prop := manager.Mother child mother

theorem Shrunk.acc {before : PoolManager} (h : manager.Shrunk before) {poolId : UInt16}
    (hacc : Acc before.Above poolId) : Acc manager.Above poolId :=
  Subrelation.accessible (fun hlink => h _ _ hlink) hacc

theorem acc_of_top (h : manager.poolSearchMap child = none) : Acc manager.Above child :=
  Acc.intro child fun _ hlink => nomatch h.symm.trans hlink

theorem acc_of_mother (h : manager.Mother child mother) (hacc : Acc manager.Above mother) :
    Acc manager.Above child := by
  refine Acc.intro child ?_
  intro other hlink
  exact Option.some.inj (h.symm.trans hlink) ▸ hacc

theorem removeLink_poolSearchMap_self :
    (manager.removeLink child mother).poolSearchMap child = none := by
  simp [removeLink]

/-- Whatever a walk meets, at its end no cycle is above the pool it started from: it has come to
a top, or it has made one. -/
theorem walkUp_acc {fuel : Nat} {checked : Finset UInt16}
    (hwalk : walkUp fuel checked child manager = some manager') : Acc manager'.Above child := by
  induction fuel generalizing checked child manager with
  | zero => cases hwalk
  | succ fuel ih =>
      have hshrunk := walkUp_shrunk hwalk
      unfold walkUp at hwalk
      cases hmother : manager.poolSearchMap child with
      | none =>
          simp only [hmother, Option.some.injEq] at hwalk
          exact acc_of_top (hwalk ▸ hmother)
      | some mother =>
          simp only [hmother] at hwalk
          cases hmaps : manager.checkMaps child mother with
          | none =>
              simp only [hmaps, Option.some.injEq] at hwalk
              exact acc_of_top (hwalk ▸ removeLink_poolSearchMap_self)
          | some remembered =>
              simp only [hmaps] at hwalk
              split at hwalk
              · exact acc_of_top (Option.some.inj hwalk ▸ removeLink_poolSearchMap_self)
              · cases hafter : manager'.poolSearchMap child with
                | none => exact acc_of_top hafter
                | some other =>
                    have hsame : other = mother :=
                      Option.some.inj ((hshrunk child other hafter).symm.trans hmother)
                    exact acc_of_mother hafter (hsame ▸ ih hwalk)

theorem walks_acc {fuel : Nat} (starts : List UInt16)
    (hwalks : starts.foldlM (fun manager start => walkUp fuel ∅ start manager) manager =
      some manager') : ∀ start ∈ starts, Acc manager'.Above start := by
  induction starts generalizing manager with
  | nil => exact fun _ h => nomatch h
  | cons start starts ih =>
      obtain ⟨walked, hwalk, hrest⟩ := Option.bind_eq_some_iff.mp hwalks
      intro other hother
      cases hother with
      | head => exact (walks_shrunk hrest).acc (walkUp_acc hwalk)
      | tail _ hother => exact ih hrest other hother

theorem walkUp_isSome {fuel : Nat} {checked : Finset UInt16} (hnew : child ∉ checked)
    (hfuel : Nat.card UInt16 < fuel + checked.card) :
    (walkUp fuel checked child manager).isSome := by
  have := finite_uint16
  have := Fintype.ofFinite UInt16
  induction fuel generalizing checked child manager with
  | zero =>
      rw [Nat.card_eq_fintype_card] at hfuel
      have hcard := Finset.card_le_univ checked
      omega
  | succ fuel ih =>
      unfold walkUp
      split
      · rfl
      · split
        · rfl
        · split
          · rfl
          · next hother =>
              refine ih hother ?_
              rw [Finset.card_insert_of_notMem hnew]
              omega

theorem walks_isSome {fuel : Nat} (starts : List UInt16) (hfuel : Nat.card UInt16 < fuel) :
    (starts.foldlM (fun manager start => walkUp fuel ∅ start manager) manager).isSome := by
  induction starts generalizing manager with
  | nil => rfl
  | cons start starts ih =>
      obtain ⟨walked, hwalk⟩ := Option.isSome_iff_exists.mp
        (@walkUp_isSome manager start fuel ∅ (Finset.notMem_empty start) (by simpa using hfuel))
      rw [List.foldlM_cons, hwalk]
      exact ih

theorem mem_starts (poolId : UInt16) : poolId ∈ manager.starts ↔ poolId < manager.maxPoolId := by
  simp only [starts, List.mem_map, List.mem_range]
  constructor
  · rintro ⟨i, hi, rfl⟩
    have hsize : i < UInt16.size := hi.trans manager.maxPoolId.toNat_lt
    rw [UInt16.lt_iff_toNat_lt, UInt16.toNat_ofNat_of_lt' hsize]
    exact hi
  · intro h
    exact ⟨poolId.toNat, UInt16.lt_iff_toNat_lt.mp h, UInt16.ofNat_toNat⟩

structure Walked (before after : PoolManager) : Prop where
  coherent : after.Coherent
  shrunk : after.Shrunk before
  maxPoolId : after.maxPoolId = before.maxPoolId
  size : after.size = before.size
  autoSpawn : ∀ poolId, after.isAutoSpawn poolId = before.isAutoSpawn poolId

theorem walked_of_walks {fuel : Nat} (h : manager.Coherent)
    (hwalks : manager.removeCircularReferences fuel = some manager') : manager.Walked manager' := by
  refine walks_preserve (P := manager.Walked) ?_ ?_ manager.starts
    ⟨h, fun _ _ hlink => hlink, rfl, rfl, fun _ => rfl⟩ hwalks
  · intro after poolId mapEntry hafter _
    exact ⟨⟨hafter.coherent.listed, hafter.coherent.nodup⟩, hafter.shrunk, hafter.maxPoolId,
      hafter.size, fun other => (remember_isAutoSpawn _ _ _).trans (hafter.autoSpawn other)⟩
  · intro after child mother hafter hlink
    exact ⟨hafter.coherent.removeLink hlink, hafter.shrunk.removeLink, hafter.maxPoolId,
      hafter.size, hafter.autoSpawn⟩

/-- What the check of the chances keeps, and the flags that it clears: those of the pools from
`poolEntry` on that fail the check. -/
structure Checked (plus : ℚ → ℚ → ℚ) (poolEntry : UInt16) (before after : PoolManager) :
    Prop where
  poolSearchMap : after.poolSearchMap = before.poolSearchMap
  poolPoolGroups : after.poolPoolGroups = before.poolPoolGroups
  checkPool : after.checkPool plus = before.checkPool plus
  autoSpawn : ∀ poolId, after.isAutoSpawn poolId ↔ before.isAutoSpawn poolId ∧
    (poolEntry ≤ poolId → poolId.toNat < before.size → before.checkPool plus poolId)

theorem checkChance_cases (manager : PoolManager) (poolEntry : UInt16) :
    manager.checkChance plus poolEntry = manager ∧
        (manager.isAutoSpawn poolEntry → manager.checkPool plus poolEntry) ∨
      manager.checkChance plus poolEntry = manager.clearAutoSpawn poolEntry ∧
        ¬ manager.checkPool plus poolEntry := by
  unfold checkChance
  by_cases hflag : manager.isAutoSpawn poolEntry <;>
    by_cases hcheck : manager.checkPool plus poolEntry <;> simp [hflag, hcheck]

theorem checkChance_checkPool (poolEntry : UInt16) :
    (manager.checkChance plus poolEntry).checkPool plus = manager.checkPool plus := by
  rcases @checkChance_cases plus manager poolEntry with ⟨h, -⟩ | ⟨h, -⟩ <;> rw [h]
  rfl

theorem checkChance_size (poolEntry : UInt16) :
    (manager.checkChance plus poolEntry).size = manager.size := by
  rcases @checkChance_cases plus manager poolEntry with ⟨h, -⟩ | ⟨h, -⟩ <;> rw [h]
  rfl

theorem checkChance_isAutoSpawn (poolEntry poolId : UInt16) :
    (manager.checkChance plus poolEntry).isAutoSpawn poolId ↔ manager.isAutoSpawn poolId ∧
      (poolId = poolEntry → manager.checkPool plus poolId) := by
  rcases @checkChance_cases plus manager poolEntry with ⟨h, hcheck⟩ | ⟨h, hcheck⟩
  · rw [h]
    exact ⟨fun hflag => ⟨hflag, fun heq => heq ▸ hcheck (heq ▸ hflag)⟩, And.left⟩
  · rw [h, clearAutoSpawn_isAutoSpawn, Bool.and_eq_true, decide_eq_true_eq]
    constructor
    · exact fun ⟨hne, hflag⟩ => ⟨hflag, fun heq => absurd heq hne⟩
    · exact fun ⟨hflag, hpass⟩ => ⟨fun heq => hcheck (heq ▸ hpass heq), hflag⟩

/-- With 65536 templates the counter never gets to the size. -/
theorem checkChances_none {fuel : Nat} {poolEntry : UInt16} (hsize : 65536 ≤ manager.size) :
    manager.checkChances plus fuel poolEntry = none := by
  induction fuel generalizing manager poolEntry with
  | zero => rfl
  | succ fuel ih =>
      unfold checkChances
      rw [if_pos (lt_of_lt_of_le poolEntry.toNat_lt hsize)]
      exact ih (hsize.trans_eq (checkChance_size poolEntry).symm)

theorem toNat_succ {poolEntry : UInt16} {size : Nat} (hentry : poolEntry.toNat < size)
    (hsize : size < 65536) : (poolEntry + 1).toNat = poolEntry.toNat + 1 := by
  rw [UInt16.toNat_add]
  exact Nat.mod_eq_of_lt (by simp only [UInt16.toNat_one]; omega)

theorem checked_of_checkChances {fuel : Nat} {poolEntry : UInt16}
    (hchecks : manager.checkChances plus fuel poolEntry = some manager') :
    Checked plus poolEntry manager manager' := by
  induction fuel generalizing manager poolEntry with
  | zero => cases hchecks
  | succ fuel ih =>
      have hsize : manager.size < 65536 := by
        by_contra hlarge
        rw [checkChances_none (not_lt.mp hlarge)] at hchecks
        cases hchecks
      unfold checkChances at hchecks
      split at hchecks
      · next hentry =>
          have hrest := ih hchecks
          have hlinks : (manager.checkChance plus poolEntry).poolSearchMap =
                manager.poolSearchMap ∧
              (manager.checkChance plus poolEntry).poolPoolGroups = manager.poolPoolGroups := by
            rcases @checkChance_cases plus manager poolEntry with ⟨h, -⟩ | ⟨h, -⟩ <;>
              rw [h] <;> exact ⟨rfl, rfl⟩
          refine ⟨hrest.poolSearchMap.trans hlinks.1, hrest.poolPoolGroups.trans hlinks.2,
            hrest.checkPool.trans (checkChance_checkPool poolEntry), ?_⟩
          intro poolId
          rw [hrest.autoSpawn, checkChance_isAutoSpawn, checkChance_checkPool, checkChance_size,
            and_assoc]
          simp only [UInt16.le_iff_toNat_le, toNat_succ hentry hsize, ← UInt16.toNat_inj]
          refine and_congr_right fun _ => ⟨?_, ?_⟩
          · rintro ⟨hself, hlater⟩ hle hlt
            rcases Nat.eq_or_lt_of_le hle with heq | hgreater
            · exact hself heq.symm
            · exact hlater hgreater hlt
          · intro hall
            exact ⟨fun heq => hall heq.ge (heq ▸ hentry), fun hle => hall (Nat.le_of_succ_le hle)⟩
      · next hend =>
          rw [← Option.some.inj hchecks]
          refine ⟨rfl, rfl, rfl, fun poolId => (and_iff_left ?_).symm⟩
          intro hle hlt
          rw [UInt16.le_iff_toNat_le] at hle
          omega

theorem checkChances_isSome {fuel : Nat} {poolEntry : UInt16} (hsize : manager.size < 65536)
    (hle : poolEntry.toNat ≤ manager.size) (hfuel : manager.size < fuel + poolEntry.toNat) :
    (manager.checkChances plus fuel poolEntry).isSome := by
  induction fuel generalizing manager poolEntry with
  | zero => omega
  | succ fuel ih =>
      unfold checkChances
      split
      · next hentry =>
          refine ih ?_ ?_ ?_ <;> rw [checkChance_size]
          · exact hsize
          · rw [toNat_succ hentry hsize]
            exact hentry
          · rw [toNat_succ hentry hsize]
            omega
      · rfl

end PoolManager

theorem wellFounded_swap {r : UInt16 → UInt16 → Prop} (h : WellFounded r) :
    WellFounded (Function.swap r) := by
  have := finite_uint16
  have hirrefl : Std.Irrefl (Relation.TransGen (Function.swap r)) := by
    refine ⟨fun a ha => ?_⟩
    rw [Relation.transGen_swap] at ha
    exact h.transGen.irrefl.irrefl a ha
  exact Subrelation.wf (fun hab => Relation.TransGen.single hab)
    (Finite.wellFounded_of_trans_of_irrefl (Relation.TransGen (Function.swap r)))

end TortoiseWow.PoolLoading
