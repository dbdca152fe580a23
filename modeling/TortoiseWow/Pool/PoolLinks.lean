import TortoiseWow.Pool.PoolLoading

/-!
The links of the pools as the rows of `pool_pool` leave them: in the groups, in the search map
and in the flags of the children.
-/

namespace TortoiseWow.PoolLoading

namespace PoolGroup

variable {ι : Type}

@[simp] theorem mem_guids_addEntry (group : PoolGroup ι) (object : PoolObject ι)
    (maxentries : UInt32) (guid : ι) :
    guid ∈ (group.addEntry object maxentries).guids ↔ guid ∈ group.guids ∨ guid = object.guid := by
  unfold addEntry guids
  split <;> simp [or_comm, or_left_comm]

theorem nodup_addEntry (group : PoolGroup ι) (object : PoolObject ι) (maxentries : UInt32)
    (h : group.guids.Nodup) (hnew : object.guid ∉ group.guids) :
    (group.addEntry object maxentries).guids.Nodup := by
  have hperm : (group.addEntry object maxentries).guids.Perm (object.guid :: group.guids) := by
    unfold addEntry guids
    split
    · simp only [List.map_append, List.map_cons, List.append_assoc, List.singleton_append]
      exact List.perm_middle
    · simp only [List.map_append, List.map_cons, List.map_nil, ← List.append_assoc]
      exact List.perm_append_singleton _ _
  exact hperm.nodup_iff.mpr (List.nodup_cons.mpr ⟨hnew, h⟩)

theorem map_eraseP [DecidableEq ι] (objects : List (PoolObject ι)) (child : ι) :
    (objects.eraseP (·.guid = child)).map (·.guid) = (objects.map (·.guid)).erase child := by
  rw [List.erase_eq_eraseP, List.eraseP_map]
  congr 1
  apply congrArg (List.eraseP · objects)
  funext object
  rw [Function.comp, Bool.beq_eq_decide_eq]
  exact decide_eq_decide.mpr eq_comm

theorem guids_removeOneRelation [DecidableEq ι] (group : PoolGroup ι) (child : ι)
    (h : group.guids.Nodup) : (group.removeOneRelation child).guids = group.guids.erase child := by
  have hparts := h
  unfold guids removeOneRelation at *
  simp only [List.map_append, map_eraseP] at *
  rw [List.nodup_append'] at hparts
  by_cases hmem : child ∈ group.explicitlyChanced.map (·.guid)
  · rw [List.erase_append_left _ hmem,
      List.erase_of_not_mem (l := group.equalChanced.map (·.guid)) (hparts.2.2 hmem)]
  · rw [List.erase_append_right _ hmem, List.erase_of_not_mem hmem]

end PoolGroup

namespace PoolManager

variable {manager : PoolManager} {child mother : UInt16}

def Mother (manager : PoolManager) (child mother : UInt16) : Prop :=
  manager.poolSearchMap child = some mother

def Listed (manager : PoolManager) (child mother : UInt16) : Prop :=
  child ∈ (manager.poolPoolGroups mother).guids

/-- The groups and the search map say the same. -/
structure Coherent (manager : PoolManager) : Prop where
  listed : ∀ child mother, manager.Listed child mother ↔ manager.Mother child mother
  nodup : ∀ mother, (manager.poolPoolGroups mother).guids.Nodup

def mapOf (manager : PoolManager) (poolId : UInt16) : Option MapEntry :=
  (manager.poolTemplate poolId).mapEntry

theorem removeLink_mother_iff (c p : UInt16) :
    (manager.removeLink child mother).Mother c p ↔ c ≠ child ∧ manager.Mother c p := by
  unfold Mother removeLink
  by_cases h : c = child <;> simp [h]

theorem Coherent.removeLink (h : manager.Coherent) (hlink : manager.Mother child mother) :
    (manager.removeLink child mother).Coherent := by
  have hgroup : ∀ p, ((manager.removeLink child mother).poolPoolGroups p).guids =
      if p = mother then (manager.poolPoolGroups p).guids.erase child
      else (manager.poolPoolGroups p).guids := by
    intro p
    by_cases hp : p = mother
    · subst hp
      simp only [PoolManager.removeLink, Function.update_self, if_true]
      exact PoolGroup.guids_removeOneRelation _ _ (h.nodup p)
    · simp [PoolManager.removeLink, hp]
  constructor
  · intro c p
    rw [removeLink_mother_iff, ← h.listed, Listed, Listed, hgroup]
    by_cases hp : p = mother
    · subst hp
      rw [if_pos rfl, (h.nodup p).mem_erase_iff]
    · rw [if_neg hp]
      refine ⟨fun hmem => ⟨?_, hmem⟩, And.right⟩
      rintro rfl
      exact hp (Option.some.inj (((h.listed c p).mp hmem).symm.trans hlink))
  · intro p
    rw [hgroup]
    split
    · exact (h.nodup p).erase child
    · exact h.nodup p

theorem insertSearch_mother_iff (hnew : manager.poolSearchMap child = none) (c p : UInt16) :
    (manager.insertSearch child mother).Mother c p ↔
      c = child ∧ p = mother ∨ manager.Mother c p := by
  by_cases h : c = child
  · subst h
    simp only [insertSearch, hnew, Mother, Function.update_self, Option.some.injEq, true_and]
    exact ⟨fun h => Or.inl h.symm, fun h => h.elim Eq.symm nofun⟩
  · simp [insertSearch, hnew, Mother, h]

theorem clearAutoSpawn_isAutoSpawn (poolId other : UInt16) :
    (manager.clearAutoSpawn poolId).isAutoSpawn other =
      (decide (other ≠ poolId) && manager.isAutoSpawn other) := by
  by_cases h : other = poolId
  · subst h
    simp [clearAutoSpawn, setTemplate, isAutoSpawn, PoolTemplateData.isAutoSpawn,
      UInt32.and_assoc]
  · simp [clearAutoSpawn, setTemplate, isAutoSpawn, h]

theorem clearAutoSpawn_mapOf (poolId other : UInt16) :
    (manager.clearAutoSpawn poolId).mapOf other = manager.mapOf other := by
  by_cases h : other = poolId <;> simp [clearAutoSpawn, setTemplate, mapOf, h]

theorem insertSearch_of_new (hnew : manager.poolSearchMap child = none) :
    manager.insertSearch child mother =
      { manager with
        poolSearchMap := Function.update manager.poolSearchMap child (some mother) } := by
  simp [insertSearch, hnew]

theorem addRow_maxPoolId (row : PoolRow) :
    (manager.addRow row).maxPoolId = manager.maxPoolId := by
  change (insertSearch _ _ _).maxPoolId = _
  unfold insertSearch
  split <;> rfl

theorem addRow_size (row : PoolRow) : (manager.addRow row).size = manager.size := by
  change (insertSearch _ _ _).size = _
  unfold insertSearch
  split <;> rfl

section AddRow

variable {row : PoolRow} (hnew : manager.poolSearchMap row.poolId = none)
include hnew

theorem addRow_mother_iff (c p : UInt16) : (manager.addRow row).Mother c p ↔
    c = row.poolId ∧ p = row.motherPool ∨ manager.Mother c p := by
  rw [← insertSearch_mother_iff hnew]
  simp only [addRow, insertSearch_of_new, hnew, setGroup]
  rfl

theorem addRow_guids (p : UInt16) :
    ∃ object : PoolObject UInt16, object.guid = row.poolId ∧ ∃ maxentries,
      (manager.addRow row).poolPoolGroups p =
        if p = row.motherPool then (manager.poolPoolGroups p).addEntry object maxentries
        else manager.poolPoolGroups p := by
  refine ⟨{ guid := row.poolId, chance := |row.chance|, spawnFlags := row.flags }, rfl,
    (manager.poolTemplate row.motherPool).maxLimit, ?_⟩
  simp only [addRow, insertSearch_of_new, hnew, setGroup]
  by_cases h : p = row.motherPool
  · subst h
    exact (Function.update_self _ _ _).trans (if_pos rfl).symm
  · exact (Function.update_of_ne h _ _).trans (if_neg h).symm

theorem addRow_coherent (h : manager.Coherent) : (manager.addRow row).Coherent := by
  have hunlisted : ∀ p, row.poolId ∉ (manager.poolPoolGroups p).guids := by
    intro p hp
    exact nomatch hnew.symm.trans ((h.listed row.poolId p).mp hp)
  constructor
  · intro c p
    obtain ⟨object, hobject, maxentries, hgroup⟩ := addRow_guids hnew p
    rw [addRow_mother_iff hnew, ← h.listed, Listed, Listed, hgroup]
    by_cases hp : p = row.motherPool
    · rw [if_pos hp, PoolGroup.mem_guids_addEntry, hobject]
      simp [hp, or_comm]
    · simp [hp]
  · intro p
    obtain ⟨object, hobject, maxentries, hgroup⟩ := addRow_guids hnew p
    rw [hgroup]
    split
    · exact PoolGroup.nodup_addEntry _ _ _ (h.nodup p) (hobject ▸ hunlisted p)
    · exact h.nodup p

theorem addRow_isAutoSpawn (poolId : UInt16) : (manager.addRow row).isAutoSpawn poolId =
    (decide (poolId ≠ row.poolId) && manager.isAutoSpawn poolId) := by
  simp only [addRow, clearAutoSpawn_isAutoSpawn, insertSearch_of_new, hnew, setGroup]
  rfl

theorem addRow_mapOf (poolId : UInt16) :
    (manager.addRow row).mapOf poolId = manager.mapOf poolId := by
  simp only [addRow, clearAutoSpawn_mapOf, insertSearch_of_new, hnew, setGroup]
  rfl

end AddRow

end PoolManager

theorem or_autoSpawn (flags : UInt32) :
    (flags ||| poolFlagAutoSpawn) &&& poolFlagAutoSpawn = poolFlagAutoSpawn := by
  apply UInt32.toBitVec_inj.mp
  ext i hi
  simp only [UInt32.toBitVec_and, UInt32.toBitVec_or, BitVec.getElem_and, BitVec.getElem_or]
  cases (UInt32.toBitVec poolFlagAutoSpawn)[i] <;> simp

namespace PoolTables

open PoolManager (addRow_mother_iff addRow_coherent addRow_isAutoSpawn addRow_mapOf
  addRow_maxPoolId addRow_size)

variable {db : PoolTables}

structure Accepts (db : PoolTables) (row : PoolRow) : Prop where
  child : row.poolId ≤ db.maxPoolId
  other : row.motherPool ≠ row.poolId
  mother : row.motherPool ≤ db.maxPoolId
  chance : 0 ≤ row.chance ∧ row.chance ≤ 100

def MotherRow (db : PoolTables) (child mother : UInt16) : Prop :=
  ∃ row ∈ db.poolPool, db.Accepts row ∧ row.poolId = child ∧ row.motherPool = mother

def HasMother (db : PoolTables) (child : UInt16) : Prop := ∃ mother, db.MotherRow child mother

def Templated (db : PoolTables) (poolId : UInt16) : Prop :=
  ∃ row ∈ db.poolTemplate, row.entry = poolId

def IsPool (db : PoolTables) (poolId : UInt16) : Prop :=
  db.Templated poolId ∨ db.HasMother poolId ∨ ∃ child, db.MotherRow child poolId

structure Linking (db : PoolTables) (rows : List PoolRow) (manager : PoolManager) : Prop where
  maxPoolId : manager.maxPoolId = db.maxPoolId
  size : manager.size = db.maxPoolId.toNat + 1
  mapOf : ∀ poolId, manager.mapOf poolId = db.mapEntry poolId
  mother : ∀ child mother, manager.Mother child mother ↔
    ∃ row ∈ rows, db.Accepts row ∧ row.poolId = child ∧ row.motherPool = mother
  coherent : manager.Coherent
  autoSpawn : ∀ poolId, manager.isAutoSpawn poolId ↔
    db.Templated poolId ∧ ∀ row ∈ rows, db.Accepts row → row.poolId ≠ poolId

theorem le_foldr_max (entries : List UInt16) (entry : UInt16) (h : entry ∈ entries) :
    entry ≤ entries.foldr max 0 := by
  induction entries with
  | nil => cases h
  | cons head tail ih =>
      change entry ≤ if head ≤ tail.foldr max 0 then tail.foldr max 0 else head
      cases h with
      | head =>
          split
          · assumption
          · exact UInt16.le_refl entry
      | tail _ h =>
          split
          · exact ih h
          · next hle => exact UInt16.le_trans (ih h) (UInt16.le_of_lt (UInt16.not_le.mp hle))

theorem Templated.le {poolId : UInt16} (h : db.Templated poolId) : poolId ≤ db.maxPoolId := by
  obtain ⟨row, hrow, rfl⟩ := h
  exact le_foldr_max _ _ (List.mem_map_of_mem hrow)

theorem accepts_iff {manager : PoolManager} (h : manager.maxPoolId = db.maxPoolId)
    (row : PoolRow) : manager.accepts row = true ↔ db.Accepts row := by
  simp only [PoolManager.accepts, PoolManager.checkPoolAndChance, h]
  constructor
  · intro haccepts
    split_ifs at haccepts with hchild hself hmother hchance
    rw [not_or, not_lt, not_lt] at hchance
    exact ⟨UInt16.not_lt.mp hchild, hself, UInt16.not_lt.mp hmother, hchance⟩
  · rintro ⟨hchild, hself, hmother, hchance⟩
    rw [if_neg (UInt16.not_lt.mpr hchild), if_neg hself, if_neg (UInt16.not_lt.mpr hmother), if_neg]
    rw [not_or, not_lt, not_lt]
    exact hchance

theorem Linking.loadPoolRow {rows : List PoolRow} {row : PoolRow} {manager : PoolManager}
    (h : db.Linking rows manager) (hnew : row.poolId ∉ rows.map (·.poolId)) :
    db.Linking (rows ++ [row]) (manager.loadPoolRow row) := by
  have hsearch : manager.poolSearchMap row.poolId = none := by
    cases hmother : manager.poolSearchMap row.poolId with
    | none => rfl
    | some mother =>
        obtain ⟨other, hother, -, heq, -⟩ := (h.mother row.poolId mother).mp hmother
        exact absurd (heq ▸ List.mem_map_of_mem hother) hnew
  have haccepts := accepts_iff h.maxPoolId row
  unfold PoolManager.loadPoolRow
  by_cases hrow : db.Accepts row
  · rw [if_pos (haccepts.mpr hrow)]
    refine ⟨(addRow_maxPoolId row).trans h.maxPoolId, (addRow_size row).trans h.size,
      fun poolId => (addRow_mapOf hsearch poolId).trans (h.mapOf poolId), ?_,
      addRow_coherent hsearch h.coherent, ?_⟩
    · intro child mother
      rw [addRow_mother_iff hsearch, h.mother]
      constructor
      · rintro (⟨rfl, rfl⟩ | ⟨other, hother, hlink⟩)
        · exact ⟨row, by simp, hrow, rfl, rfl⟩
        · exact ⟨other, List.mem_append_left _ hother, hlink⟩
      · rintro ⟨other, hother, haccepted, rfl, rfl⟩
        rcases List.mem_append.mp hother with hother | hother
        · exact Or.inr ⟨other, hother, haccepted, rfl, rfl⟩
        · exact Or.inl (List.mem_singleton.mp hother ▸ ⟨rfl, rfl⟩)
    · intro poolId
      rw [addRow_isAutoSpawn hsearch]
      simp only [Bool.and_eq_true, decide_eq_true_eq, h.autoSpawn, List.mem_append,
        List.mem_singleton, or_imp, forall_and, forall_eq, hrow, true_imp_iff, ne_comm]
      tauto
  · rw [if_neg (mt haccepts.mp hrow)]
    refine { h with mother := ?_, autoSpawn := ?_ }
    · intro child mother
      rw [h.mother]
      constructor
      · rintro ⟨other, hother, hlink⟩
        exact ⟨other, List.mem_append_left _ hother, hlink⟩
      · rintro ⟨other, hother, hlink⟩
        rcases List.mem_append.mp hother with hother | hother
        · exact ⟨other, hother, hlink⟩
        · exact absurd (List.mem_singleton.mp hother ▸ hlink.1) hrow
    · intro poolId
      simp [h.autoSpawn, or_imp, forall_and, hrow]

theorem linking_foldl (rows : List PoolRow) (hnodup : (rows.map (·.poolId)).Nodup)
    {manager : PoolManager} (h : db.Linking [] manager) :
    db.Linking rows (rows.foldl PoolManager.loadPoolRow manager) := by
  induction rows using List.reverseRecOn with
  | nil => exact h
  | append_singleton rows row ih =>
      rw [List.map_append, List.nodup_append] at hnodup
      rw [List.foldl_append]
      refine (ih hnodup.1).loadPoolRow ?_
      intro hmem
      exact hnodup.2.2 _ hmem _ (List.mem_singleton_self _) rfl

/-- What a template row leaves as it is, and the flag that it sets. -/
structure Templating (db : PoolTables) (rows : List TemplateRow) (manager : PoolManager) :
    Prop where
  maxPoolId : manager.maxPoolId = db.maxPoolId
  size : manager.size = db.maxPoolId.toNat + 1
  mapOf : ∀ poolId, manager.mapOf poolId = db.mapEntry poolId
  autoSpawn : ∀ poolId, manager.isAutoSpawn poolId ↔ ∃ row ∈ rows, row.entry = poolId
  unlinked : manager.poolSearchMap = fun _ => none
  ungrouped : manager.poolPoolGroups = fun _ => {}

theorem Templating.loadTemplate {rows : List TemplateRow} {row : TemplateRow}
    {manager : PoolManager} (h : db.Templating rows manager) :
    db.Templating (rows ++ [row]) (manager.loadTemplate row) := by
  refine ⟨h.maxPoolId, h.size, ?_, ?_, h.unlinked, h.ungrouped⟩
  · intro poolId
    rw [← h.mapOf]
    by_cases heq : poolId = row.entry <;>
      simp [PoolManager.loadTemplate, PoolManager.setTemplate, PoolManager.mapOf, heq]
  · intro poolId
    by_cases heq : poolId = row.entry
    · subst heq
      have hflag : poolFlagAutoSpawn ≠ 0 := by decide
      simp [PoolManager.loadTemplate, PoolManager.setTemplate, PoolManager.isAutoSpawn,
        PoolTemplateData.isAutoSpawn, or_autoSpawn, hflag]
    · have hsame : (manager.loadTemplate row).isAutoSpawn poolId = manager.isAutoSpawn poolId := by
        simp [PoolManager.loadTemplate, PoolManager.setTemplate, PoolManager.isAutoSpawn, heq]
      rw [hsame, h.autoSpawn]
      simp [or_and_right, exists_or, Ne.symm heq]

theorem templating_foldl (rows : List TemplateRow) {manager : PoolManager}
    (h : db.Templating [] manager) :
    db.Templating rows (rows.foldl PoolManager.loadTemplate manager) := by
  induction rows using List.reverseRecOn with
  | nil => exact h
  | append_singleton rows row ih =>
      rw [List.foldl_append]
      exact ih.loadTemplate

theorem templates_templating (db : PoolTables) : db.Templating db.poolTemplate db.templates := by
  refine templating_foldl _ ⟨rfl, rfl, fun _ => rfl, ?_, rfl, rfl⟩
  intro poolId
  simp [PoolManager.isAutoSpawn, PoolTemplateData.isAutoSpawn]

theorem linked_linking (db : PoolTables) : db.Linking db.poolPool db.linked := by
  have htemplates := templates_templating db
  refine linking_foldl _ db.oneRow
    ⟨htemplates.maxPoolId, htemplates.size, htemplates.mapOf, ?_, ⟨?_, ?_⟩, ?_⟩
  · intro child mother
    simp [PoolManager.Mother, htemplates.unlinked]
  · intro child mother
    simp [PoolManager.Listed, PoolManager.Mother, htemplates.unlinked, htemplates.ungrouped,
      PoolGroup.guids]
  · intro mother
    simp [htemplates.ungrouped, PoolGroup.guids]
  · intro poolId
    simp [htemplates.autoSpawn, Templated]

theorem linked_mother_iff (child mother : UInt16) :
    db.linked.Mother child mother ↔ db.MotherRow child mother :=
  (linked_linking db).mother child mother

theorem linked_isAutoSpawn (poolId : UInt16) :
    db.linked.isAutoSpawn poolId ↔ db.Templated poolId ∧ ¬ db.HasMother poolId := by
  rw [(linked_linking db).autoSpawn]
  refine and_congr_right fun _ => ⟨?_, ?_⟩
  · rintro hnot ⟨mother, row, hrow, haccepts, hchild, -⟩
    exact hnot row hrow haccepts hchild
  · intro hnot row hrow haccepts hchild
    exact hnot ⟨row.motherPool, row, hrow, haccepts, hchild, rfl⟩

end PoolTables

end TortoiseWow.PoolLoading
