import TortoiseWow.Lib.Run
import TortoiseWow.Pool.PoolManager

/-!
The spawned pool data against the pools: each counter is the number of members of its pool that
are marked, and stays within the limit of the pool. A call for a pool touches the pool and its
sub-pools, so what one call may change is told by ranks.
-/

namespace TortoiseWow.Pools

namespace SpawnedPoolData

variable (spawns : SpawnedPoolData) (m x : Member) (poolId q count : UInt32)

@[simp] theorem isSpawnedObject_ask : spawns.ask.isSpawnedObject x = spawns.isSpawnedObject x := by
  obtain ⟨kind, guid⟩ := x
  cases kind <;> rfl

@[simp] theorem getSpawnedObjects_ask :
    spawns.ask.getSpawnedObjects q = spawns.getSpawnedObjects q := rfl

theorem isSpawnedObject_insert :
    (spawns.insert m).isSpawnedObject x = (decide (x = m) || spawns.isSpawnedObject x) := by
  obtain ⟨kind, guid⟩ := m
  obtain ⟨kind', guid'⟩ := x
  cases kind <;> cases kind' <;> by_cases hguid : guid' = guid <;>
    simp [insert, isSpawnedObject, setSpawnedObjects, hguid]

theorem isSpawnedObject_erase :
    (spawns.erase m).isSpawnedObject x = (!decide (x = m) && spawns.isSpawnedObject x) := by
  obtain ⟨kind, guid⟩ := m
  obtain ⟨kind', guid'⟩ := x
  cases kind <;> cases kind' <;> by_cases hguid : guid' = guid <;>
    simp [erase, isSpawnedObject, hguid]

theorem isSpawnedObject_set :
    (spawns.setSpawnedObjects poolId count).isSpawnedObject x =
      (decide (x = (.pool, poolId)) || spawns.isSpawnedObject x) := by
  obtain ⟨kind, guid⟩ := x
  cases kind <;> by_cases hguid : guid = poolId <;>
    simp [isSpawnedObject, setSpawnedObjects, hguid]

theorem getSpawnedObjects_set :
    (spawns.setSpawnedObjects poolId count).getSpawnedObjects q =
      if q = poolId then count else spawns.getSpawnedObjects q := by
  by_cases hq : q = poolId <;> simp [getSpawnedObjects, setSpawnedObjects, hq]

theorem getSpawnedObjects_insert :
    (spawns.insert m).getSpawnedObjects q =
      if m = (.pool, q) then 0 else spawns.getSpawnedObjects q := by
  obtain ⟨kind, guid⟩ := m
  cases kind with
  | creature => simp [insert, getSpawnedObjects]
  | gameobject => simp [insert, getSpawnedObjects]
  | pool =>
      rw [insert, getSpawnedObjects_set]
      simp [eq_comm]

theorem getSpawnedObjects_erase :
    (spawns.erase m).getSpawnedObjects q =
      if m = (.pool, q) then 0 else spawns.getSpawnedObjects q := by
  obtain ⟨kind, guid⟩ := m
  cases kind with
  | creature => simp [erase, getSpawnedObjects]
  | gameobject => simp [erase, getSpawnedObjects]
  | pool =>
      by_cases hq : q = guid
      · simp [erase, getSpawnedObjects, hq]
      · simp [erase, getSpawnedObjects, hq, Ne.symm hq]

theorem mSpawnedPools_addSpawn (h : q ≠ poolId) (hm : m ≠ (.pool, q)) :
    (spawns.addSpawn m poolId).mSpawnedPools q = spawns.mSpawnedPools q := by
  obtain ⟨kind, guid⟩ := m
  cases kind with
  | creature => simp [addSpawn, setSpawnedObjects, insert, h]
  | gameobject => simp [addSpawn, setSpawnedObjects, insert, h]
  | pool =>
      have hguid : q ≠ guid := fun heq => hm (heq ▸ rfl)
      simp [addSpawn, setSpawnedObjects, insert, h, hguid]

theorem mSpawnedPools_removeSpawn (h : q ≠ poolId) (hm : m ≠ (.pool, q)) :
    (spawns.removeSpawn m poolId).mSpawnedPools q = spawns.mSpawnedPools q := by
  obtain ⟨kind, guid⟩ := m
  cases kind with
  | creature => simp [removeSpawn, setSpawnedObjects, erase, h]
  | gameobject => simp [removeSpawn, setSpawnedObjects, erase, h]
  | pool =>
      have hguid : q ≠ guid := fun heq => hm (heq ▸ rfl)
      simp [removeSpawn, setSpawnedObjects, erase, h, hguid]

theorem getSpawnedObjects_of_unspawned (h : spawns.isSpawnedObject (.pool, q) = false) :
    spawns.getSpawnedObjects q = 0 := by
  have hnone : spawns.mSpawnedPools q = none := by simpa [isSpawnedObject] using h
  simp [getSpawnedObjects, hnone]

theorem isSpawnedObject_of_counted (h : spawns.getSpawnedObjects q ≠ 0) :
    spawns.isSpawnedObject (.pool, q) = true := by
  by_contra hnot
  exact h (spawns.getSpawnedObjects_of_unspawned q (Bool.eq_false_iff.mpr hnot))

end SpawnedPoolData

section Counting

variable {α : Type} [DecidableEq α] {l : List α} {p p' : α → Bool} {a : α}

theorem countP_mark (hnodup : l.Nodup) (ha : p a = false)
    (hp : ∀ x ∈ l, p' x = (decide (x = a) || p x)) :
    l.countP p' = l.countP p + if a ∈ l then 1 else 0 := by
  induction l with
  | nil => rfl
  | cons first rest ih =>
      rw [List.nodup_cons] at hnodup
      have hrest := ih hnodup.2 fun x hx => hp x (List.mem_cons_of_mem _ hx)
      have hfirst := hp first List.mem_cons_self
      rw [List.countP_cons, List.countP_cons, hrest, hfirst]
      by_cases hsame : first = a
      · subst hsame
        simp [ha, hnodup.1]
      · have hmem : a ∈ first :: rest ↔ a ∈ rest := by
          rw [List.mem_cons, or_iff_right (Ne.symm hsame)]
        simp only [hsame, decide_false, Bool.false_or, hmem]
        omega

theorem countP_lt_of_unmark (hmem : a ∈ l) (ha : p a = true) (ha' : p' a = false)
    (hp : ∀ x ∈ l, p' x = true → p x = true) : l.countP p' + 1 ≤ l.countP p := by
  have hperm := List.perm_cons_erase hmem
  rw [hperm.countP_eq p, hperm.countP_eq p', List.countP_cons_of_pos ha,
    List.countP_cons_of_neg (by simp [ha'])]
  exact Nat.succ_le_succ (List.countP_mono_left fun x hx => hp x (List.mem_of_mem_erase hx))

end Counting

namespace PoolManager

variable {pm : PoolManager} {chance : Chance} {spawns s t u : SpawnedPoolData} {m x : Member}
  {poolId p q : UInt32}

def marked (pm : PoolManager) (s : SpawnedPoolData) (p : UInt32) : Nat :=
  (pm.members p).countP s.isSpawnedObject

structure Counted (pm : PoolManager) (s : SpawnedPoolData) : Prop where
  count : ∀ p, (s.getSpawnedObjects p).toNat = pm.marked s p
  zero : ∀ kind, s.isSpawnedObject (kind, 0) = false

/-- A pool that may get members: it is marked in its mother pool, or has none. -/
def Home (pm : PoolManager) (s : SpawnedPoolData) (p : UInt32) : Prop :=
  pm.isPartOfAPool p = 0 ∨ s.isSpawnedObject (.pool, p) = true

theorem marked_lt (pm : PoolManager) (s : SpawnedPoolData) (p : UInt32) :
    pm.marked s p < 2 ^ 31 :=
  lt_of_le_of_lt List.countP_le_length (pm.indexed p)

theorem not_mem_self (pm : PoolManager) (p : UInt32) : (.pool, p) ∉ pm.members p :=
  fun hmem => lt_irrefl _ (pm.acyclic p p hmem)

theorem Counted.spawned_of_member (h : Counted pm s) (hm : m ∈ pm.members p)
    (hspawned : s.isSpawnedObject m = true) : s.getSpawnedObjects p ≠ 0 := by
  intro hzero
  have hcount := h.count p
  rw [hzero, UInt32.toNat_zero] at hcount
  exact List.countP_eq_zero.mp hcount.symm m hm hspawned

theorem Counted.ask (h : Counted pm s) : Counted pm s.ask where
  count := by
    intro p
    have hsame : s.ask.isSpawnedObject = s.isSpawnedObject := by
      funext x
      exact s.isSpawnedObject_ask x
    rw [s.getSpawnedObjects_ask, marked, hsame]
    exact h.count p
  zero := fun kind => (s.isSpawnedObject_ask _).trans (h.zero kind)

theorem ne_pool_of_unspawned (hhome : Home pm s p) (hx : x ∈ pm.members q)
    (hfree : s.isSpawnedObject x = false) : x ≠ (.pool, p) := by
  rintro rfl
  obtain ⟨hq, hmother⟩ := (pm.mother q p).mp hx
  rcases hhome with hnone | hspawned
  · exact hq (hmother.symm.trans hnone)
  · rw [hfree] at hspawned
    exact Bool.false_ne_true hspawned

theorem isSpawnedObject_addSpawn (hhome : Home pm s p) (hx : x ∈ pm.members q) :
    (s.addSpawn m p).isSpawnedObject x = (decide (x = m) || s.isSpawnedObject x) := by
  simp only [SpawnedPoolData.addSpawn, SpawnedPoolData.isSpawnedObject_set,
    SpawnedPoolData.isSpawnedObject_insert]
  cases hfree : s.isSpawnedObject x with
  | true => simp
  | false => simp [ne_pool_of_unspawned hhome hx hfree]

theorem getSpawnedObjects_addSpawn (hm : m ∈ pm.members p) (hfree : s.isSpawnedObject m = false)
    (q : UInt32) : (s.addSpawn m p).getSpawnedObjects q =
      if q = p then s.getSpawnedObjects p + 1 else s.getSpawnedObjects q := by
  have hne : m ≠ (.pool, p) := by
    rintro rfl
    exact not_mem_self pm p hm
  simp only [SpawnedPoolData.addSpawn, SpawnedPoolData.getSpawnedObjects_set,
    SpawnedPoolData.getSpawnedObjects_insert, if_neg hne]
  split
  · rfl
  · split
    · rename_i hpool
      rw [hpool] at hfree
      exact (s.getSpawnedObjects_of_unspawned q hfree).symm
    · rfl

theorem Counted.toNat_addSpawn (h : Counted pm s) (hm : m ∈ pm.members p)
    (hfree : s.isSpawnedObject m = false) (q : UInt32) :
    ((s.addSpawn m p).getSpawnedObjects q).toNat =
      (s.getSpawnedObjects q).toNat + if q = p then 1 else 0 := by
  rw [getSpawnedObjects_addSpawn hm hfree]
  split
  · rename_i hq
    have hlt := marked_lt pm s p
    rw [← h.count] at hlt
    rw [hq, UInt32.toNat_add, UInt32.toNat_one, Nat.mod_eq_of_lt (by omega)]
  · rfl

theorem mem_members_iff (hm : m ∈ pm.members p) (q : UInt32) : m ∈ pm.members q ↔ q = p :=
  ⟨fun hq => pm.unique q p m hq hm, fun hq => hq ▸ hm⟩

theorem Counted.addSpawn (h : Counted pm s) (hm : m ∈ pm.members p)
    (hfree : s.isSpawnedObject m = false) (hhome : Home pm s p) :
    Counted pm (s.addSpawn m p) where
  count := by
    intro q
    rw [h.toNat_addSpawn hm hfree, h.count, marked, marked,
      countP_mark (pm.nodup q) hfree fun x hx => isSpawnedObject_addSpawn hhome hx]
    simp only [mem_members_iff hm]
  zero := by
    intro kind
    obtain ⟨hp, hm0⟩ := pm.nonzero p m hm
    have hne : (kind, (0 : UInt32)) ≠ m := fun heq => hm0 (heq ▸ rfl)
    have hne' : (kind, (0 : UInt32)) ≠ (.pool, p) := fun heq => hp (congrArg Prod.snd heq).symm
    simp only [SpawnedPoolData.addSpawn, SpawnedPoolData.isSpawnedObject_set,
      SpawnedPoolData.isSpawnedObject_insert, hne, hne', h.zero kind, decide_false, Bool.or_false]

theorem isSpawnedObject_removeSpawn (hp : s.isSpawnedObject (.pool, p) = true)
    (hne : m ≠ (.pool, p)) :
    (s.removeSpawn m p).isSpawnedObject x = (!decide (x = m) && s.isSpawnedObject x) := by
  simp only [SpawnedPoolData.removeSpawn, SpawnedPoolData.isSpawnedObject_set,
    SpawnedPoolData.isSpawnedObject_erase]
  by_cases hx : x = (.pool, p)
  · subst hx
    simp [hp, hne.symm]
  · simp [hx]

theorem Counted.toNat_removeSpawn (h : Counted pm s) (hm : m ∈ pm.members p)
    (hspawned : s.isSpawnedObject m = true)
    (hempty : ∀ child, m = (.pool, child) → s.getSpawnedObjects child = 0) (q : UInt32) :
    ((s.removeSpawn m p).getSpawnedObjects q).toNat + (if q = p then 1 else 0) =
      (s.getSpawnedObjects q).toNat := by
  have hne : m ≠ (.pool, p) := by
    rintro rfl
    exact not_mem_self pm p hm
  have hpos := h.spawned_of_member hm hspawned
  have hpos' : s.getSpawnedObjects p > 0 := UInt32.pos_iff_ne_zero.mpr hpos
  simp only [SpawnedPoolData.removeSpawn, SpawnedPoolData.getSpawnedObjects_set,
    SpawnedPoolData.getSpawnedObjects_erase, if_neg hne, if_pos hpos']
  split
  · rename_i hq
    have hle : 1 ≤ (s.getSpawnedObjects p).toNat := UInt32.lt_iff_toNat_lt.mp hpos'
    have hone : (1 : UInt32) ≤ s.getSpawnedObjects p := UInt32.le_iff_toNat_le.mpr hle
    rw [hq, UInt32.toNat_sub_of_le _ _ hone, UInt32.toNat_one]
    omega
  · split
    · rename_i hpool
      rw [hempty q hpool]
      rfl
    · rfl

theorem Counted.removeSpawn (h : Counted pm s) (hm : m ∈ pm.members p)
    (hspawned : s.isSpawnedObject m = true)
    (hempty : ∀ child, m = (.pool, child) → s.getSpawnedObjects child = 0) :
    Counted pm (s.removeSpawn m p) := by
  have hne : m ≠ (.pool, p) := by
    rintro rfl
    exact not_mem_self pm p hm
  have hp := s.isSpawnedObject_of_counted p (h.spawned_of_member hm hspawned)
  have hmarks := fun x => isSpawnedObject_removeSpawn (x := x) hp hne
  refine ⟨fun q => ?_, fun kind => ?_⟩
  · have hcount := h.toNat_removeSpawn hm hspawned hempty q
    rw [h.count, marked, countP_mark (p := (s.removeSpawn m p).isSpawnedObject)
      (a := m) (pm.nodup q)]
      at hcount
    · simp only [mem_members_iff hm] at hcount
      exact Nat.add_right_cancel hcount
    · simp [hmarks]
    · intro x _
      rw [hmarks]
      by_cases hx : x = m
      · simp [hx, hspawned]
      · simp [hx]
  · rw [hmarks, h.zero kind, Bool.and_false]

section Despawning

structure Despawns (pm : PoolManager) (p : UInt32) (s t : SpawnedPoolData) : Prop where
  counted : Counted pm t
  shrinks : ∀ m, t.isSpawnedObject m = true → s.isSpawnedObject m = true
  frame : ∀ q, q ≠ p → pm.rank p ≤ pm.rank q → t.mSpawnedPools q = s.mSpawnedPools q
  fewer : ∀ q, (t.getSpawnedObjects q).toNat ≤ (s.getSpawnedObjects q).toNat
  keeps : s.isSpawnedObject (.pool, p) = true → t.isSpawnedObject (.pool, p) = true

theorem Despawns.refl (h : Counted pm s) (p : UInt32) : Despawns pm p s s :=
  ⟨h, fun _ => id, fun _ _ _ => rfl, fun _ => Nat.le_refl _, id⟩

theorem Despawns.trans (h : Despawns pm p s t) (h' : Despawns pm p t u) : Despawns pm p s u where
  counted := h'.counted
  shrinks := fun m hm => h.shrinks m (h'.shrinks m hm)
  frame := fun q hq hrank => (h'.frame q hq hrank).trans (h.frame q hq hrank)
  fewer := fun q => (h'.fewer q).trans (h.fewer q)
  keeps := fun hp => h'.keeps (h.keeps hp)

def DespawnsSub (pm : PoolManager) (p : UInt32) (despawn : PoolAction) : Prop :=
  ∀ child s, (.pool, child) ∈ pm.members p → Counted pm s →
    Despawns pm child s (despawn child s) ∧ (despawn child s).getSpawnedObjects child = 0

variable {despawn : PoolAction} {kind : Kind} {guid entry : UInt32}

theorem despawnEntry_despawns (guid : UInt32) (hsub : DespawnsSub pm p despawn) (h : Counted pm s)
    (hm : (kind, entry) ∈ pm.members p) :
    Despawns pm p s (despawnEntry despawn kind p guid s entry) ∧
      (guid = 0 ∨ entry = guid →
        (despawnEntry despawn kind p guid s entry).isSpawnedObject (kind, entry) = false) := by
  by_cases hdue : s.isSpawnedObject (kind, entry) ∧ (guid = 0 ∨ entry = guid)
  · simp only [despawnEntry, if_pos hdue]
    have hne : (kind, entry) ≠ (.pool, p) := fun heq => not_mem_self pm p (heq ▸ hm)
    -- what happens below the entry first
    set t := on1Object despawn (kind, entry) s with ht
    have hbelow : Counted pm t ∧ (∀ m, t.isSpawnedObject m = true → s.isSpawnedObject m = true) ∧
        (∀ q, pm.rank p ≤ pm.rank q → t.mSpawnedPools q = s.mSpawnedPools q) ∧
        (∀ q, (t.getSpawnedObjects q).toNat ≤ (s.getSpawnedObjects q).toNat) ∧
        t.isSpawnedObject (kind, entry) = true ∧
        (∀ child, (kind, entry) = (.pool, child) → t.getSpawnedObjects child = 0) := by
      cases kind with
      | creature =>
          refine ⟨h, fun _ => id, fun _ _ => rfl, fun _ => Nat.le_refl _, hdue.1, ?_⟩
          exact fun _ heq => by cases heq
      | gameobject =>
          refine ⟨h, fun _ => id, fun _ _ => rfl, fun _ => Nat.le_refl _, hdue.1, ?_⟩
          exact fun _ heq => by cases heq
      | pool =>
          obtain ⟨hdespawns, hnone⟩ := hsub entry s hm h
          have hrank := pm.acyclic p entry hm
          refine ⟨hdespawns.counted, hdespawns.shrinks, fun q hq => ?_, hdespawns.fewer,
            hdespawns.keeps hdue.1, fun child hchild => ?_⟩
          · have hlt := lt_of_lt_of_le hrank hq
            exact hdespawns.frame q (fun heq => lt_irrefl _ (heq ▸ hlt)) hlt.le
          · cases hchild
            exact hnone
    obtain ⟨hcounted, hshrinks, hframe, hfewer, hspawned, hempty⟩ := hbelow
    have hp := t.isSpawnedObject_of_counted p (hcounted.spawned_of_member hm hspawned)
    have hmarks := fun x => isSpawnedObject_removeSpawn (x := x) hp hne
    refine ⟨⟨hcounted.removeSpawn hm hspawned hempty, fun x hx => ?_, fun q hq hrank => ?_,
      fun q => ?_, fun _ => ?_⟩, fun _ => ?_⟩
    · rw [hmarks, Bool.and_eq_true] at hx
      exact hshrinks x hx.2
    · have hchild : (kind, entry) ≠ (.pool, q) := by
        intro heq
        exact absurd (pm.acyclic p q (heq ▸ hm)) (not_lt.mpr hrank)
      rw [SpawnedPoolData.mSpawnedPools_removeSpawn _ _ _ _ hq hchild, hframe q hrank]
    · have hcount := hcounted.toNat_removeSpawn hm hspawned hempty q
      exact le_trans (Nat.le.intro hcount) (hfewer q)
    · rw [hmarks, hp, decide_eq_false (Ne.symm hne)]
      rfl
    · rw [hmarks]
      simp
  · simp only [despawnEntry, if_neg hdue]
    refine ⟨Despawns.refl h p, fun hguid => ?_⟩
    exact Bool.eq_false_iff.mpr fun hspawned => hdue ⟨hspawned, hguid⟩

theorem despawnObject_despawns (hsub : DespawnsSub pm p despawn) (h : Counted pm s)
    (kind : Kind) (guid : UInt32) :
    Despawns pm p s (pm.despawnObject despawn kind p guid s) ∧
      ∀ entry, (kind, entry) ∈ pm.members p → guid = 0 ∨ entry = guid →
        (pm.despawnObject despawn kind p guid s).isSpawnedObject (kind, entry) = false := by
  have hfold : ∀ entries : List UInt32, ∀ s, Counted pm s →
      (∀ entry ∈ entries, (kind, entry) ∈ pm.members p) →
      Despawns pm p s (entries.foldl (despawnEntry despawn kind p guid) s) ∧
        ∀ entry ∈ entries, guid = 0 ∨ entry = guid →
          (entries.foldl (despawnEntry despawn kind p guid) s).isSpawnedObject (kind, entry) =
            false := by
    intro entries
    induction entries with
    | nil => exact fun s h _ => ⟨Despawns.refl h p, fun _ hentry => absurd hentry List.not_mem_nil⟩
    | cons first rest ih =>
        intro s h hall
        obtain ⟨hfirst, hgone⟩ :=
          despawnEntry_despawns guid hsub h (hall first List.mem_cons_self)
        obtain ⟨hrest, hgone'⟩ := ih _ hfirst.counted fun entry hentry =>
          hall entry (List.mem_cons_of_mem _ hentry)
        refine ⟨hfirst.trans hrest, fun entry hentry hguid => ?_⟩
        rcases List.mem_cons.mp hentry with rfl | hentry
        · refine Bool.eq_false_iff.mpr fun hspawned => ?_
          exact Bool.eq_false_iff.mp (hgone hguid) (hrest.shrinks _ hspawned)
        · exact hgone' entry hentry hguid
  obtain ⟨hdespawns, hgone⟩ := hfold _ s h fun entry => (mem_objects pm kind p entry).mp
  exact ⟨hdespawns, fun entry hentry => hgone entry ((mem_objects pm kind p entry).mpr hentry)⟩

theorem despawnPoolAt_despawns {depth : Nat} (hdepth : pm.rank p < depth) (h : Counted pm s) :
    Despawns pm p s (pm.despawnPoolAt depth p s) ∧
      (pm.despawnPoolAt depth p s).getSpawnedObjects p = 0 := by
  induction depth generalizing p s with
  | zero => exact absurd hdepth (Nat.not_lt_zero _)
  | succ depth ih =>
      have hsub : DespawnsSub pm p (pm.despawnPoolAt depth) := fun child s hchild hs =>
        ih (lt_of_lt_of_le (pm.acyclic p child hchild) (Nat.lt_succ_iff.mp hdepth)) hs
      obtain ⟨hcreatures, hgone⟩ := despawnObject_despawns hsub h .creature 0
      obtain ⟨hgameobjects, hgone'⟩ := despawnObject_despawns hsub hcreatures.counted .gameobject 0
      obtain ⟨hpools, hgone''⟩ := despawnObject_despawns hsub hgameobjects.counted .pool 0
      refine ⟨hcreatures.trans (hgameobjects.trans hpools), ?_⟩
      have hcount := hpools.counted.count p
      refine UInt32.toNat_inj.mp (hcount.trans (List.countP_eq_zero.mpr ?_))
      rintro ⟨kind, entry⟩ hm hspawned
      cases kind with
      | creature =>
          have hwas := hgameobjects.shrinks _ (hpools.shrinks _ hspawned)
          exact Bool.eq_false_iff.mp (hgone entry hm (Or.inl rfl)) hwas
      | gameobject =>
          exact Bool.eq_false_iff.mp (hgone' entry hm (Or.inl rfl)) (hpools.shrinks _ hspawned)
      | pool => exact Bool.eq_false_iff.mp (hgone'' entry hm (Or.inl rfl)) hspawned

end Despawning

section Spawning

def Within (pm : PoolManager) (p : UInt32) (s : SpawnedPoolData) : Prop :=
  ∀ q, q = p ∨ pm.rank q < pm.rank p →
    (s.getSpawnedObjects q).toNat ≤ (pm.getSpawnCount q).toNat

structure Spawns (pm : PoolManager) (p : UInt32) (s t : SpawnedPoolData) : Prop where
  counted : Counted pm t
  grows : ∀ m, s.isSpawnedObject m = true → t.isSpawnedObject m = true
  frame : ∀ q, q ≠ p → pm.rank p ≤ pm.rank q → t.mSpawnedPools q = s.mSpawnedPools q
  within : Within pm p t

theorem Spawns.refl (h : Counted pm s) (hwithin : Within pm p s) : Spawns pm p s s :=
  ⟨h, fun _ => id, fun _ _ _ => rfl, hwithin⟩

theorem Spawns.trans (h : Spawns pm p s t) (h' : Spawns pm p t u) : Spawns pm p s u where
  counted := h'.counted
  grows := fun m hm => h'.grows m (h.grows m hm)
  frame := fun q hq hrank => (h'.frame q hq hrank).trans (h.frame q hq hrank)
  within := h'.within

theorem Home.grows (h : Home pm s p)
    (hgrows : ∀ m, s.isSpawnedObject m = true → t.isSpawnedObject m = true) : Home pm t p :=
  h.imp_right (hgrows _)

def SpawnsSub (pm : PoolManager) (p : UInt32) (spawn : PoolAction) : Prop :=
  ∀ child s, (.pool, child) ∈ pm.members p → Counted pm s → Home pm s child → Within pm child s →
    Spawns pm child s (spawn child s)

variable {spawn despawn : PoolAction} {kind : Kind} {guid entry trigger mother : UInt32}
  {isTriggerSpawned : Bool}

theorem getSpawnedObjects_congr (h : t.mSpawnedPools q = s.mSpawnedPools q) :
    t.getSpawnedObjects q = s.getSpawnedObjects q := by
  rw [SpawnedPoolData.getSpawnedObjects, SpawnedPoolData.getSpawnedObjects, h]

/-- The state after a member was marked and spawned: the pool has one more. -/
structure Added (pm : PoolManager) (p : UInt32) (m : Member) (s t : SpawnedPoolData) : Prop where
  counted : Counted pm t
  grows : ∀ x, s.isSpawnedObject x = true → t.isSpawnedObject x = true
  home : Home pm t p
  added : (t.getSpawnedObjects p).toNat = (s.getSpawnedObjects p).toNat + 1
  frame : ∀ q, q ≠ p → pm.rank p ≤ pm.rank q → t.mSpawnedPools q = s.mSpawnedPools q
  below : ∀ q, pm.rank q < pm.rank p →
    (t.getSpawnedObjects q).toNat ≤ (pm.getSpawnCount q).toNat
  leaf : m.1 ≠ .pool → ∀ x, x ≠ m → x ≠ (.pool, p) → t.isSpawnedObject x = s.isSpawnedObject x

theorem addSpawn_added (h : Counted pm s) (hm : m ∈ pm.members p)
    (hfree : s.isSpawnedObject m = false) (hhome : Home pm s p)
    (hbelow : ∀ q, pm.rank q < pm.rank p →
      (s.getSpawnedObjects q).toNat ≤ (pm.getSpawnCount q).toNat) :
    Added pm p m s (s.addSpawn m p) where
  counted := h.addSpawn hm hfree hhome
  grows := by
    intro x hx
    simp only [SpawnedPoolData.addSpawn, SpawnedPoolData.isSpawnedObject_set,
      SpawnedPoolData.isSpawnedObject_insert, hx, Bool.or_true]
  home := by
    refine Or.inr ?_
    simp only [SpawnedPoolData.addSpawn, SpawnedPoolData.isSpawnedObject_set, decide_true,
      Bool.true_or]
  added := by rw [h.toNat_addSpawn hm hfree, if_pos rfl]
  frame := by
    intro q hq hrank
    refine SpawnedPoolData.mSpawnedPools_addSpawn _ _ _ _ hq fun heq => ?_
    exact absurd (pm.acyclic p q (heq ▸ hm)) (not_lt.mpr hrank)
  below := by
    intro q hq
    have hne : q ≠ p := fun heq => lt_irrefl _ (heq ▸ hq)
    rw [h.toNat_addSpawn hm hfree, if_neg hne]
    exact hbelow q hq
  leaf := by
    intro _ x hx hp
    simp only [SpawnedPoolData.addSpawn, SpawnedPoolData.isSpawnedObject_set,
      SpawnedPoolData.isSpawnedObject_insert, hx, hp, decide_false, Bool.false_or]

theorem on1Object_added (hsub : SpawnsSub pm p spawn) (hm : m ∈ pm.members p)
    (hmarked : t.isSpawnedObject m = true) (h : Added pm p m s t) :
    Added pm p m s (on1Object spawn m t) := by
  obtain ⟨kind, child⟩ := m
  cases kind with
  | creature => exact h
  | gameobject => exact h
  | pool =>
      have hrank := pm.acyclic p child hm
      have hwithin : Within pm child t := by
        rintro q (rfl | hq)
        · exact h.below q hrank
        · exact h.below q (hq.trans hrank)
      have hspawns := hsub child t hm h.counted (Or.inr hmarked) hwithin
      have hframe : ∀ q, pm.rank p ≤ pm.rank q →
          (spawn child t).mSpawnedPools q = t.mSpawnedPools q := by
        intro q hq
        have hlt := lt_of_lt_of_le hrank hq
        exact hspawns.frame q (fun heq => lt_irrefl _ (heq ▸ hlt)) hlt.le
      refine ⟨hspawns.counted, fun x hx => hspawns.grows x (h.grows x hx),
        h.home.grows hspawns.grows, ?_, fun q hq hle => (hframe q hle).trans (h.frame q hq hle),
        fun q hq => ?_, fun hleaf => absurd rfl hleaf⟩
      · have hsame : (spawn child t).getSpawnedObjects p = t.getSpawnedObjects p :=
          getSpawnedObjects_congr (hframe p (le_refl _))
        exact (congrArg UInt32.toNat hsame).trans h.added
      · by_cases hin : q = child ∨ pm.rank q < pm.rank child
        · exact hspawns.within q hin
        · have hsame : (spawn child t).getSpawnedObjects q = t.getSpawnedObjects q :=
            getSpawnedObjects_congr
              (hspawns.frame q (fun heq => hin (Or.inl heq))
                (not_lt.mp fun hlt => hin (Or.inr hlt)))
          exact hsame ▸ h.below q hq

theorem rollOne_some {group : PoolGroup}
    (h : rollOne chance s kind group trigger = some guid) :
    guid = trigger ∨ s.isSpawnedObject (kind, guid) = false := by
  have hspawnable : ∀ guid, (chance.canBeSpawned s.now (kind, guid) &&
      (guid = trigger || !s.isSpawnedObject (kind, guid))) = true →
      guid = trigger ∨ s.isSpawnedObject (kind, guid) = false := by
    intro guid hguid
    simpa using (Bool.and_eq_true_iff.mp hguid).2
  simp only [rollOne] at h
  split at h
  · rename_i found hfound
    cases h
    exact hspawnable _ (List.find?_some (p := fun guid => chance.canBeSpawned s.now (kind, guid) &&
      (guid = trigger || !s.isSpawnedObject (kind, guid))) hfound)
  · exact hspawnable _ (List.mem_filter.mp (List.mem_of_getElem? h)).2

/-- The loop of `SpawnObject` for the members of one kind, with `left` turns to go. A trigger
that is still marked makes room for one member more. -/
structure Turn (pm : PoolManager) (kind : Kind) (p trigger mother : UInt32)
    (isTriggerSpawned : Bool) (s : SpawnedPoolData) (state : Spawning) (left : Nat) : Prop where
  counted : Counted pm state.spawns
  home : Home pm state.spawns p
  frame : ∀ q, q ≠ p → pm.rank p ≤ pm.rank q →
    state.spawns.mSpawnedPools q = s.mSpawnedPools q
  within : Within pm p state.spawns
  room : (state.spawns.getSpawnedObjects p).toNat + left ≤ (pm.getSpawnCount p).toNat ∨
    (isTriggerSpawned = true ∧ state.spawns.isSpawnedObject (kind, trigger) = true ∧
      (kind, trigger) ∈ pm.members p ∧ (mother = 0 → state.triggerFrom = trigger) ∧
      (state.spawns.getSpawnedObjects p).toNat + left ≤ (pm.getSpawnCount p).toNat + 1)
  aim : mother = 0 → state.triggerFrom = 0 ∨ (state.triggerFrom = trigger ∧
    (isTriggerSpawned = false → state.spawns.isSpawnedObject (kind, trigger) = false))
  grows : isTriggerSpawned = false →
    ∀ m, s.isSpawnedObject m = true → state.spawns.isSpawnedObject m = true

variable {state : Spawning} {left : Nat}

theorem Turn.pass (h : Turn pm kind p trigger mother isTriggerSpawned s state (left + 1))
    {triggerFrom lastDespawned : UInt32}
    (htrigger : triggerFrom = 0 ∧ (isTriggerSpawned = true →
        (state.spawns.getSpawnedObjects p).toNat + left ≤ (pm.getSpawnCount p).toNat) ∨
      (mother = 0 → triggerFrom = state.triggerFrom)) :
    Turn pm kind p trigger mother isTriggerSpawned s
      ⟨state.spawns.ask, triggerFrom, lastDespawned⟩ left where
  counted := h.counted.ask
  home := h.home.imp_right fun hp => (SpawnedPoolData.isSpawnedObject_ask _ _).trans hp
  frame := h.frame
  within := h.within
  room := by
    rcases htrigger with ⟨-, hroom⟩ | hsame
    · cases hits : isTriggerSpawned with
      | true => exact Or.inl (hroom hits)
      | false =>
          rcases h.room with hroom | ⟨hspawned, -⟩
          · exact Or.inl (by simp only [SpawnedPoolData.getSpawnedObjects_ask]; omega)
          · rw [hits] at hspawned
            exact absurd hspawned Bool.false_ne_true
    · rcases h.room with hroom | ⟨hits, hspawned, hm, haim, hroom⟩
      · exact Or.inl (by simp only [SpawnedPoolData.getSpawnedObjects_ask]; omega)
      · refine Or.inr ⟨hits, (SpawnedPoolData.isSpawnedObject_ask _ _).trans hspawned, hm,
          fun hmother => (hsame hmother).trans (haim hmother), ?_⟩
        simp only [SpawnedPoolData.getSpawnedObjects_ask]
        omega
  aim := by
    intro hmother
    rcases htrigger with ⟨hzero, -⟩ | hsame
    · exact Or.inl hzero
    · simp only [hsame hmother, SpawnedPoolData.isSpawnedObject_ask]
      exact h.aim hmother
  grows := fun hits m hm => (SpawnedPoolData.isSpawnedObject_ask _ _).trans (h.grows hits m hm)

def MotherOf (kind : Kind) (p mother : UInt32) : Prop :=
  (kind = .pool ∧ mother = p ∧ p ≠ 0) ∨ (kind ≠ .pool ∧ mother = 0)

/-- What is rolled and not taken for the trigger is not marked yet. -/
theorem Turn.free (h : Turn pm kind p trigger mother isTriggerSpawned s state left)
    (hmother : MotherOf kind p mother) (hm : (kind, guid) ∈ pm.members p)
    (hrolled : guid = (if mother ≠ 0 then mother else state.triggerFrom) ∨
      state.spawns.isSpawnedObject (kind, guid) = false)
    (hother : ¬ (guid = (if mother ≠ 0 then mother else state.triggerFrom) ∧
      isTriggerSpawned = true)) :
    state.spawns.isSpawnedObject (kind, guid) = false := by
  rcases hrolled with hsame | hfree
  · have hits : isTriggerSpawned = false := Bool.eq_false_iff.mpr fun hits => hother ⟨hsame, hits⟩
    rcases hmother with ⟨rfl, rfl, hp⟩ | ⟨-, rfl⟩
    · rw [if_pos hp] at hsame
      rw [hsame] at hm
      exact absurd hm (not_mem_self pm mother)
    · rw [if_neg (not_not.mpr rfl)] at hsame
      rcases h.aim rfl with hzero | ⟨htrigger, hfree⟩
      · exact absurd (hsame.trans hzero) (pm.nonzero p _ hm).2
      · rw [hsame, htrigger]
        exact hfree hits
  · exact hfree

theorem spawnOne_turn (hspawn : SpawnsSub pm p spawn) (hdespawn : DespawnsSub pm p despawn)
    (hmother : MotherOf kind p mother)
    (h : Turn pm kind p trigger mother isTriggerSpawned s state (left + 1)) :
    Turn pm kind p trigger mother isTriggerSpawned s
      (pm.spawnOne chance spawn despawn kind p trigger isTriggerSpawned mother state) left := by
  simp only [spawnOne]
  set triggerFrom := if mother ≠ 0 then mother else state.triggerFrom with htf
  have hsame : mother = 0 → triggerFrom = state.triggerFrom := fun hzero => by
    rw [htf, if_neg (not_not.mpr hzero)]
  split
  · exact h.pass (Or.inr hsame)
  · rename_i guid hrolled
    have hfound := rollOne_some hrolled
    have hm := (mem_objects pm kind p guid).mp (rollOne_mem hrolled)
    split
    · exact h.pass (Or.inr hsame)
    · split
      · refine h.pass (Or.inl ⟨rfl, fun _ => ?_⟩)
        rcases h.room with hroom | ⟨-, -, -, -, hroom⟩ <;> omega
      · rename_i hother
        have hfree := h.free hmother hm hfound hother
        have hasked : state.spawns.ask.isSpawnedObject (kind, guid) = false :=
          (SpawnedPoolData.isSpawnedObject_ask _ _).trans hfree
        have hhome : Home pm state.spawns.ask p :=
          h.home.imp_right fun hp => (SpawnedPoolData.isSpawnedObject_ask _ _).trans hp
        have hadded := on1Object_added hspawn hm
          (by simp only [SpawnedPoolData.addSpawn, SpawnedPoolData.isSpawnedObject_set,
            SpawnedPoolData.isSpawnedObject_insert, decide_true, Bool.true_or, Bool.or_true])
          (addSpawn_added h.counted.ask hm hasked hhome fun q hq => h.within q (Or.inr hq))
        set added := on1Object spawn (kind, guid) (state.spawns.ask.addSpawn (kind, guid) p)
        have hgrows : ∀ m, state.spawns.isSpawnedObject m = true → added.isSpawnedObject m = true :=
          fun m hm => hadded.grows m ((SpawnedPoolData.isSpawnedObject_ask _ _).trans hm)
        have hcount : (added.getSpawnedObjects p).toNat =
            (state.spawns.getSpawnedObjects p).toNat + 1 := hadded.added
        split
        · rename_i htrigger
          set disposed := if mother ≠ 0 then trigger else triggerFrom with hdisposed
          obtain ⟨hdespawns, hgone⟩ := despawnObject_despawns hdespawn hadded.counted kind disposed
          set final := pm.despawnObject despawn kind p disposed added
          -- the trigger makes room for the new member
          have hroom : (final.getSpawnedObjects p).toNat + left ≤ (pm.getSpawnCount p).toNat := by
            rcases h.room with hroom | ⟨-, hspawned, htm, haim, hroom⟩
            · have hfewer := hdespawns.fewer p
              omega
            · have hsame' : disposed = trigger := by
                rw [hdisposed]
                split
                · rfl
                · rename_i hzero
                  exact (hsame (not_not.mp hzero)).trans (haim (not_not.mp hzero))
              have hless := countP_lt_of_unmark htm (hgrows _ hspawned)
                (hgone trigger htm (Or.inr hsame'.symm)) fun x _ => hdespawns.shrinks x
              have hafter : (final.getSpawnedObjects p).toNat + 1 ≤
                  (added.getSpawnedObjects p).toNat := by
                rw [hdespawns.counted.count, hadded.counted.count]
                exact hless
              omega
          refine ⟨hdespawns.counted, ?_, fun q hq hrank =>
            ?_, ?_, Or.inl hroom, fun _ => Or.inl rfl,
            fun hits => absurd htrigger.2 (Bool.eq_false_iff.mp hits)⟩
          · exact hadded.home.imp_right hdespawns.keeps
          · rw [hdespawns.frame q hq hrank, hadded.frame q hq hrank]
            exact h.frame q hq hrank
          · rintro q (rfl | hq)
            · exact le_trans (Nat.le_add_right _ left) hroom
            · exact (hdespawns.fewer q).trans (hadded.below q hq)
        · rename_i htrigger
          have hroom : (added.getSpawnedObjects p).toNat + left ≤ (pm.getSpawnCount p).toNat := by
            rcases h.room with hroom | ⟨hits, -, htm, haim, -⟩
            · omega
            · refine absurd ⟨?_, hits⟩ htrigger
              by_cases hzero : mother = 0
              · rw [hsame hzero, haim hzero]
                exact (pm.nonzero p _ htm).2
              · rw [htf, if_pos hzero]
                exact hzero
          refine ⟨hadded.counted, hadded.home, fun q hq hrank => ?_, ?_, Or.inl hroom,
            fun hzero => ?_, fun hits m hm => hgrows m (h.grows hits m hm)⟩
          · exact (hadded.frame q hq hrank).trans (h.frame q hq hrank)
          · rintro q (rfl | hq)
            · exact le_trans (Nat.le_add_right _ left) hroom
            · exact hadded.below q hq
          · by_cases htaken : triggerFrom = guid
            · exact Or.inl (if_pos htaken)
            · have hkept : (if triggerFrom = guid then 0 else triggerFrom) = state.triggerFrom :=
                (if_neg htaken).trans (hsame hzero)
              rcases h.aim hzero with hnone | ⟨hsame', hfree'⟩
              · exact Or.inl (hkept.trans hnone)
              · refine Or.inr ⟨hkept.trans hsame', fun hits => ?_⟩
                have hleaf : kind ≠ .pool := by
                  rcases hmother with ⟨-, rfl, hp⟩ | ⟨hkind, -⟩
                  · exact absurd hzero hp
                  · exact hkind
                have hne : (kind, trigger) ≠ (kind, guid) := by
                  intro heq
                  exact htaken ((hsame hzero).trans (hsame'.trans (congrArg Prod.snd heq)))
                have hne' : (kind, trigger) ≠ (Kind.pool, p) := fun heq =>
                  hleaf (congrArg Prod.fst heq)
                rw [hadded.leaf hleaf _ hne hne', SpawnedPoolData.isSpawnedObject_ask]
                exact hfree' hits

theorem spawnTurns (hspawn : SpawnsSub pm p spawn) (hdespawn : DespawnsSub pm p despawn)
    (hmother : MotherOf kind p mother)
    (h : Turn pm kind p trigger mother isTriggerSpawned s state left) :
    Turn pm kind p trigger mother isTriggerSpawned s
      (Nat.iterate (pm.spawnOne chance spawn despawn kind p trigger isTriggerSpawned mother) left
        state) 0 := by
  induction left generalizing state with
  | zero => exact h
  | succ left ih => exact ih (spawnOne_turn hspawn hdespawn hmother h)

structure Loading (pm : PoolManager) (kind : Kind) (p : UInt32) (s : SpawnedPoolData)
    (loaded : SpawnedPoolData × Int) (rest : List UInt32) : Prop where
  counted : Counted pm loaded.1
  home : Home pm loaded.1 p
  grows : ∀ m, s.isSpawnedObject m = true → loaded.1.isSpawnedObject m = true
  frame : ∀ q, q ≠ p → pm.rank p ≤ pm.rank q → loaded.1.mSpawnedPools q = s.mSpawnedPools q
  below : ∀ q, pm.rank q < pm.rank p →
    (loaded.1.getSpawnedObjects q).toNat ≤ (pm.getSpawnCount q).toNat
  mem : ∀ entry ∈ rest, (kind, entry) ∈ pm.members p
  nodup : rest.Nodup
  free : ∀ entry ∈ rest, loaded.1.isSpawnedObject (kind, entry) = false
  room : (0 ≤ loaded.2 ∧
      ((loaded.1.getSpawnedObjects p).toNat : Int) + loaded.2 ≤ (pm.getSpawnCount p).toNat) ∨
    (loaded.2 < 0 ∧
      (loaded.1.getSpawnedObjects p).toNat + rest.length ≤ (pm.getSpawnCount p).toNat)

variable {loaded : SpawnedPoolData × Int} {rest : List UInt32}

theorem loadEntry_loading (h : Loading pm kind p s loaded (entry :: rest)) :
    Loading pm kind p s (loadEntry chance spawn kind p loaded entry) rest := by
  have hnodup := List.nodup_cons.mp h.nodup
  have hm := h.mem entry List.mem_cons_self
  simp only [loadEntry]
  split
  · rename_i hload
    have hleaf : kind ≠ .pool := by
      simpa using (Bool.and_eq_true_iff.mp hload.2).1
    have hfree := (SpawnedPoolData.isSpawnedObject_ask loaded.1 (kind, entry)).trans
      (h.free entry List.mem_cons_self)
    have hhome : Home pm loaded.1.ask p :=
      h.home.imp_right fun hp => (SpawnedPoolData.isSpawnedObject_ask _ _).trans hp
    have hadded := addSpawn_added h.counted.ask hm hfree hhome h.below
    have hself : on1Object spawn (kind, entry) (loaded.1.ask.addSpawn (kind, entry) p) =
        loaded.1.ask.addSpawn (kind, entry) p := by
      cases kind with
      | creature => rfl
      | gameobject => rfl
      | pool => exact absurd rfl hleaf
    rw [hself]
    have hcount : ((loaded.1.ask.addSpawn (kind, entry) p).getSpawnedObjects p).toNat =
        (loaded.1.getSpawnedObjects p).toNat + 1 := hadded.added
    refine ⟨hadded.counted, hadded.home, fun m hspawned => ?_, fun q hq hrank => ?_, hadded.below,
      fun other hother => h.mem other (List.mem_cons_of_mem _ hother), hnodup.2,
      fun other hother => ?_, ?_⟩
    · exact hadded.grows m ((SpawnedPoolData.isSpawnedObject_ask _ _).trans (h.grows m hspawned))
    · exact (hadded.frame q hq hrank).trans (h.frame q hq hrank)
    · have hne : (kind, other) ≠ (kind, entry) := by
        intro heq
        obtain rfl : other = entry := congrArg Prod.snd heq
        exact hnodup.1 hother
      rw [hadded.leaf hleaf _ hne fun heq => hleaf (congrArg Prod.fst heq),
        SpawnedPoolData.isSpawnedObject_ask]
      exact h.free other (List.mem_cons_of_mem _ hother)
    · have hroom := h.room
      simp only [hcount, List.length_cons] at hroom ⊢
      have hnonzero := hload.1
      omega
  · refine ⟨h.counted.ask, h.home.imp_right fun hp =>
      (SpawnedPoolData.isSpawnedObject_ask _ _).trans hp,
      fun m hspawned => (SpawnedPoolData.isSpawnedObject_ask _ _).trans (h.grows m hspawned),
      h.frame, h.below, fun other hother => h.mem other (List.mem_cons_of_mem _ hother), hnodup.2,
      fun other hother => ?_, ?_⟩
    · rw [SpawnedPoolData.isSpawnedObject_ask]
      exact h.free other (List.mem_cons_of_mem _ hother)
    · have hroom := h.room
      simp only [SpawnedPoolData.getSpawnedObjects_ask, List.length_cons] at hroom ⊢
      omega

theorem loadEntries (h : Loading pm kind p s loaded rest) :
    Loading pm kind p s (rest.foldl (loadEntry chance spawn kind p) loaded) [] := by
  induction rest generalizing loaded with
  | nil => exact h
  | cons entry rest ih => exact ih (loadEntry_loading h)

theorem toInt_cases (n : UInt32) :
    n.toInt32.toInt = n.toNat ∨ (n.toInt32.toInt < 0 ∧ 2 ^ 31 ≤ n.toNat) := by
  have hlt := n.toNat_lt
  have hint : n.toInt32.toInt = n.toBitVec.toInt := rfl
  rw [hint, BitVec.toInt_eq_toNat_cond]
  split
  · exact Or.inl rfl
  · rename_i hbig
    refine Or.inr ⟨?_, ?_⟩
    · have hnat : n.toBitVec.toNat = n.toNat := rfl
      omega
    · have hnat : n.toBitVec.toNat = n.toNat := rfl
      omega

theorem objects_nodup (pm : PoolManager) (kind : Kind) (p : UInt32) :
    (pm.groups kind p).objects.Nodup := by
  have hnodup := pm.nodup p
  simp only [membersOf, List.nodup_append] at hnodup
  cases kind with
  | creature => exact List.Nodup.of_map _ hnodup.1.1
  | gameobject => exact List.Nodup.of_map _ hnodup.1.2.1
  | pool => exact List.Nodup.of_map _ hnodup.2.1

theorem objects_length (pm : PoolManager) (kind : Kind) (p : UInt32) :
    (pm.groups kind p).objects.length ≤ (pm.members p).length := by
  simp only [members, membersOf, List.length_append, List.length_map]
  cases kind with
  | creature => omega
  | gameobject => omega
  | pool => omega

theorem loading_start (h : Counted pm s) (hhome : Home pm s p) (hwithin : Within pm p s)
    (hzero : s.getSpawnedObjects p = 0) {rest : List UInt32}
    (hrest : rest.Sublist (pm.groups kind p).objects) :
    Loading pm kind p s (s, (pm.getSpawnCount p).toInt32.toInt) rest where
  counted := h
  home := hhome
  grows := fun _ => id
  frame := fun _ _ _ => rfl
  below := fun q hq => hwithin q (Or.inr hq)
  mem := fun entry hentry => (mem_objects pm kind p entry).mp (hrest.subset hentry)
  nodup := (objects_nodup pm kind p).sublist hrest
  free := by
    intro entry hentry
    refine Bool.eq_false_iff.mpr fun hspawned => ?_
    exact h.spawned_of_member ((mem_objects pm kind p entry).mp (hrest.subset hentry))
      hspawned hzero
  room := by
    have hlength := hrest.length_le.trans (objects_length pm kind p)
    have hindexed : (pm.members p).length < 2 ^ 31 := pm.indexed p
    rw [hzero, UInt32.toNat_zero]
    rcases toInt_cases (pm.getSpawnCount p) with hint | ⟨hneg, hbig⟩
    · exact Or.inl (by omega)
    · exact Or.inr (by omega)

theorem Loading.turn (h : Loading pm kind p s loaded []) :
    Turn pm kind p 0 mother false s ⟨loaded.1, 0, 0⟩ loaded.2.toNat := by
  have hroom : (loaded.1.getSpawnedObjects p).toNat + loaded.2.toNat ≤
      (pm.getSpawnCount p).toNat := by
    have hleft := h.room
    simp only [List.length_nil] at hleft
    omega
  refine ⟨h.counted, h.home, h.frame, ?_, Or.inl hroom, fun _ => Or.inl rfl, fun _ => h.grows⟩
  rintro q (rfl | hq)
  · exact le_trans (Nat.le_add_right _ _) hroom
  · exact h.below q hq

theorem toNat_left (hlimit : (s.getSpawnedObjects p).toNat ≤ (pm.getSpawnCount p).toNat) :
    (pm.getSpawnCount p - s.getSpawnedObjects p).toNat =
      (pm.getSpawnCount p).toNat - (s.getSpawnedObjects p).toNat :=
  UInt32.toNat_sub_of_le _ _ (UInt32.le_iff_toNat_le.mpr hlimit)

theorem spawnObject_turn (chance : Chance) (hspawn : SpawnsSub pm p spawn)
    (hdespawn : DespawnsSub pm p despawn)
    (hmother : MotherOf kind p mother) (h : Counted pm s) (hhome : Home pm s p)
    (hwithin : Within pm p s) (htrigger : trigger = 0 ∨ (kind, trigger) ∈ pm.members p) :
    ∃ state, Turn pm kind p trigger mother (s.isSpawnedObject (kind, trigger)) s state 0 ∧
      pm.spawnObject chance spawn despawn kind p trigger mother s = state.spawns := by
  have hlimit := hwithin p (Or.inl rfl)
  have hleft := toNat_left hlimit
  set left := pm.getSpawnCount p - s.getSpawnedObjects p with hdef
  have hcount := toInt_cases left
  simp only [spawnObject, ← hdef]
  refine ⟨_, spawnTurns hspawn hdespawn hmother ?_, rfl⟩
  by_cases hzero : trigger = 0
  · subst hzero
    rw [if_neg (not_not.mpr rfl), h.zero kind]
    split
    · rename_i hload
      have hnone : s.getSpawnedObjects p = 0 := by
        have hsame := congrArg UInt32.toNat hload.2
        rw [hleft] at hsame
        refine UInt32.toNat_inj.mp ?_
        rw [UInt32.toNat_zero]
        have hpos : left.toNat ≠ 0 := by
          intro hnil
          have hleft0 : left = 0 := UInt32.toNat_inj.mp hnil
          exact hload.1 (by rw [hleft0]; rfl)
        omega
      rw [hload.2]
      refine (loadEntries (loading_start h hhome hwithin hnone ?_)).turn
      split
      · exact List.sublist_append_right _ _
      · exact List.sublist_append_left _ _
    · refine ⟨h, hhome, fun _ _ _ => rfl, hwithin, Or.inl ?_, fun _ => Or.inl rfl, fun _ _ => id⟩
      simp only
      omega
  · have hm := htrigger.resolve_left hzero
    rw [if_pos hzero]
    refine ⟨h, hhome, fun _ _ _ => rfl, hwithin, ?_, fun _ => Or.inr ⟨rfl, id⟩, fun _ _ => id⟩
    by_cases hits : s.isSpawnedObject (kind, trigger) = true
    · rw [if_pos hits]
      by_cases hroom : (s.getSpawnedObjects p).toNat + (left.toInt32.toInt + 1).toNat ≤
          (pm.getSpawnCount p).toNat
      · exact Or.inl hroom
      · refine Or.inr ⟨hits, hits, hm, fun _ => rfl, ?_⟩
        simp only
        omega
    · rw [if_neg hits]
      refine Or.inl ?_
      simp only
      omega

theorem spawnPoolGroup_turn (chance : Chance) (kind : Kind) (hspawn : SpawnsSub pm p spawn)
    (hdespawn : DespawnsSub pm p despawn) (h : Counted pm s) (hhome : Home pm s p)
    (hwithin : Within pm p s)
    (htrigger : trigger = 0 ∨ (kind, trigger) ∈ pm.members p) :
    Counted pm (pm.spawnPoolGroup chance spawn despawn kind p trigger s) ∧
      Within pm p (pm.spawnPoolGroup chance spawn despawn kind p trigger s) ∧
      (∀ q, q ≠ p → pm.rank p ≤ pm.rank q →
        (pm.spawnPoolGroup chance spawn despawn kind p trigger s).mSpawnedPools q =
          s.mSpawnedPools q) ∧
      (trigger = 0 → Spawns pm p s (pm.spawnPoolGroup chance spawn despawn kind p trigger s)) := by
  simp only [spawnPoolGroup]
  split
  · exact ⟨h, hwithin, fun _ _ _ => rfl, fun _ => Spawns.refl h hwithin⟩
  · rename_i hsome
    have hmother : MotherOf kind p (if kind = .pool then p else 0) := by
      by_cases hkind : kind = .pool
      · rw [if_pos hkind]
        refine Or.inl ⟨hkind, rfl, ?_⟩
        obtain ⟨entry, hentry⟩ : ∃ entry, entry ∈ (pm.groups kind p).objects := by
          refine List.exists_mem_of_ne_nil _ fun hnil => hsome ?_
          obtain ⟨hequal, hexplicit⟩ := List.append_eq_nil_iff.mp hnil
          simp [PoolGroup.isEmpty, hequal, hexplicit]
        exact (pm.nonzero p _ ((mem_objects pm kind p entry).mp hentry)).1
      · rw [if_neg hkind]
        exact Or.inr ⟨hkind, rfl⟩
    obtain ⟨state, hturn, hfinal⟩ :=
      spawnObject_turn chance hspawn hdespawn hmother h hhome hwithin htrigger
    rw [hfinal]
    refine ⟨hturn.counted, hturn.within, hturn.frame, fun hzero => ?_⟩
    have hgrows := hturn.grows (by rw [hzero]; exact h.zero kind)
    exact ⟨hturn.counted, hgrows, hturn.frame, hturn.within⟩

theorem spawnPoolAt_spawns (chance : Chance) {depth : Nat} (hdepth : pm.rank p < depth)
    (h : Counted pm s)
    (hhome : Home pm s p) (hwithin : Within pm p s) :
    Spawns pm p s (pm.spawnPoolAt chance depth p s) := by
  induction depth generalizing p s with
  | zero => exact absurd hdepth (Nat.not_lt_zero _)
  | succ depth ih =>
      have hlower : ∀ child, (.pool, child) ∈ pm.members p → pm.rank child < depth :=
        fun child hchild => lt_of_lt_of_le (pm.acyclic p child hchild) (Nat.lt_succ_iff.mp hdepth)
      have hspawn : SpawnsSub pm p (pm.spawnPoolAt chance depth) :=
        fun child s hchild hs hhome' hwithin' => ih (hlower child hchild) hs hhome' hwithin'
      have hdespawn : DespawnsSub pm p (pm.despawnPoolAt depth) :=
        fun child s hchild hs => despawnPoolAt_despawns (hlower child hchild) hs
      have hgroup : ∀ kind s, Counted pm s → Home pm s p → Within pm p s →
          Spawns pm p s (pm.spawnPoolGroup chance (pm.spawnPoolAt chance depth)
            (pm.despawnPoolAt depth) kind p 0 s) :=
        fun kind s hs hhome' hwithin' => (spawnPoolGroup_turn chance kind
          hspawn hdespawn hs hhome' hwithin' (Or.inl rfl)).2.2.2 rfl
      have hpools := hgroup .pool s h hhome hwithin
      have hgameobjects :=
        hgroup .gameobject _ hpools.counted (hhome.grows hpools.grows) hpools.within
      have hboth := hpools.trans hgameobjects
      have hcreatures := hgroup .creature _ hboth.counted (hhome.grows hboth.grows) hboth.within
      exact hboth.trans hcreatures

end Spawning

section Runs

structure Accounted (pm : PoolManager) (s : SpawnedPoolData) : Prop where
  counted : Counted pm s
  within : ∀ p, (s.getSpawnedObjects p).toNat ≤ (pm.getSpawnCount p).toNat

/-- A call that touches a pool and its sub-pools leaves the other counters alone. -/
theorem Accounted.of_frame (h : Accounted pm s) (hcounted : Counted pm t) (hwithin : Within pm p t)
    (hframe : ∀ q, q ≠ p → pm.rank p ≤ pm.rank q → t.mSpawnedPools q = s.mSpawnedPools q) :
    Accounted pm t := by
  refine ⟨hcounted, fun q => ?_⟩
  by_cases hin : q = p ∨ pm.rank q < pm.rank p
  · exact hwithin q hin
  · have hsame := getSpawnedObjects_congr
      (hframe q (fun heq => hin (Or.inl heq)) (not_lt.mp fun hlt => hin (Or.inr hlt)))
    exact hsame ▸ h.within q

theorem spawnPool_accounted (h : Accounted pm s) (hp : pm.isPartOfAPool p = 0) :
    Accounted pm (pm.spawnPool chance p s) := by
  have hspawns := spawnPoolAt_spawns chance (Nat.lt_succ_self (pm.rank p)) h.counted
    (Or.inl hp) fun q _ => h.within q
  exact h.of_frame hspawns.counted hspawns.within hspawns.frame

theorem despawnPool_despawns (h : Counted pm s) (p : UInt32) :
    Despawns pm p s (pm.despawnPool p s) ∧ (pm.despawnPool p s).getSpawnedObjects p = 0 :=
  despawnPoolAt_despawns (Nat.lt_succ_self (pm.rank p)) h

theorem despawnPool_accounted (h : Accounted pm s) (p : UInt32) :
    Accounted pm (pm.despawnPool p s) :=
  ⟨(despawnPool_despawns h.counted p).1.counted,
    fun q => ((despawnPool_despawns h.counted p).1.fewer q).trans (h.within q)⟩

theorem updateGroup_accounted {kind : Kind} {trigger : UInt32} (h : Accounted pm s)
    (hhome : Home pm s p) (hm : (kind, trigger) ∈ pm.members p) :
    Accounted pm (pm.spawnPoolGroup chance (pm.spawnPoolAt chance (pm.rank p))
      (pm.despawnPoolAt (pm.rank p)) kind p trigger s) := by
  have hspawn : SpawnsSub pm p (pm.spawnPoolAt chance (pm.rank p)) :=
    fun child s hchild hs hhome' hwithin =>
      spawnPoolAt_spawns chance (pm.acyclic p child hchild) hs hhome' hwithin
  have hdespawn : DespawnsSub pm p (pm.despawnPoolAt (pm.rank p)) :=
    fun child s hchild hs => despawnPoolAt_despawns (pm.acyclic p child hchild) hs
  obtain ⟨hcounted, hwithin, hframe, -⟩ := spawnPoolGroup_turn chance kind hspawn hdespawn
    h.counted hhome (fun q _ => h.within q) (Or.inr hm)
  exact h.of_frame hcounted hwithin hframe

def Called (pm : PoolManager) : PoolEvent → Prop
  | .spawnPool poolId => pm.isPartOfAPool poolId = 0
  | .despawnPool poolId => pm.isPartOfAPool poolId = 0
  | .updatePool kind poolId guid => (kind, guid) ∈ pm.members poolId

def MotherSpawned (pm : PoolManager) (s : SpawnedPoolData) : PoolEvent → Prop
  | .updatePool _ poolId _ => Home pm s (pm.isPartOfAPool poolId)
  | _ => True

theorem Accounted.step (h : Accounted pm s) (event : PoolEvent) (hcalled : Called pm event)
    (hmother : MotherSpawned pm s event) : Accounted pm (s.step pm chance event) := by
  cases event with
  | spawnPool poolId => exact spawnPool_accounted h hcalled
  | despawnPool poolId => exact despawnPool_accounted h poolId
  | updatePool kind poolId guid =>
      simp only [SpawnedPoolData.step, updatePool]
      split
      · rename_i hpart
        exact updateGroup_accounted h hmother ((pm.mother _ poolId).mpr ⟨hpart, rfl⟩)
      · rename_i hnone
        exact updateGroup_accounted h (Or.inl (not_not.mp hnone)) hcalled

theorem start_accounted (pm : PoolManager) : Accounted pm {} where
  counted :=
    { count := fun p => by
        have hnone : pm.marked {} p = 0 := by
          refine List.countP_eq_zero.mpr ?_
          rintro ⟨kind, guid⟩ -
          cases kind <;> exact Bool.false_ne_true
        rw [hnone]
        rfl
      zero := fun kind => by cases kind <;> rfl }
  within := fun _ => Nat.zero_le _

def Below (pm : PoolManager) : UInt32 → UInt32 → Prop :=
  Relation.ReflTransGen fun p child => (.pool, child) ∈ pm.members p

theorem Counted.unspawned_below (h : Counted pm s) (hzero : s.getSpawnedObjects p = 0)
    (hbelow : Below pm p q) : s.getSpawnedObjects q = 0 := by
  induction hbelow with
  | refl => exact hzero
  | tail _ hchild ih =>
      refine s.getSpawnedObjects_of_unspawned _ (Bool.eq_false_iff.mpr fun hspawned => ?_)
      exact h.spawned_of_member hchild hspawned ih

/-- In every run each counter is the number of the members that are spawned, within the limit;
a member is spawned in a spawned pool; and a despawned pool has nothing left below it. -/
theorem spawns_counted (pm : PoolManager) (chance : Chance) (events : List PoolEvent)
    (h : Lib.Along (SpawnedPoolData.step pm chance)
      (fun s event => Called pm event ∧ MotherSpawned pm s event) {} events) :
    let s := Lib.run (SpawnedPoolData.step pm chance) {} events
    (∀ p, (s.getSpawnedObjects p).toNat = (pm.members p).countP s.isSpawnedObject) ∧
      (∀ p, s.getSpawnedObjects p ≤ pm.getSpawnCount p) ∧
      (∀ p, ∀ m ∈ pm.members p, s.isSpawnedObject m = true →
        s.isSpawnedObject (.pool, p) = true) ∧
      ∀ p q, pm.isPartOfAPool p = 0 → Below pm p q →
        ∀ m ∈ pm.members q, (pm.despawnPool p s).isSpawnedObject m = false := by
  intro s
  have hs : Accounted pm s :=
    Lib.run_invariant (I := Accounted pm) (fun _ event hs hevent => hs.step event hevent.1 hevent.2)
      (start_accounted pm) h
  refine ⟨hs.counted.count, fun p => UInt32.le_iff_toNat_le.mpr (hs.within p), ?_, ?_⟩
  · intro p m hm hspawned
    exact s.isSpawnedObject_of_counted p (hs.counted.spawned_of_member hm hspawned)
  · intro p q _ hbelow m hm
    obtain ⟨hdespawns, hzero⟩ := despawnPool_despawns hs.counted p
    refine Bool.eq_false_iff.mpr fun hspawned => ?_
    exact hdespawns.counted.spawned_of_member hm hspawned
      (hdespawns.counted.unspawned_below hzero hbelow)

def nestedGroups (kind : Kind) (poolId : UInt32) : PoolGroup where
  equalChanced :=
    match kind with
    | .pool => if poolId = 1 then [2, 4] else if poolId = 2 then [3] else []
    | .gameobject => []
    | .creature => if poolId = 3 then [7] else if poolId = 4 then [8] else []

theorem membersOf_nestedGroups (p : UInt32) : membersOf nestedGroups p =
    if p = 1 then [(.pool, 2), (.pool, 4)] else if p = 2 then [(.pool, 3)]
    else if p = 3 then [(.creature, 7)] else if p = 4 then [(.creature, 8)] else [] := by
  by_cases h1 : p = 1
  · subst h1
    rfl
  · by_cases h2 : p = 2
    · subst h2
      rfl
    · by_cases h3 : p = 3
      · subst h3
        rfl
      · by_cases h4 : p = 4
        · subst h4
          rfl
        · simp [membersOf, nestedGroups, PoolGroup.objects, h1, h2, h3, h4]

theorem mem_nestedGroups {p : UInt32} {m : Member} (h : m ∈ membersOf nestedGroups p) :
    p = 1 ∧ m = (.pool, 2) ∨ p = 1 ∧ m = (.pool, 4) ∨ p = 2 ∧ m = (.pool, 3) ∨
      p = 3 ∧ m = (.creature, 7) ∨ p = 4 ∧ m = (.creature, 8) := by
  rw [membersOf_nestedGroups] at h
  split_ifs at h <;> simp_all

def nestedPools : PoolManager where
  getSpawnCount := fun _ => 1
  groups := nestedGroups
  isPartOfAPool := fun poolId => if poolId = 2 ∨ poolId = 4 then 1 else if poolId = 3 then 2 else 0
  rank := fun poolId => if poolId = 1 then 2 else if poolId = 2 then 1 else 0
  nodup := by
    intro p
    rw [membersOf_nestedGroups]
    split_ifs <;> decide
  unique := by
    intro p q m hp hq
    rcases mem_nestedGroups hp with ⟨rfl, rfl⟩ | ⟨rfl, rfl⟩ | ⟨rfl, rfl⟩ | ⟨rfl, rfl⟩ | ⟨rfl, rfl⟩
    all_goals
      refine Eq.symm ?_
      simpa using mem_nestedGroups hq
  nonzero := by
    intro p m hp
    rcases mem_nestedGroups hp with ⟨rfl, rfl⟩ | ⟨rfl, rfl⟩ | ⟨rfl, rfl⟩ | ⟨rfl, rfl⟩ | ⟨rfl, rfl⟩
    all_goals decide
  mother := by
    intro p child
    constructor
    · intro hp
      have hcases := mem_nestedGroups hp
      simp only [Prod.mk.injEq, true_and, reduceCtorEq, false_and, and_false, or_false] at hcases
      rcases hcases with ⟨rfl, rfl⟩ | ⟨rfl, rfl⟩ | ⟨rfl, rfl⟩
      all_goals decide
    · rintro ⟨hp, rfl⟩
      split_ifs at hp ⊢ with hone htwo
      · rcases hone with rfl | rfl <;> decide
      · subst htwo
        decide
      · exact absurd rfl hp
  acyclic := by
    intro p child hp
    have hcases := mem_nestedGroups hp
    simp only [Prod.mk.injEq, true_and, reduceCtorEq, false_and, and_false, or_false] at hcases
    rcases hcases with ⟨rfl, rfl⟩ | ⟨rfl, rfl⟩ | ⟨rfl, rfl⟩
    all_goals decide
  indexed := by
    intro p
    rw [membersOf_nestedGroups]
    split_ifs <;> decide

def lastPicked : Chance where
  threshold := fun _ => 0
  picked := fun _ => 1
  canBeSpawned := fun _ _ => true
  hasRespawnTime := fun _ _ => false

def replacedEvents : List PoolEvent :=
  [.spawnPool 1, .updatePool .creature 4 8, .updatePool .creature 3 7]

theorem spawns_counted_replaced :
    let s := Lib.run (SpawnedPoolData.step nestedPools lastPicked) {} replacedEvents
    s.isSpawnedObject (.creature, 7) = true ∧ s.isSpawnedObject (.creature, 8) = false ∧
      ∀ p, s.getSpawnedObjects p ≤ nestedPools.getSpawnCount p := by
  have hcalled : Lib.Along (SpawnedPoolData.step nestedPools lastPicked)
      (fun s event => Called nestedPools event ∧ MotherSpawned nestedPools s event) {}
      replacedEvents := by
    refine ⟨⟨?_, trivial⟩, ⟨?_, Or.inl ?_⟩, ⟨?_, Or.inr ?_⟩, trivial⟩
    · exact (by decide +kernel : nestedPools.isPartOfAPool 1 = 0)
    · exact (by decide +kernel : (Kind.creature, (8 : UInt32)) ∈ nestedPools.members 4)
    · decide +kernel
    · exact (by decide +kernel : (Kind.creature, (7 : UInt32)) ∈ nestedPools.members 3)
    · decide +kernel
  exact ⟨by decide +kernel, by decide +kernel,
    (spawns_counted nestedPools lastPicked replacedEvents hcalled).2.1⟩

/-- Pool 2 gets a member though it is not spawned in pool 1, and is marked by that: two members
of pool 1 are spawned, one is counted and one is allowed. -/
theorem unspawned_mother_marked :
    let s := Lib.run (SpawnedPoolData.step nestedPools lastPicked) {}
      [.spawnPool 1, .updatePool .creature 3 7]
    (nestedPools.members 1).countP s.isSpawnedObject = 2 ∧ s.getSpawnedObjects 1 = 1 ∧
      nestedPools.getSpawnCount 1 = 1 := by
  decide +kernel

end Runs

end PoolManager

end TortoiseWow.Pools
