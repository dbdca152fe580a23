import Mathlib

/-!
Spawn pools: which members of a pool are spawned in a map, and how spawning and despawning a
pool go down to its sub-pools. The draws, the exclusion of a member and the saved respawn times
are a `Chance`, asked anew each time.
-/

namespace TortoiseWow.Pools

/-- What a pool has as members: the template parameter of `PoolGroup`. -/
inductive Kind where
  | creature
  | gameobject
  | pool
  deriving Repr, DecidableEq

structure PoolGroup where
  explicitlyChanced : List UInt32 := []
  equalChanced : List UInt32 := []
  deriving Repr, DecidableEq

/-- The members in the order in which they are despawned. -/
def PoolGroup.objects (group : PoolGroup) : List UInt32 :=
  group.equalChanced ++ group.explicitlyChanced

def PoolGroup.isEmpty (group : PoolGroup) : Bool :=
  group.explicitlyChanced.isEmpty && group.equalChanced.isEmpty

abbrev Member := Kind × UInt32

def membersOf (groups : Kind → UInt32 → PoolGroup) (poolId : UInt32) : List Member :=
  (groups .creature poolId).objects.map (.creature, ·) ++
    (groups .gameobject poolId).objects.map (.gameobject, ·) ++
      (groups .pool poolId).objects.map (.pool, ·)

/-- The pools as they were loaded. A pool without a mother pool has 0 for it, so 0 is no pool
and no member; `rank` witnesses that there are no cycles, and the lists are indexed by `int`. -/
structure PoolManager where
  getSpawnCount : UInt32 → UInt32
  groups : Kind → UInt32 → PoolGroup
  isPartOfAPool : UInt32 → UInt32
  rank : UInt32 → Nat
  nodup : ∀ poolId, (membersOf groups poolId).Nodup
  unique : ∀ poolId poolId' m,
    m ∈ membersOf groups poolId → m ∈ membersOf groups poolId' → poolId = poolId'
  nonzero : ∀ poolId m, m ∈ membersOf groups poolId → poolId ≠ 0 ∧ m.2 ≠ 0
  mother : ∀ poolId child,
    (.pool, child) ∈ membersOf groups poolId ↔ poolId ≠ 0 ∧ isPartOfAPool child = poolId
  acyclic : ∀ poolId child, (.pool, child) ∈ membersOf groups poolId → rank child < rank poolId
  indexed : ∀ poolId, (membersOf groups poolId).length < 2 ^ 31

/-- What is drawn, and what the world answers, at each time it is asked. `threshold` is the
first explicit chance that takes the roll below zero; `picked` is the draw of `urand`. -/
structure Chance where
  threshold : Nat → Nat
  picked : Nat → Nat
  canBeSpawned : Nat → Member → Bool
  hasRespawnTime : Nat → Member → Bool

structure SpawnedPoolData where
  mSpawnedCreatures : UInt32 → Bool := fun _ => false
  mSpawnedGameobjects : UInt32 → Bool := fun _ => false
  mSpawnedPools : UInt32 → Option UInt32 := fun _ => none
  now : Nat := 0

namespace SpawnedPoolData

def getSpawnedObjects (spawns : SpawnedPoolData) (poolId : UInt32) : UInt32 :=
  (spawns.mSpawnedPools poolId).getD 0

def isSpawnedObject (spawns : SpawnedPoolData) : Member → Bool
  | (.creature, guid) => spawns.mSpawnedCreatures guid
  | (.gameobject, guid) => spawns.mSpawnedGameobjects guid
  | (.pool, guid) => (spawns.mSpawnedPools guid).isSome

def setSpawnedObjects (spawns : SpawnedPoolData) (poolId count : UInt32) : SpawnedPoolData :=
  { spawns with mSpawnedPools := Function.update spawns.mSpawnedPools poolId (some count) }

def insert (spawns : SpawnedPoolData) : Member → SpawnedPoolData
  | (.creature, guid) =>
      { spawns with mSpawnedCreatures := Function.update spawns.mSpawnedCreatures guid true }
  | (.gameobject, guid) =>
      { spawns with mSpawnedGameobjects := Function.update spawns.mSpawnedGameobjects guid true }
  | (.pool, guid) => spawns.setSpawnedObjects guid 0

def erase (spawns : SpawnedPoolData) : Member → SpawnedPoolData
  | (.creature, guid) =>
      { spawns with mSpawnedCreatures := Function.update spawns.mSpawnedCreatures guid false }
  | (.gameobject, guid) =>
      { spawns with mSpawnedGameobjects := Function.update spawns.mSpawnedGameobjects guid false }
  | (.pool, guid) => { spawns with mSpawnedPools := Function.update spawns.mSpawnedPools guid none }

def addSpawn (spawns : SpawnedPoolData) (m : Member) (poolId : UInt32) : SpawnedPoolData :=
  let spawns := spawns.insert m
  spawns.setSpawnedObjects poolId (spawns.getSpawnedObjects poolId + 1)

def removeSpawn (spawns : SpawnedPoolData) (m : Member) (poolId : UInt32) : SpawnedPoolData :=
  let spawns := spawns.erase m
  let val := spawns.getSpawnedObjects poolId
  spawns.setSpawnedObjects poolId (if val > 0 then val - 1 else val)

def ask (spawns : SpawnedPoolData) : SpawnedPoolData := { spawns with now := spawns.now + 1 }

end SpawnedPoolData

abbrev PoolAction := UInt32 → SpawnedPoolData → SpawnedPoolData

namespace PoolManager

variable (pm : PoolManager) (chance : Chance)

abbrev members (poolId : UInt32) : List Member := membersOf pm.groups poolId

def rollOne (spawns : SpawnedPoolData) (kind : Kind) (group : PoolGroup) (triggerFrom : UInt32) :
    Option UInt32 :=
  -- the triggering object is marked as spawned at this time and can be also rolled
  let spawnable := fun guid => chance.canBeSpawned spawns.now (kind, guid) &&
    (guid = triggerFrom || !spawns.isSpawnedObject (kind, guid))
  match (group.explicitlyChanced.drop (chance.threshold spawns.now)).find? spawnable with
  | some guid => some guid
  | none =>
      let possibleRolls := group.equalChanced.filter spawnable
      possibleRolls[chance.picked spawns.now % possibleRolls.length]?

def on1Object (action : PoolAction) : Member → SpawnedPoolData → SpawnedPoolData
  | (.pool, guid), spawns => action guid spawns
  | _, spawns => spawns

def despawnEntry (despawn : PoolAction) (kind : Kind) (poolId guid : UInt32)
    (spawns : SpawnedPoolData) (entry : UInt32) : SpawnedPoolData :=
  if spawns.isSpawnedObject (kind, entry) ∧ (guid = 0 ∨ entry = guid) then
    (on1Object despawn (kind, entry) spawns).removeSpawn (kind, entry) poolId
  else spawns

def despawnObject (despawn : PoolAction) (kind : Kind) (poolId guid : UInt32)
    (spawns : SpawnedPoolData) : SpawnedPoolData :=
  (pm.groups kind poolId).objects.foldl (despawnEntry despawn kind poolId guid) spawns

def despawnPoolAt : Nat → PoolAction
  | 0 => fun _ spawns => spawns
  | depth + 1 => fun poolId spawns =>
      let spawns := pm.despawnObject (despawnPoolAt depth) .creature poolId 0 spawns
      let spawns := pm.despawnObject (despawnPoolAt depth) .gameobject poolId 0 spawns
      pm.despawnObject (despawnPoolAt depth) .pool poolId 0 spawns

def getPoolObjectRespawnTime (spawns : SpawnedPoolData) (m : Member) : Bool :=
  m.1 ≠ .pool && chance.hasRespawnTime spawns.now m

/-- A member with a respawn time is spawned where it was, while there is room. -/
def loadEntry (spawn : PoolAction) (kind : Kind) (poolId : UInt32)
    (loaded : SpawnedPoolData × Int) (entry : UInt32) : SpawnedPoolData × Int :=
  if loaded.2 ≠ 0 ∧ getPoolObjectRespawnTime chance loaded.1 (kind, entry) then
    (on1Object spawn (kind, entry) (loaded.1.ask.addSpawn (kind, entry) poolId), loaded.2 - 1)
  else (loaded.1.ask, loaded.2)

structure Spawning where
  spawns : SpawnedPoolData
  triggerFrom : UInt32
  lastDespawned : UInt32

/-- One turn of the loop of `SpawnObject`. -/
def spawnOne (spawn despawn : PoolAction) (kind : Kind) (poolId subPool : UInt32)
    (isTriggerSpawned : Bool) (motherPool : UInt32) (state : Spawning) : Spawning :=
  let triggerFrom := if motherPool ≠ 0 then motherPool else state.triggerFrom
  let spawns := state.spawns.ask
  match rollOne chance state.spawns kind (pm.groups kind poolId) triggerFrom with
  | none => ⟨spawns, triggerFrom, state.lastDespawned⟩
  | some guid =>
      if guid = state.lastDespawned then ⟨spawns, triggerFrom, state.lastDespawned⟩
      else if guid = triggerFrom ∧ isTriggerSpawned then ⟨spawns, 0, state.lastDespawned⟩
      else
        let spawns := on1Object spawn (kind, guid) (spawns.addSpawn (kind, guid) poolId)
        if triggerFrom ≠ 0 ∧ isTriggerSpawned then
          -- the trigger is redirected to the sub pool for disposal
          let triggerFrom := if motherPool ≠ 0 then subPool else triggerFrom
          ⟨pm.despawnObject despawn kind poolId triggerFrom spawns, 0, triggerFrom⟩
        else ⟨spawns, if triggerFrom = guid then 0 else triggerFrom, state.lastDespawned⟩

def spawnObject (spawn despawn : PoolAction) (kind : Kind) (poolId triggerFrom : UInt32)
    (motherPool : UInt32) (spawns : SpawnedPoolData) : SpawnedPoolData :=
  let group := pm.groups kind poolId
  let limit := pm.getSpawnCount poolId
  let isTriggerSpawned := spawns.isSpawnedObject (kind, triggerFrom)
  let left := limit - spawns.getSpawnedObjects poolId
  let count := left.toInt32.toInt
  let loaded :=
    if triggerFrom ≠ 0 then (spawns, if isTriggerSpawned then count + 1 else count)
    else if count ≠ 0 ∧ left = limit then
      (if group.explicitlyChanced ≠ [] then group.explicitlyChanced else group.equalChanced).foldl
        (loadEntry chance spawn kind poolId) (spawns, count)
    else (spawns, count)
  (Nat.iterate
    (pm.spawnOne chance spawn despawn kind poolId triggerFrom isTriggerSpawned motherPool)
    loaded.2.toNat ⟨loaded.1, triggerFrom, 0⟩).spawns

def spawnPoolGroup (spawn despawn : PoolAction) (kind : Kind) (poolId guid : UInt32)
    (spawns : SpawnedPoolData) : SpawnedPoolData :=
  if (pm.groups kind poolId).isEmpty then spawns
  else pm.spawnObject chance spawn despawn kind poolId guid
    (if kind = .pool then poolId else 0) spawns

def spawnPoolAt : Nat → PoolAction
  | 0 => fun _ spawns => spawns
  | depth + 1 => fun poolId spawns =>
      let group := pm.spawnPoolGroup chance (spawnPoolAt depth) (pm.despawnPoolAt depth)
      group .creature poolId 0 (group .gameobject poolId 0 (group .pool poolId 0 spawns))

def spawnPool (poolId : UInt32) (spawns : SpawnedPoolData) : SpawnedPoolData :=
  pm.spawnPoolAt chance (pm.rank poolId + 1) poolId spawns

def despawnPool (poolId : UInt32) (spawns : SpawnedPoolData) : SpawnedPoolData :=
  pm.despawnPoolAt (pm.rank poolId + 1) poolId spawns

def updatePool (kind : Kind) (poolId guid : UInt32) (spawns : SpawnedPoolData) : SpawnedPoolData :=
  let motherPoolId := pm.isPartOfAPool poolId
  if motherPoolId ≠ 0 then
    pm.spawnPoolGroup chance (pm.spawnPoolAt chance (pm.rank motherPoolId))
      (pm.despawnPoolAt (pm.rank motherPoolId)) .pool motherPoolId poolId spawns
  else
    pm.spawnPoolGroup chance (pm.spawnPoolAt chance (pm.rank poolId))
      (pm.despawnPoolAt (pm.rank poolId)) kind poolId guid spawns

theorem mem_objects (kind : Kind) (poolId entry : UInt32) :
    entry ∈ (pm.groups kind poolId).objects ↔ (kind, entry) ∈ pm.members poolId := by
  cases kind <;> simp [members, membersOf]

section Depth

variable {pm} {chance} {spawn spawn' despawn despawn' : PoolAction} {poolId : UInt32}
  {depth depth' : Nat}

theorem on1Object_congr {m : Member} {action action' : PoolAction}
    (hm : m ∈ pm.members poolId)
    (h : ∀ child, (.pool, child) ∈ pm.members poolId → action child = action' child) :
    on1Object action m = on1Object action' m := by
  obtain ⟨kind, guid⟩ := m
  cases kind with
  | creature => rfl
  | gameobject => rfl
  | pool =>
      funext spawns
      exact congrFun (h guid hm) spawns

theorem despawnObject_congr
    (h : ∀ child, (.pool, child) ∈ pm.members poolId → despawn child = despawn' child)
    (kind : Kind) (guid : UInt32) (spawns : SpawnedPoolData) :
    pm.despawnObject despawn kind poolId guid spawns =
      pm.despawnObject despawn' kind poolId guid spawns := by
  refine List.foldl_ext _ _ spawns fun spawns entry hentry => ?_
  have hm := (pm.mem_objects kind poolId entry).mp hentry
  simp only [despawnEntry, on1Object_congr hm h]

/-- More depth than the pool has levels below it makes no difference. -/
theorem despawnPoolAt_stable (h : pm.rank poolId < depth) (h' : pm.rank poolId < depth') :
    pm.despawnPoolAt depth poolId = pm.despawnPoolAt depth' poolId := by
  induction depth generalizing poolId depth' with
  | zero => exact absurd h (Nat.not_lt_zero _)
  | succ depth ih =>
      cases depth' with
      | zero => exact absurd h' (Nat.not_lt_zero _)
      | succ depth' =>
          have hsub : ∀ child, (.pool, child) ∈ pm.members poolId →
              pm.despawnPoolAt depth child = pm.despawnPoolAt depth' child := by
            intro child hchild
            have hrank := pm.acyclic poolId child hchild
            exact ih (lt_of_lt_of_le hrank (Nat.lt_succ_iff.mp h))
              (lt_of_lt_of_le hrank (Nat.lt_succ_iff.mp h'))
          funext spawns
          simp only [despawnPoolAt, despawnObject_congr hsub]

theorem rollOne_mem {spawns : SpawnedPoolData} {kind : Kind} {group : PoolGroup}
    {triggerFrom guid : UInt32} (h : rollOne chance spawns kind group triggerFrom = some guid) :
    guid ∈ group.objects := by
  simp only [rollOne] at h
  split at h
  · rename_i found hfound
    cases h
    exact List.mem_append_right _ (List.mem_of_mem_drop (List.mem_of_find?_eq_some hfound))
  · exact List.mem_append_left _ (List.mem_filter.mp (List.mem_of_getElem? h)).1

theorem spawnOne_congr
    (h : ∀ child, (.pool, child) ∈ pm.members poolId → spawn child = spawn' child)
    (h' : ∀ child, (.pool, child) ∈ pm.members poolId → despawn child = despawn' child)
    (kind : Kind) (subPool : UInt32) (isTriggerSpawned : Bool) (motherPool : UInt32) :
    pm.spawnOne chance spawn despawn kind poolId subPool isTriggerSpawned motherPool =
      pm.spawnOne chance spawn' despawn' kind poolId subPool isTriggerSpawned motherPool := by
  funext state
  simp only [spawnOne]
  split
  · rfl
  · rename_i guid hrolled
    have hm := (pm.mem_objects kind poolId guid).mp (rollOne_mem hrolled)
    simp only [on1Object_congr hm h, despawnObject_congr h']

theorem spawnPoolGroup_congr (chance : Chance)
    (h : ∀ child, (.pool, child) ∈ pm.members poolId → spawn child = spawn' child)
    (h' : ∀ child, (.pool, child) ∈ pm.members poolId → despawn child = despawn' child)
    (kind : Kind) (guid : UInt32) (spawns : SpawnedPoolData) :
    pm.spawnPoolGroup chance spawn despawn kind poolId guid spawns =
      pm.spawnPoolGroup chance spawn' despawn' kind poolId guid spawns := by
  have hload : ∀ entries :
    List UInt32, (∀ entry ∈ entries, entry ∈ (pm.groups kind poolId).objects) →
      ∀ loaded, entries.foldl (loadEntry chance spawn kind poolId) loaded =
        entries.foldl (loadEntry chance spawn' kind poolId) loaded := by
    intro entries hentries loaded
    refine List.foldl_ext _ _ loaded fun loaded entry hentry => ?_
    have hm := (pm.mem_objects kind poolId entry).mp (hentries entry hentry)
    simp only [loadEntry, on1Object_congr hm h]
  have hentries : ∀ entry ∈ (if (pm.groups kind poolId).explicitlyChanced ≠ [] then
      (pm.groups kind poolId).explicitlyChanced else (pm.groups kind poolId).equalChanced),
      entry ∈ (pm.groups kind poolId).objects := by
    split
    · exact fun _ => List.mem_append_right _
    · exact fun _ => List.mem_append_left _
  simp only [spawnPoolGroup, spawnObject, spawnOne_congr h h', hload _ hentries]

theorem spawnPoolAt_stable (h : pm.rank poolId < depth) (h' : pm.rank poolId < depth') :
    pm.spawnPoolAt chance depth poolId = pm.spawnPoolAt chance depth' poolId := by
  induction depth generalizing poolId depth' with
  | zero => exact absurd h (Nat.not_lt_zero _)
  | succ depth ih =>
      cases depth' with
      | zero => exact absurd h' (Nat.not_lt_zero _)
      | succ depth' =>
          have hlower : ∀ child, (.pool, child) ∈ pm.members poolId →
              pm.rank child < depth ∧ pm.rank child < depth' := by
            intro child hchild
            have hrank := pm.acyclic poolId child hchild
            exact ⟨lt_of_lt_of_le hrank (Nat.lt_succ_iff.mp h),
              lt_of_lt_of_le hrank (Nat.lt_succ_iff.mp h')⟩
          funext spawns
          simp only [spawnPoolAt]
          have hgroup := spawnPoolGroup_congr chance
            (fun child hchild => ih (hlower child hchild).1 (hlower child hchild).2)
            (fun child hchild => despawnPoolAt_stable (hlower child hchild).1
              (hlower child hchild).2)
          simp only [hgroup]

/-- The recursion ends above the depth that `spawnPool` gives it. -/
theorem spawnPool_levels (poolId : UInt32) (more : Nat) (spawns : SpawnedPoolData) :
    pm.spawnPoolAt chance (pm.rank poolId + 1 + more) poolId spawns =
      pm.spawnPool chance poolId spawns :=
  congrFun (spawnPoolAt_stable (by omega) (by omega)) spawns

end Depth

end PoolManager

inductive PoolEvent where
  | spawnPool (poolId : UInt32)
  | despawnPool (poolId : UInt32)
  | updatePool (kind : Kind) (poolId guid : UInt32)
  deriving Repr, DecidableEq

def SpawnedPoolData.step (pm : PoolManager) (chance : Chance) (spawns : SpawnedPoolData) :
    PoolEvent → SpawnedPoolData
  | .spawnPool poolId => pm.spawnPool chance poolId spawns
  | .despawnPool poolId => pm.despawnPool poolId spawns
  | .updatePool kind poolId guid => pm.updatePool chance kind poolId guid spawns

end TortoiseWow.Pools
