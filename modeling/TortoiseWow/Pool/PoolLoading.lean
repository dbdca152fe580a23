import Mathlib

/-!
Loading of the pools of pools: `PoolManager::LoadFromDB` from the point where the creature and
gameobject tables are in, with the removal of circular references and the check of the chances.
What the creature and gameobject tables left (their groups, and the map of each pool) is part
of `PoolTables`. A chance is a rational; `plus` is the addition of two floats.
-/

namespace TortoiseWow.PoolLoading

structure MapEntry where
  id : UInt32
  instanceable : Bool
  deriving Repr, DecidableEq

def poolFlagAutoSpawn : UInt32 := 0x1

structure PoolTemplateData where
  mapEntry : Option MapEntry := none
  maxLimit : UInt32 := 0
  poolFlags : UInt32 := 0
  deriving Repr, DecidableEq

def PoolTemplateData.isAutoSpawn (data : PoolTemplateData) : Bool :=
  data.poolFlags &&& poolFlagAutoSpawn != 0

structure PoolObject (ι : Type) where
  guid : ι
  chance : ℚ
  spawnFlags : UInt32
  exclude : Bool := false
  deriving Repr, DecidableEq

structure PoolGroup (ι : Type) where
  explicitlyChanced : List (PoolObject ι) := []
  equalChanced : List (PoolObject ι) := []
  deriving Repr, DecidableEq

namespace PoolGroup

variable {ι : Type} (plus : ℚ → ℚ → ℚ)

def addEntry (group : PoolGroup ι) (poolitem : PoolObject ι) (maxentries : UInt32) :
    PoolGroup ι :=
  if poolitem.chance ≠ 0 ∧ maxentries = 1 then
    { group with explicitlyChanced := group.explicitlyChanced ++ [poolitem] }
  else
    { group with equalChanced := group.equalChanced ++ [poolitem] }

def checkPool (group : PoolGroup ι) : Bool :=
  if group.equalChanced.isEmpty then
    let chance := group.explicitlyChanced.foldl (fun sum object => plus sum object.chance) 0
    !(chance ≠ 100 && chance ≠ 0)
  else true

/-- The first record of the child in each of the two lists goes. -/
def removeOneRelation [DecidableEq ι] (group : PoolGroup ι) (child : ι) : PoolGroup ι where
  explicitlyChanced := group.explicitlyChanced.eraseP (·.guid = child)
  equalChanced := group.equalChanced.eraseP (·.guid = child)

def guids (group : PoolGroup ι) : List ι :=
  (group.explicitlyChanced ++ group.equalChanced).map (·.guid)

end PoolGroup

structure TemplateRow where
  entry : UInt16
  maxLimit : UInt32
  flags : UInt32
  deriving Repr, DecidableEq

structure PoolRow where
  poolId : UInt16
  motherPool : UInt16
  chance : ℚ
  flags : UInt32
  deriving Repr, DecidableEq

structure PoolTables where
  poolTemplate : List TemplateRow
  poolPool : List PoolRow
  oneRow : (poolPool.map (·.poolId)).Nodup
  creatureGroups : UInt16 → PoolGroup UInt32 := fun _ => {}
  gameobjectGroups : UInt16 → PoolGroup UInt32 := fun _ => {}
  mapEntry : UInt16 → Option MapEntry := fun _ => none

structure PoolManager where
  maxPoolId : UInt16 := 0
  /-- The size of the vector `mPoolTemplate`. -/
  size : Nat := 0
  poolTemplate : UInt16 → PoolTemplateData := fun _ => {}
  creatureGroups : UInt16 → PoolGroup UInt32 := fun _ => {}
  gameobjectGroups : UInt16 → PoolGroup UInt32 := fun _ => {}
  poolPoolGroups : UInt16 → PoolGroup UInt16 := fun _ => {}
  poolSearchMap : UInt16 → Option UInt16 := fun _ => none

namespace PoolManager

variable (plus : ℚ → ℚ → ℚ)

def isAutoSpawn (manager : PoolManager) (poolId : UInt16) : Bool :=
  (manager.poolTemplate poolId).isAutoSpawn

def setTemplate (manager : PoolManager) (poolId : UInt16) (data : PoolTemplateData) :
    PoolManager :=
  { manager with poolTemplate := Function.update manager.poolTemplate poolId data }

def setGroup (manager : PoolManager) (poolId : UInt16) (group : PoolGroup UInt16) : PoolManager :=
  { manager with poolPoolGroups := Function.update manager.poolPoolGroups poolId group }

def clearAutoSpawn (manager : PoolManager) (poolId : UInt16) : PoolManager :=
  let data := manager.poolTemplate poolId
  manager.setTemplate poolId { data with poolFlags := data.poolFlags &&& ~~~poolFlagAutoSpawn }

def checkPool (manager : PoolManager) (poolId : UInt16) : Bool :=
  poolId ≤ manager.maxPoolId && (manager.gameobjectGroups poolId).checkPool plus &&
    (manager.creatureGroups poolId).checkPool plus &&
      (manager.poolPoolGroups poolId).checkPool plus

def checkPoolAndChance (manager : PoolManager) (poolId : UInt16) (chance : ℚ) : Bool :=
  if poolId > manager.maxPoolId then false
  else if chance < 0 ∨ chance > 100 then false
  else true

def checkAndRemember (manager : PoolManager) (mapEntry : MapEntry) (poolId : UInt16) :
    Option PoolManager :=
  let data := manager.poolTemplate poolId
  match data.mapEntry with
  | none => some (manager.setTemplate poolId { data with mapEntry := some mapEntry })
  | some poolMapEntry =>
      if poolMapEntry = mapEntry then some manager
      else if mapEntry.instanceable then none
      else if poolMapEntry.instanceable then none
      else some manager

def loadTemplate (manager : PoolManager) (row : TemplateRow) : PoolManager :=
  manager.setTemplate row.entry
    { manager.poolTemplate row.entry with
      maxLimit := row.maxLimit
      poolFlags := row.flags ||| poolFlagAutoSpawn }

def insertSearch (manager : PoolManager) (child mother : UInt16) : PoolManager :=
  match manager.poolSearchMap child with
  | none =>
      { manager with
        poolSearchMap := Function.update manager.poolSearchMap child (some mother) }
  | some _ => manager

def accepts (manager : PoolManager) (row : PoolRow) : Bool :=
  if row.poolId > manager.maxPoolId then false
  else if row.motherPool = row.poolId then false
  else manager.checkPoolAndChance row.motherPool row.chance

def addRow (manager : PoolManager) (row : PoolRow) : PoolManager :=
  let object : PoolObject UInt16 :=
    { guid := row.poolId, chance := |row.chance|, spawnFlags := row.flags }
  let group := (manager.poolPoolGroups row.motherPool).addEntry object
    (manager.poolTemplate row.motherPool).maxLimit
  -- update top independent pool flag
  ((manager.setGroup row.motherPool group).insertSearch row.poolId row.motherPool).clearAutoSpawn
    row.poolId

def loadPoolRow (manager : PoolManager) (row : PoolRow) : PoolManager :=
  if manager.accepts row then manager.addRow row else manager

def removeLink (manager : PoolManager) (child mother : UInt16) : PoolManager :=
  { manager with
    poolPoolGroups := Function.update manager.poolPoolGroups mother
      ((manager.poolPoolGroups mother).removeOneRelation child)
    poolSearchMap := Function.update manager.poolSearchMap child none }

def checkMaps (manager : PoolManager) (child mother : UInt16) : Option PoolManager :=
  match (manager.poolTemplate child).mapEntry with
  | none => some manager
  | some childMapEntry => manager.checkAndRemember childMapEntry mother

/-- The walk from one pool up to its top: the inner loop of the search for circular references.
`none` means that the fuel was not enough. -/
def walkUp : Nat → Finset UInt16 → UInt16 → PoolManager → Option PoolManager
  | 0, _, _, _ => none
  | fuel + 1, checkedPools, child, manager =>
      match manager.poolSearchMap child with
      | none => some manager
      | some mother =>
          match manager.checkMaps child mother with
          | none => some (manager.removeLink child mother)
          | some manager =>
              if mother ∈ insert child checkedPools then some (manager.removeLink child mother)
              else walkUp fuel (insert child checkedPools) mother manager

def starts (manager : PoolManager) : List UInt16 :=
  (List.range manager.maxPoolId.toNat).map UInt16.ofNat

def removeCircularReferences (fuel : Nat) (manager : PoolManager) : Option PoolManager :=
  manager.starts.foldlM (fun manager start => walkUp fuel ∅ start manager) manager

def checkChance (manager : PoolManager) (poolEntry : UInt16) : PoolManager :=
  if manager.isAutoSpawn poolEntry then
    if !manager.checkPool plus poolEntry then manager.clearAutoSpawn poolEntry else manager
  else manager

/-- `for (uint16 pool_entry = ..; pool_entry < mPoolTemplate.size(); ++pool_entry)`: the counter
has 16 bits, the size has not. -/
def checkChances : Nat → UInt16 → PoolManager → Option PoolManager
  | 0, _, _ => none
  | fuel + 1, poolEntry, manager =>
      if poolEntry.toNat < manager.size then
        checkChances fuel (poolEntry + 1) (manager.checkChance plus poolEntry)
      else some manager

def isPartOfAPool (manager : PoolManager) (poolId : UInt16) : UInt16 :=
  (manager.poolSearchMap poolId).getD 0

def isPartOfTopPool (manager : PoolManager) : Nat → UInt16 → Option UInt16
  | 0, _ => none
  | fuel + 1, dbGuidOrPoolId =>
      let poolId := manager.isPartOfAPool dbGuidOrPoolId
      if poolId ≠ 0 then do
        let topPoolId ← manager.isPartOfTopPool fuel poolId
        if topPoolId ≠ 0 then some topPoolId else some poolId
      else some 0

end PoolManager

namespace PoolTables

/-- `SELECT MAX(entry)`, which `GetUInt16` reads as 0 when there is no row. -/
def maxPoolId (db : PoolTables) : UInt16 := (db.poolTemplate.map (·.entry)).foldr max 0

def templates (db : PoolTables) : PoolManager :=
  db.poolTemplate.foldl PoolManager.loadTemplate
    { maxPoolId := db.maxPoolId
      size := db.maxPoolId.toNat + 1
      poolTemplate := fun poolId => { mapEntry := db.mapEntry poolId }
      creatureGroups := db.creatureGroups
      gameobjectGroups := db.gameobjectGroups }

def linked (db : PoolTables) : PoolManager := db.poolPool.foldl PoolManager.loadPoolRow db.templates

def loadFromDB (plus : ℚ → ℚ → ℚ) (fuel : Nat) (db : PoolTables) : Option PoolManager :=
  if db.poolTemplate.isEmpty then some {}
  else do
    let manager ← db.linked.removeCircularReferences fuel
    manager.checkChances plus fuel 0

end PoolTables

end TortoiseWow.PoolLoading
