import TortoiseWow.Lib.FixedWidth
import TortoiseWow.Lib.OrderedMap
import TortoiseWow.Lib.Run

/-!
A loot: its items, the quest, free-for-all and conditional items of each player, and how items
are granted by autostore requests, decided rolls and the master looter. What the rest of the
server answers about a player is in `Looter`. `grants` is the record of all items given.
-/

namespace TortoiseWow.Looting

def maxNrLootItems : Nat := 16

def maxNrQuestItems : Nat := 32

/-- A rolled entry of a loot template. `partyLoot` is a flag of the item's prototype. -/
structure LootStoreItem where
  itemid : UInt32
  conditionId : UInt16
  needsQuest : Bool
  partyLoot : Bool
  count : UInt8
  deriving Repr, DecidableEq

structure LootItem where
  itemid : UInt32
  conditionId : UInt16
  count : UInt8
  freeforall : Bool
  needsQuest : Bool
  isLooted : Bool := false
  isBlocked : Bool := false
  isUnderthreshold : Bool := false
  isCounted : Bool := false
  lootOwner : Option UInt32 := none
  deriving Repr, DecidableEq

def LootItem.ofStore (li : LootStoreItem) : LootItem where
  itemid := li.itemid
  conditionId := li.conditionId
  count := li.count
  freeforall := li.partyLoot
  needsQuest := li.needsQuest

/-- A player, and what holds for him at the moment. -/
structure Looter where
  guid : UInt32
  isInWorld : Bool := true
  isConditionSatisfied : UInt16 → Bool := fun _ => true
  hasPrototype : UInt32 → Bool := fun _ => true
  hasQuestForItem : UInt32 → Bool := fun _ => true
  /-- The item starts a quest that he has taken already. -/
  startsTakenQuest : UInt32 → Bool := fun _ => false

def LootItem.allowedForPlayer (item : LootItem) (player : Looter) : Bool :=
  if item.conditionId ≠ 0 ∧ player.isConditionSatisfied item.conditionId = false then false
  else if player.hasPrototype item.itemid = false then false
  else if item.needsQuest ∧ player.hasQuestForItem item.itemid = false then false
  else if item.needsQuest = false ∧ player.startsTakenQuest item.itemid then false
  else
    match item.lootOwner with
    | some owner => player.guid = owner
    | none => true

structure QuestItem where
  index : Nat
  isLooted : Bool := false
  deriving Repr, DecidableEq

abbrev QuestItemMap := Lib.OrderedMap UInt32 (List QuestItem)

inductive Slot where
  | item (index : Nat)
  | questItem (index : Nat)
  deriving Repr, DecidableEq

structure Grant where
  player : UInt32
  slot : Slot
  deriving Repr, DecidableEq

structure Loot where
  items : List LootItem := []
  questItems : List LootItem := []
  playerQuestItems : QuestItemMap := .empty
  playerFFAItems : QuestItemMap := .empty
  playerConditionalItems : QuestItemMap := .empty
  unlootedCount : UInt8 := 0
  allowedLooters : List UInt32 := []
  /-- The slots that are rolled for. -/
  rolls : List Nat := []
  grants : List Grant := []

inductive RollOutcome where
  | won (winner : UInt32) (canStore stores : Bool)
  /-- The winner is gone, with a need roll or a greed roll. -/
  | gone (winner : UInt32) (isNeed : Bool)
  | allPassed
  deriving Repr, DecidableEq

namespace Loot

def addItem (loot : Loot) (item : LootStoreItem) : Loot :=
  if item.needsQuest then
    if loot.questItems.length < maxNrQuestItems then
      { loot with questItems := loot.questItems ++ [LootItem.ofStore item] }
    else loot
  else if loot.items.length < maxNrLootItems then
    { loot with
      items := loot.items ++ [LootItem.ofStore item]
      unlootedCount := if item.conditionId = 0 ∧ item.partyLoot = false then loot.unlootedCount + 1
        else loot.unlootedCount }
  else loot

def fillFFALoot (loot : Loot) (player : Looter) : Loot :=
  if player.isInWorld = false then loot
  else
    let ql := ((List.range loot.items.length).filter fun i => loot.items[i]?.any fun item =>
      item.isLooted = false ∧ item.freeforall ∧ item.allowedForPlayer player).map
        (QuestItem.mk · false)
    if ql = [] then loot
    else
      { loot with
        unlootedCount := loot.unlootedCount + UInt8.ofNat ql.length
        playerFFAItems := loot.playerFFAItems.assign player.guid ql }

def fillQuestFrom (player : Looter) : List Nat → Loot → List QuestItem → Loot × List QuestItem
  | [], loot, ql => (loot, ql)
  | i :: rest, loot, ql =>
      match loot.questItems[i]? with
      | none => fillQuestFrom player rest loot ql
      | some item =>
          if item.isLooted = false ∧ item.allowedForPlayer player then
            let ql := ql ++ [QuestItem.mk i false]
            let loot := { loot with
              unlootedCount := if item.freeforall ∨ item.isBlocked = false
                then loot.unlootedCount + 1
                else loot.unlootedCount
              questItems := loot.questItems.modify i fun item => { item with isBlocked := true } }
            if loot.items.length + ql.length = maxNrLootItems then (loot, ql)
            else fillQuestFrom player rest loot ql
          else fillQuestFrom player rest loot ql

def fillQuestLoot (loot : Loot) (player : Looter) : Loot :=
  if player.isInWorld = false then loot
  else if loot.items.length = maxNrLootItems then loot
  else
    let filled := fillQuestFrom player (List.range loot.questItems.length) loot []
    if filled.2 = [] then filled.1
    else
      { filled.1 with
        playerQuestItems := filled.1.playerQuestItems.assign player.guid filled.2 }

def fillConditionalFrom (player : Looter) : List Nat → Loot → List QuestItem → Loot × List QuestItem
  | [], loot, ql => (loot, ql)
  | i :: rest, loot, ql =>
      match loot.items[i]? with
      | none => fillConditionalFrom player rest loot ql
      | some item =>
          if item.isLooted = false ∧ item.freeforall = false ∧ item.conditionId ≠ 0 ∧
              item.allowedForPlayer player then
            fillConditionalFrom player rest
              { loot with
                unlootedCount := if item.isCounted = false then loot.unlootedCount + 1
                  else loot.unlootedCount
                items := loot.items.modify i fun item => { item with isCounted := true } }
              (ql ++ [QuestItem.mk i false])
          else fillConditionalFrom player rest loot ql

def fillNonQuestNonFFAConditionalLoot (loot : Loot) (player : Looter) : Loot :=
  if player.isInWorld = false then loot
  else
    let filled := fillConditionalFrom player (List.range loot.items.length) loot []
    if filled.2 = [] then filled.1
    else
      { filled.1 with
        playerConditionalItems := filled.1.playerConditionalItems.assign player.guid filled.2 }

def fillNotNormalLootFor (loot : Loot) (player : Looter) : Loot :=
  let loot := { loot with allowedLooters :=
    if player.isInWorld then loot.allowedLooters ++ [player.guid] else loot.allowedLooters }
  let loot := match loot.playerQuestItems.find? player.guid with
    | none => loot.fillQuestLoot player
    | some _ => loot
  let loot := match loot.playerFFAItems.find? player.guid with
    | none => loot.fillFFALoot player
    | some _ => loot
  match loot.playerConditionalItems.find? player.guid with
    | none => loot.fillNonQuestNonFFAConditionalLoot player
    | some _ => loot

def markUnderthreshold (loot : Loot) (isUnder : UInt32 → Bool) : Loot :=
  { loot with items := loot.items.map fun item =>
    { item with isUnderthreshold := item.isUnderthreshold || isUnder item.itemid } }

def processed (rolled : List LootStoreItem) : Loot := rolled.foldl addItem {}

/-- `FillLoot`, for the owner alone or for the members of his group who are near. -/
def fillLoot (rolled : List LootStoreItem) (looters : List Looter) (isUnder : UInt32 → Bool) :
    Loot :=
  (looters.foldl fillNotNormalLootFor (processed rolled)).markUnderthreshold isUnder

def entryOf (map : QuestItemMap) (playerGuid : UInt32) (index : Nat) : Option QuestItem :=
  (map.find? playerGuid).bind (·.find? (·.index = index))

inductive Found where
  | quest (questSlot index : Nat)
  | ffa
  | conditional
  | shared
  deriving Repr, DecidableEq

def lootItemInSlot (loot : Loot) (lootSlot : Nat) (playerGuid : UInt32) :
    Option (Found × LootItem) :=
  match loot.items[lootSlot]? with
  | none =>
      let questSlot := lootSlot - loot.items.length
      match (loot.playerQuestItems.find? playerGuid).bind (·[questSlot]?) with
      | none => none
      | some qitem =>
          match loot.questItems[qitem.index]? with
          | none => none
          | some item =>
              if item.isLooted ∨ qitem.isLooted then none
              else some (.quest questSlot qitem.index, item)
  | some item =>
      if item.freeforall then
        match entryOf loot.playerFFAItems playerGuid lootSlot with
        | some ffaitem => if ffaitem.isLooted then none else some (.ffa, item)
        | none => if item.isLooted then none else some (.shared, item)
      else if item.isLooted then none
      else if item.conditionId = 0 then some (.shared, item)
      else
        match entryOf loot.playerConditionalItems playerGuid lootSlot with
        | some conditem => if conditem.isLooted then none else some (.conditional, item)
        | none => some (.shared, item)

def markEntry (map : QuestItemMap) (playerGuid : UInt32) (index : Nat) : QuestItemMap :=
  match map.find? playerGuid with
  | none => map
  | some ql => map.assign playerGuid
      (ql.map fun q => if q.index = index then { q with isLooted := true } else q)

def setLooted (items : List LootItem) (index : Nat) : List LootItem :=
  items.modify index fun item => { item with isLooted := true }

def mark (loot : Loot) (playerGuid : UInt32) (lootSlot : Nat) (found : Found) (item : LootItem) :
    Loot :=
  match found with
  | .quest _ index =>
      { loot with
        playerQuestItems := markEntry loot.playerQuestItems playerGuid index
        questItems := if item.freeforall then loot.questItems else setLooted loot.questItems index }
  | .ffa => { loot with playerFFAItems := markEntry loot.playerFFAItems playerGuid lootSlot }
  | .conditional =>
      { loot with
        playerConditionalItems := markEntry loot.playerConditionalItems playerGuid lootSlot
        items := setLooted loot.items lootSlot }
  | .shared =>
      { loot with items := if item.freeforall then loot.items else setLooted loot.items lootSlot }

def Found.slot (found : Found) (lootSlot : Nat) : Slot :=
  match found with
  | .quest _ index => .questItem index
  | _ => .item lootSlot

def Found.isQuest : Found → Bool
  | .quest _ _ => true
  | _ => false

/-- An autostore request. `isMasterLooted` says that the loot is a creature's and the player's
group has a master looter, `canStore` and `stores` what the inventory answers. -/
def autostore (loot : Loot) (player : Looter) (lootSlot : UInt8)
    (isMasterLooted canStore stores : Bool) : Loot :=
  match loot.lootItemInSlot lootSlot.toNat player.guid with
  | none => loot
  | some (found, item) =>
      if item.allowedForPlayer player = false then loot
      else if found.isQuest = false ∧ item.isBlocked then loot
      else if isMasterLooted ∧ item.isUnderthreshold = false ∧ found.isQuest = false ∧
          found ≠ .ffa then loot
      else if canStore = false then loot
      -- an item is not created at zero count
      else if stores = false ∨ item.count = 0 then loot
      else
        let loot := loot.mark player.guid lootSlot.toNat found item
        { loot with
          unlootedCount := loot.unlootedCount - 1
          grants := loot.grants ++ [⟨player.guid, found.slot lootSlot.toNat⟩] }

def startLootRoll (loot : Loot) (itemSlot : Nat) : Loot :=
  { loot with
    items := loot.items.modify itemSlot fun item => { item with isBlocked := true }
    rolls := loot.rolls ++ [itemSlot] }

def groupLoot (loot : Loot) (hasRollers : Nat → Bool) : Loot :=
  ((List.range loot.items.length).filter fun slot =>
    loot.items[slot]?.any (·.freeforall = false) && hasRollers slot).foldl startLootRoll loot

def updateItem (loot : Loot) (slot : Nat) (f : LootItem → LootItem) : Loot :=
  { loot with items := loot.items.modify slot f }

def giveTo (loot : Loot) (player : UInt32) (slot : Nat) (stores : Bool) (f : LootItem → LootItem) :
    Loot :=
  let loot := loot.updateItem slot fun item => { f item with isLooted := true }
  { loot with
    unlootedCount := loot.unlootedCount - 1
    grants := if stores then loot.grants ++ [⟨player, .item slot⟩] else loot.grants }

def countTheRoll (loot : Loot) (slot : Nat) (outcome : RollOutcome) : Loot :=
  if slot ∉ loot.rolls then loot
  else
    let loot := { loot with rolls := loot.rolls.erase slot }
    match loot.items[slot]? with
    | none => loot
    | some item =>
        match outcome with
        | .won winner canStore stores =>
            if canStore then loot.giveTo winner slot (stores && item.count ≠ 0) id
            else loot.updateItem slot fun item =>
              { item with isBlocked := false, lootOwner := some winner }
        | .gone winner isNeed =>
            if isNeed then loot.updateItem slot fun item => { item with lootOwner := some winner }
            else loot
        | .allPassed => loot.updateItem slot fun item => { item with isBlocked := false }

def masterGive (loot : Loot) (slotid : UInt8) (target : UInt32) (canStore stores : Bool) : Loot :=
  match loot.items[slotid.toNat]? with
  | none => loot
  | some item =>
      if target ∉ loot.allowedLooters then loot
      else if canStore = false then loot
      else loot.giveTo target slotid.toNat (stores && item.count ≠ 0) fun item =>
        { item with count := 0 }

end Loot

inductive LootEvent where
  | fillNotNormalLootFor (player : Looter)
  | markUnderthreshold (isUnder : UInt32 → Bool)
  | groupLoot (hasRollers : Nat → Bool)
  | autostore (player : Looter) (lootSlot : UInt8) (isMasterLooted canStore stores : Bool)
  | countTheRoll (slot : Nat) (outcome : RollOutcome)
  | masterGive (slotid : UInt8) (target : UInt32) (canStore stores : Bool)

def Loot.step (loot : Loot) : LootEvent → Loot
  | .fillNotNormalLootFor player => loot.fillNotNormalLootFor player
  | .markUnderthreshold isUnder => loot.markUnderthreshold isUnder
  | .groupLoot hasRollers => loot.groupLoot hasRollers
  | .autostore player lootSlot isMasterLooted canStore stores =>
      loot.autostore player lootSlot isMasterLooted canStore stores
  | .countTheRoll slot outcome => loot.countTheRoll slot outcome
  | .masterGive slotid target canStore stores => loot.masterGive slotid target canStore stores

end TortoiseWow.Looting
