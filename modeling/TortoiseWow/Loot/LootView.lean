import TortoiseWow.Loot.Grants

/-!
The loot window: what `operator<<(ByteBuffer&, LootView const&)` writes for a viewer. There is
one loop over the shared items, which depends on the permission, and one over each of the
viewer's lists. `writeEach` is a loop that writes a record for some of its elements and counts.
-/

namespace TortoiseWow.Looting

inductive PermissionTypes where
  | all
  | group
  | master
  | roundRobin
  | owner
  | none
  deriving Repr, DecidableEq

/-- `MAX_LOOT_SLOT_TYPE`, the mark of an item that is not shown, is `none` of an `Option`. -/
inductive LootSlotType where
  | allowLoot
  | rollOngoing
  | master
  | locked
  | owner
  deriving Repr, DecidableEq

structure SlotRecord where
  slot : UInt8
  item : LootItem
  slotType : LootSlotType
  deriving Repr, DecidableEq

structure LootPacket where
  gold : UInt32 := 0
  itemsShown : UInt8 := 0
  records : List SlotRecord := []
  deriving Repr, DecidableEq

namespace LootPacket

def write (packet : LootPacket) (record : SlotRecord) : LootPacket :=
  { packet with
    records := packet.records ++ [record]
    itemsShown := packet.itemsShown + 1 }

def writeEach {α : Type} (record : α → Option SlotRecord) (elements : List α)
    (packet : LootPacket) : LootPacket :=
  elements.foldl (fun packet element =>
    match record element with
    | none => packet
    | some record => packet.write record) packet

end LootPacket

def LootItem.getSlotTypeForSharedLoot (item : LootItem) (permission : PermissionTypes)
    (viewer : Looter) (conditionOk : Bool) : Option LootSlotType :=
  if item.isLooted ∨ item.freeforall ∨ (item.conditionId ≠ 0 ∧ conditionOk = false) ∨
      item.allowedForPlayer viewer = false then none
  else
    match permission with
    | .group => some (if item.isBlocked ∨ item.isUnderthreshold then .allowLoot else .rollOngoing)
    | .all | .owner => some .allowLoot
    | .master => some (if item.isUnderthreshold = false then .master else .allowLoot)
    | .roundRobin | .none => none

/-- A player's guid is its low part; `roundRobinPlayer` is 0 for nobody. -/
structure LootView where
  loot : Loot
  gold : UInt32
  roundRobinPlayer : UInt64
  viewer : Looter
  permission : PermissionTypes

namespace LootView

variable (view : LootView)

def entries (map : QuestItemMap) : List QuestItem := (map.find? view.viewer.guid).getD []

def isTurn : Bool :=
  view.roundRobinPlayer = 0 || view.viewer.guid.toUInt64 = view.roundRobinPlayer

def isTurnFor (map : QuestItemMap) : Bool :=
  view.isTurn || (map.find? view.roundRobinPlayer.toUInt32).isNone

def sharedSlotType (item : LootItem) : Option LootSlotType :=
  match view.permission with
  | .group =>
      if item.isBlocked then some .rollOngoing
      else if item.isUnderthreshold = false ∨ view.isTurn then some .allowLoot
      else none
  | .roundRobin => if view.isTurn then some .allowLoot else none
  | .all | .owner => some .allowLoot
  | .master => some .master
  | .none => none

def sharedRecord (i : Nat) : Option SlotRecord :=
  view.loot.items[i]?.bind fun item =>
    if item.isLooted = false ∧ item.freeforall = false ∧ item.allowedForPlayer view.viewer then
      (view.sharedSlotType item).map (SlotRecord.mk (UInt8.ofNat i) item)
    else none

/-- The slots of the quest list come after those of the shared items. -/
def questRecord (entry : QuestItem × Nat) : Option SlotRecord :=
  view.loot.questItems[entry.1.index]?.bind fun item =>
    if entry.1.isLooted ∨ item.isLooted then none
    else if item.freeforall = false ∧ view.isTurnFor view.loot.playerQuestItems = false then none
    else some ⟨UInt8.ofNat (view.loot.items.length + entry.2), item, .allowLoot⟩

def ffaRecord (entry : QuestItem) : Option SlotRecord :=
  view.loot.items[entry.index]?.bind fun item =>
    if entry.isLooted = false ∧ item.isLooted = false then
      some ⟨UInt8.ofNat entry.index, item, .allowLoot⟩
    else none

def conditionalRecord (entry : QuestItem) : Option SlotRecord :=
  view.loot.items[entry.index]?.bind fun item =>
    (item.getSlotTypeForSharedLoot view.permission view.viewer (!entry.isLooted)).bind
      fun slotType =>
        if item.freeforall = false ∧ view.isTurnFor view.loot.playerConditionalItems = false then
          none
        else some ⟨UInt8.ofNat entry.index, item, slotType⟩

/-- The packet; a value that is no permission would end it behind the gold. -/
def packet : LootPacket :=
  if view.permission = .none then {}
  else
    let packet : LootPacket := { gold := view.gold }
    let packet := packet.writeEach view.sharedRecord (List.range view.loot.items.length)
    let packet := packet.writeEach view.questRecord (view.entries view.loot.playerQuestItems).zipIdx
    let packet := packet.writeEach view.ffaRecord (view.entries view.loot.playerFFAItems)
    packet.writeEach view.conditionalRecord (view.entries view.loot.playerConditionalItems)

end LootView

end TortoiseWow.Looting
