import TortoiseWow.Lib.CString
import TortoiseWow.Lib.ListRef

/-!
What a player carries: item stacks with the fields the guild bank copies, and
the bag operations it uses. A bag position holds at most one stack and a stack
knows its own position, so the inventory is the list of its stacks and a pointer
to one is its index.

`Player::CanStoreNewItem` and `Player::StoreNewItem` are parameters. All that is
assumed is that a positive answer stores exactly the requested count of the
requested template, and that nothing is created for a count of zero only.
-/

namespace TortoiseWow

open Lib

def inventorySlotBag0 : UInt8 := 255
def inventorySlotBagStart : UInt8 := 19
def inventorySlotItemStart : UInt8 := 23
def nullBag : UInt8 := 0
def nullSlot : UInt8 := 255

def itemClassConsumable : UInt32 := 0
def itemFlagConjured : UInt32 := 0x2
def itemDynflagBinded : UInt32 := 0x1
def itemDynflagBoa : UInt32 := 0x40000

structure ItemPrototype where
  itemId : UInt32
  name1 : String := ""
  quality : UInt32 := 0
  class_ : UInt32 := 0
  flags : UInt32 := 0
  stackable : UInt32
  duration : UInt32 := 0
  deriving DecidableEq

def ItemPrototype.getMaxStackSize (p : ItemPrototype) : UInt32 := p.stackable

def ItemPrototype.isConjuredConsumable (p : ItemPrototype) : Bool :=
  p.class_ == itemClassConsumable && p.flags &&& itemFlagConjured != 0

structure Enchantment where
  id : UInt32 := 0
  duration : UInt32 := 0
  charges : UInt32 := 0
  deriving DecidableEq

structure Item where
  bag : UInt8
  slot : UInt8
  proto : ItemPrototype
  count : UInt32
  ownerGuid : UInt64 := 0
  creator : UInt64 := 0
  giftCreator : UInt64 := 0
  duration : UInt32 := 0
  spellCharges : List Int32 := [0, 0, 0, 0, 0]
  flags : UInt32 := 0
  enchantments : List Enchantment := [{}, {}, {}, {}, {}, {}, {}]
  randomPropertiesId : UInt32 := 0
  transmogrifyId : UInt32 := 0
  durability : UInt32 := 0
  itemTextId : UInt32 := 0
  generatedLoot : Bool := false
  deriving DecidableEq

def Item.getMaxStackCount (i : Item) : UInt32 := i.proto.getMaxStackSize

def Item.isSoulBound (i : Item) : Bool :=
  i.flags &&& itemDynflagBinded != 0 || i.flags &&& itemDynflagBoa != 0

def Item.getItemRandomPropertyId (i : Item) : Int32 := i.randomPropertiesId.toInt32

/-- The high guids whose counter has 32 bits; every other one has 24. -/
def guidHasEntry (guid : UInt64) : Bool :=
  let high := guid.toNat / 2 ^ 48
  !(high == 0x4000 || high == 0x0000 || high == 0xF100 || high == 0xF101 || high == 0x1FC0)

def guidGetCounter (guid : UInt64) : UInt32 :=
  if guidHasEntry guid then UInt32.ofNat (guid.toNat % 2 ^ 24) else guid.toUInt32

def Item.copies (entry : UInt32) (i : Item) : Nat :=
  if i.proto.itemId = entry then i.count.toNat else 0

def bagCopies (bags : List Item) (entry : UInt32) : Nat := weight (Item.copies entry) bags

def atPos (bag slot : UInt8) (i : Item) : Bool := i.bag == bag && i.slot == slot

def getItemByPos (bags : List Item) (bag slot : UInt8) : Option (Nat × Item) :=
  findRef (atPos bag slot) bags

/-- `Player::DestroyItem`: the stack at the position is gone. -/
def destroyItem (bags : List Item) (bag slot : UInt8) : List Item :=
  match getItemByPos bags bag slot with
  | some (j, _) => bags.eraseIdx j
  | none => bags

def setCount (bags : List Item) (j : Nat) (i : Item) (count : UInt32) : List Item :=
  bags.set j { i with count := count }

inductive InventoryResult where
  | equipErrOk
  | equipErrInventoryFull
  | equipErr (code : UInt8)
  deriving DecidableEq

abbrev ItemPosCountVec := List (UInt16 × UInt32)

/-- The storing half of `Player`, reduced to what the callers rely on. -/
structure Storage where
  canStoreNewItem : List Item → UInt8 → UInt8 → UInt32 → UInt32 →
    InventoryResult × ItemPosCountVec
  storeNewItem : List Item → ItemPosCountVec → UInt32 → Int32 → Option (List Item × Nat)
  nothing_only_for_zero : ∀ bags bag slot entry count dest rnd,
    canStoreNewItem bags bag slot entry count = (.equipErrOk, dest) →
    storeNewItem bags dest entry rnd = none → count = 0
  stores_count : ∀ bags bag slot entry count dest rnd bags' j,
    canStoreNewItem bags bag slot entry count = (.equipErrOk, dest) →
    storeNewItem bags dest entry rnd = some (bags', j) →
    (∃ i, bags'[j]? = some i) ∧
    ∀ e, bagCopies bags' e = bagCopies bags e + if entry = e then count.toNat else 0

theorem bagCopies_set {bags : List Item} {j : Nat} {i : Item} (n : UInt32) (e : UInt32)
    (h : bags[j]? = some i) :
    bagCopies (setCount bags j i n) e + i.copies e =
      bagCopies bags e + if i.proto.itemId = e then n.toNat else 0 :=
  weight_set (Item.copies e) { i with count := n } h

theorem bagCopies_destroyItem {bags : List Item} {bag slot : UInt8} {j : Nat} {i : Item}
    (e : UInt32) (h : getItemByPos bags bag slot = some (j, i)) :
    bagCopies (destroyItem bags bag slot) e + i.copies e = bagCopies bags e := by
  simp only [destroyItem, h]
  exact weight_eraseIdx (Item.copies e) (findRef_get h)

theorem getItemByPos_setCount {bags : List Item} {bag slot : UInt8} {j : Nat} {i : Item}
    (n : UInt32) (h : getItemByPos bags bag slot = some (j, i)) :
    getItemByPos (setCount bags j i n) bag slot = some (j, { i with count := n }) := by
  have found : atPos bag slot i = true := findRef_pred h
  exact findRef_set h found

theorem getItemByPos_pos {bags : List Item} {bag slot : UInt8} {j : Nat} {i : Item}
    (h : getItemByPos bags bag slot = some (j, i)) : i.bag = bag ∧ i.slot = slot := by
  simpa [atPos] using findRef_pred h

theorem bagCopies_ge {bags : List Item} {j : Nat} {i : Item} (h : bags[j]? = some i) :
    i.count.toNat ≤ bagCopies bags i.proto.itemId := by
  simpa [Item.copies, bagCopies] using weight_ge (Item.copies i.proto.itemId) h

end TortoiseWow
