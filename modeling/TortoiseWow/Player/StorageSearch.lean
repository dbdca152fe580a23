import Mathlib

/-!
Where a player has room for an item: the passes over keyring, backpack and bags that plan how a
count is spread. Counts are `uint32`, those of a planned position `uint8`.
-/

namespace TortoiseWow.Storing

def inventorySlotBag0 : UInt8 := 255
def nullBag : UInt8 := 0
def nullSlot : UInt8 := 255

def inventorySlotBagStart : Nat := 19
def inventorySlotBagEnd : Nat := 23
def inventorySlotItemStart : Nat := 23
def inventorySlotItemEnd : Nat := 39
def bankSlotBagStart : Nat := 63
def bankSlotBagEnd : Nat := 69
def buybackSlotStart : Nat := 69
def buybackSlotEnd : Nat := 81
def keyringSlotStart : Nat := 81
def keyringSlotEnd : Nat := keyringSlotStart + 32
def playerSlotEnd : Nat := 118
def maxBagSize : Nat := 36

def getMaxKeyringSize : Nat := keyringSlotEnd - keyringSlotStart

inductive InventoryResult where
  | ok
  | cantCarryMoreOfThis
  | itemNotFound
  | alreadyLooted
  | dontOwnThatItem
  | itemDoesntGoToSlot
  | itemDoesntGoIntoBag
  | canOnlyDoWithEmptyBags
  | nonemptyBagOverOtherBag
  | itemCantStack
  | itemsCantBeSwapped
  | inventoryFull
  deriving DecidableEq

def itemClassContainer : Nat := 1
def itemClassQuiver : Nat := 11
def itemSubclassContainer : Nat := 0

def bagFamilyKeys : Nat := 9

/-- A template as it is after loading, which sees to the bounds. -/
structure ItemPrototype where
  itemId : Nat
  class_ : Nat := 0
  subClass : Nat := 0
  maxCount : Nat := 0
  stackable : Nat := 1
  containerSlots : Nat := 0
  bagFamily : Nat := 0
  one_le_stackable : 1 ≤ stackable
  stackable_le : stackable ≤ 255
  maxCount_lt : maxCount < 2 ^ 16
  containerSlots_le : containerSlots ≤ maxBagSize

structure Templates where
  get : Nat → Option ItemPrototype
  itemId_of_get : ∀ entry proto, get entry = some proto → proto.itemId = entry

inductive ItemLootUpdateState where
  | none
  | temporary
  | unchanged
  | changed
  | new
  | removed
  deriving DecidableEq

/-- An item, known by its guid. What a bag that is carried contains is kept beside it; of any
other bag it is only known whether there is something in it. -/
structure Item where
  guid : Nat
  entry : Nat
  count : Nat
  lootEmpty : Bool := true
  lootState : ItemLootUpdateState := .none
  owned : Bool := true
  soulBound : Bool := false
  canBeTradedEvenIfSoulBound : Bool := false
  nonEmptyBag : Bool := false
  inTrade : Bool := false
  deriving DecidableEq

namespace Item

def hasGeneratedLoot (item : Item) : Bool :=
  !item.lootEmpty && item.lootState ≠ .none && item.lootState ≠ .removed

def hasTemporaryLoot (item : Item) : Bool := !item.lootEmpty && item.lootState = .temporary

def isBindedNotWith (item : Item) : Bool :=
  if item.owned then false
  else if item.hasGeneratedLoot then true
  else item.soulBound && !item.canBeTradedEvenIfSoulBound

def canBeMergedPartlyWith (item : Item) (proto : ItemPrototype) : InventoryResult :=
  if item.entry ≠ proto.itemId then .itemCantStack
  else if item.count ≥ proto.stackable then .itemCantStack
  else if item.hasGeneratedLoot then .alreadyLooted
  else .ok

end Item

def containerFamily (subClass : Nat) : Option Nat :=
  match subClass with
  | 1 => some 3
  | 2 => some 6
  | 3 => some 7
  | 4 => some 8
  | 6 => some 13
  | 7 => some 12
  | 8 => some 10
  | 9 => some 11
  | _ => none

def quiverFamily (subClass : Nat) : Option Nat :=
  match subClass with
  | 2 => some 1
  | 3 => some 2
  | _ => none

def itemCanGoIntoBag (proto bagProto : ItemPrototype) : Bool :=
  if bagProto.class_ = itemClassContainer then
    if bagProto.subClass = itemSubclassContainer then true
    else containerFamily bagProto.subClass = some proto.bagFamily
  else if bagProto.class_ = itemClassQuiver then
    quiverFamily bagProto.subClass = some proto.bagFamily
  else false

def ItemPrototype.plainContainer (bagProto : ItemPrototype) : Bool :=
  bagProto.class_ = itemClassContainer && bagProto.subClass = itemSubclassContainer

/-- The packed position. -/
structure Pos where
  bag : UInt8
  slot : UInt8
  deriving DecidableEq

/-- What is in the slots, and what is in the bags in them. -/
structure Player where
  items : UInt8 → Option Item
  contents : UInt8 → UInt8 → Option Item

variable (templates : Templates)

/-- The number of slots is set from the template when a bag is made or loaded. -/
def bagSize (bag : Item) : Nat :=
  ((templates.get bag.entry).map ItemPrototype.containerSlots).getD 0

namespace Player

variable (player : Player)

def getItemByPos (bag slot : UInt8) : Option Item :=
  if bag = inventorySlotBag0 ∧ (slot.toNat < bankSlotBagEnd ∨
      (keyringSlotStart ≤ slot.toNat ∧ slot.toNat < keyringSlotEnd)) then
    player.items slot
  else if (inventorySlotBagStart ≤ bag.toNat ∧ bag.toNat < inventorySlotBagEnd) ∨
      (bankSlotBagStart ≤ bag.toNat ∧ bag.toNat < bankSlotBagEnd) then
    match player.items bag with
    | some pBag => if slot.toNat < bagSize templates pBag then player.contents bag slot else none
    | none => none
  else none

def isInventoryPos (bag slot : UInt8) : Bool :=
  (bag = inventorySlotBag0 && slot = nullSlot) ||
  (bag = inventorySlotBag0 && inventorySlotItemStart ≤ slot.toNat &&
    slot.toNat < inventorySlotItemEnd) ||
  (inventorySlotBagStart ≤ bag.toNat && bag.toNat < inventorySlotBagEnd) ||
  (bag = inventorySlotBag0 && keyringSlotStart ≤ slot.toNat && slot.toNat < keyringSlotEnd)

end Player

def slotRange (first last : Nat) : List UInt8 := (List.range' first (last - first)).map UInt8.ofNat

def bagItems (player : Player) (bags : List UInt8) : List Item :=
  bags.flatMap fun i =>
    match player.getItemByPos templates inventorySlotBag0 i with
    | some bag =>
        (slotRange 0 (bagSize templates bag)).filterMap fun j => player.getItemByPos templates i j
    | none => []

def allItems (player : Player) : List Item :=
  (slotRange 0 inventorySlotItemEnd).filterMap
      (player.getItemByPos templates inventorySlotBag0) ++
    (slotRange keyringSlotStart keyringSlotEnd).filterMap
      (player.getItemByPos templates inventorySlotBag0) ++
    bagItems templates player (slotRange inventorySlotBagStart inventorySlotBagEnd) ++
    (slotRange inventorySlotItemEnd bankSlotBagEnd).filterMap
      (player.getItemByPos templates inventorySlotBag0) ++
    bagItems templates player (slotRange bankSlotBagStart bankSlotBagEnd)

def sameItem (item pSrcItem : Option Item) : Bool := item.map Item.guid = pSrcItem.map Item.guid

def getItemCount (player : Player) (entry : Nat) (skipItem : Option Item) : Nat :=
  (((allItems templates player).filter fun item =>
    !sameItem (some item) skipItem && item.entry = entry).map Item.count).sum % 2 ^ 32

structure ItemPosCount where
  pos : Pos
  count : Nat
  deriving DecidableEq

/-- The destinations so far, and what is left of the count. -/
structure Plan where
  dest : List ItemPosCount
  count : Nat
  deriving DecidableEq

def Plan.contains (plan : Plan) (pos : Pos) : Bool := plan.dest.any fun d => d.pos = pos

def Plan.push (plan : Plan) (pos : Pos) (needSpace : Nat) : Plan where
  dest := plan.dest ++ [⟨pos, needSpace % 2 ^ 8⟩]
  count := plan.count - needSpace

/-- What the search returns, with the last argument if it writes that. -/
structure Outcome where
  result : InventoryResult
  dest : List ItemPosCount
  noSpaceCount : Option Nat
  deriving DecidableEq

def canTakeMoreSimilarItems (player : Player) (entry count : Nat) (pItem : Option Item) :
    InventoryResult × Nat :=
  match templates.get entry with
  | none => (.cantCarryMoreOfThis, count)
  | some pProto =>
      if pProto.maxCount > 0 then
        let curcount := getItemCount templates player pProto.itemId pItem
        if (curcount + count) % 2 ^ 32 > pProto.maxCount then
          (.cantCarryMoreOfThis, (count + curcount + 2 ^ 32 - pProto.maxCount) % 2 ^ 32)
        else (.ok, 0)
      else (.ok, 0)

/-- The loop over slots of a bag, which ends when nothing is left. -/
def searchSlots (bag : UInt8) (visit : UInt8 → Option Nat) : List UInt8 → Plan → Plan
  | [], plan => plan
  | j :: rest, plan =>
      match visit j with
      | none => searchSlots bag visit rest plan
      | some needSpace =>
          if plan.contains ⟨bag, j⟩ then searchSlots bag visit rest plan
          else
            let plan := plan.push ⟨bag, j⟩ (min needSpace plan.count)
            if plan.count = 0 then plan else searchSlots bag visit rest plan

/-- A return with what is not stored. -/
def exit (noSimilar : Nat) (result : InventoryResult) (plan : Plan) : Except Outcome Plan :=
  .error ⟨result, plan.dest, some ((plan.count + noSimilar) % 2 ^ 32)⟩

/-- The return if nothing is left. -/
def checkStored (noSimilar : Nat) (plan : Plan) : Except Outcome Plan :=
  if plan.count = 0 then
    if noSimilar = 0 then .error ⟨.ok, plan.dest, none⟩
    else exit noSimilar .cantCarryMoreOfThis plan
  else .ok plan

def passed (noSimilar : Nat) (pass : InventoryResult × Plan) : Except Outcome Plan :=
  if pass.1 ≠ .ok then exit noSimilar pass.1 pass.2 else checkStored noSimilar pass.2

/-- A pass over each of the carried bags; the ones that refuse are passed over. -/
def bagPasses (noSimilar : Nat) (pass : UInt8 → Plan → InventoryResult × Plan) (plan : Plan) :
    Except Outcome Plan :=
  (slotRange inventorySlotBagStart inventorySlotBagEnd).foldlM (fun plan i =>
    if (pass i plan).1 ≠ .ok then .ok (pass i plan).2 else checkStored noSimilar (pass i plan).2)
    plan

structure Search where
  templates : Templates
  player : Player
  pProto : ItemPrototype
  pSrcItem : Option Item

namespace Search

variable (s : Search)

def itemAt (bag slot : UInt8) : Option Item :=
  let pItem2 := s.player.getItemByPos s.templates bag slot
  if sameItem pItem2 s.pSrcItem then none else pItem2

def movesNonEmptyBag : Bool := s.pSrcItem.any Item.nonEmptyBag

def checkEmptySlot (bag slot : UInt8) : InventoryResult :=
  if bag = inventorySlotBag0 then
    if keyringSlotStart ≤ slot.toNat ∧ slot.toNat < keyringSlotStart + getMaxKeyringSize ∧
        s.pProto.bagFamily ≠ bagFamilyKeys then .itemDoesntGoIntoBag
    else if (buybackSlotStart ≤ slot.toNat ∧ slot.toNat < buybackSlotEnd) ∨
        slot.toNat ≥ playerSlotEnd then .itemDoesntGoIntoBag
    else .ok
  else
    match s.player.getItemByPos s.templates inventorySlotBag0 bag with
    | none => .itemDoesntGoIntoBag
    | some pBag =>
        if sameItem (some pBag) s.pSrcItem then .itemDoesntGoIntoBag
        else
          match s.templates.get pBag.entry with
          | none => .itemDoesntGoIntoBag
          | some pBagProto =>
              if slot.toNat ≥ pBagProto.containerSlots then .itemDoesntGoIntoBag
              else if itemCanGoIntoBag s.pProto pBagProto = false then .itemDoesntGoIntoBag
              else .ok

def canStoreItemInSpecificSlot (bag slot : UInt8) (swap : Bool) (plan : Plan) :
    InventoryResult × Plan :=
  let pItem2 := s.itemAt bag slot
  if s.movesNonEmptyBag then (.canOnlyDoWithEmptyBags, plan)
  else
    let fit : InventoryResult × Nat :=
      match pItem2, swap with
      | none, _ | some _, true =>
          (s.checkEmptySlot bag slot, s.pProto.stackable)
      | some item, false => (item.canBeMergedPartlyWith s.pProto, s.pProto.stackable - item.count)
    if fit.1 ≠ .ok then (fit.1, plan)
    else
      let needSpace := min fit.2 plan.count
      if plan.contains ⟨bag, slot⟩ then (.ok, plan) else (.ok, plan.push ⟨bag, slot⟩ needSpace)

/-- What a slot can take in a pass over partly filled stacks, or over empty slots; none if it is
passed over. -/
def slotNeed (merge : Bool) (bag slot : UInt8) : Option Nat :=
  let pItem2 := s.itemAt bag slot
  if pItem2.isSome ≠ merge then none
  else
    match pItem2 with
    | none => some s.pProto.stackable
    | some item =>
        if item.canBeMergedPartlyWith s.pProto ≠ .ok then none
        else some (s.pProto.stackable - item.count)

def canStoreItemInBag (bag : UInt8) (merge nonSpecialized : Bool) (skipBag skipSlot : UInt8)
    (plan : Plan) : InventoryResult × Plan :=
  if bag = skipBag then (.itemDoesntGoIntoBag, plan)
  else
    match s.player.getItemByPos s.templates inventorySlotBag0 bag with
    | none => (.itemDoesntGoIntoBag, plan)
    | some pBag =>
        if sameItem (some pBag) s.pSrcItem then (.itemDoesntGoIntoBag, plan)
        else
          match s.templates.get pBag.entry with
          | none => (.itemDoesntGoIntoBag, plan)
          | some pBagProto =>
              if s.movesNonEmptyBag then (.canOnlyDoWithEmptyBags, plan)
              else if nonSpecialized ≠ pBagProto.plainContainer then (.itemDoesntGoIntoBag, plan)
              else if itemCanGoIntoBag s.pProto pBagProto = false then (.itemDoesntGoIntoBag, plan)
              else
                (.ok, searchSlots bag
                  (fun j =>
                    if j = skipSlot then none
                    else s.slotNeed merge bag j)
                  (slotRange 0 (bagSize s.templates pBag)) plan)

def canStoreItemInInventorySlots (slotBegin slotEnd : Nat) (merge : Bool)
    (skipBag skipSlot : UInt8) (plan : Plan) : InventoryResult × Plan :=
  if s.movesNonEmptyBag then (.canOnlyDoWithEmptyBags, plan)
  else
    (.ok, searchSlots inventorySlotBag0
      (fun j =>
        if inventorySlotBag0 = skipBag ∧ j = skipSlot then none
        else s.slotNeed merge inventorySlotBag0 j)
      (slotRange slotBegin slotEnd) plan)

def inNamedBag (bag slot : UInt8) (merge : Bool) (plan : Plan) : InventoryResult × Plan :=
  let first := s.canStoreItemInBag bag merge false nullBag slot plan
  if first.1 ≠ .ok then
    s.canStoreItemInBag bag merge true nullBag slot first.2
  else first

def searchNamedBag (noSimilar : Nat) (bag slot : UInt8) (plan : Plan) : Except Outcome Plan :=
  let inSlots := s.canStoreItemInInventorySlots
  if bag = nullBag then .ok plan
  else if bag = inventorySlotBag0 then do
    let plan ← (if s.pProto.stackable > 1 then do
        let plan ← passed noSimilar (inSlots keyringSlotStart keyringSlotEnd true bag slot plan)
        passed noSimilar (inSlots inventorySlotItemStart inventorySlotItemEnd true bag slot plan)
      else .ok plan)
    let plan ← (if s.pProto.bagFamily = bagFamilyKeys then
        passed noSimilar (inSlots keyringSlotStart (keyringSlotStart + getMaxKeyringSize) false
          bag slot plan)
      else .ok plan)
    passed noSimilar (inSlots inventorySlotItemStart inventorySlotItemEnd false bag slot plan)
  else do
    let plan ← (if s.pProto.stackable > 1 then
        passed noSimilar (s.inNamedBag bag slot true plan)
      else .ok plan)
    passed noSimilar (s.inNamedBag bag slot false plan)

/-- The part of the search that looks everywhere, less what the other parts have processed. -/
def searchEverywhere (noSimilar : Nat) (bag slot : UInt8) (plan : Plan) :
    Except Outcome Plan := do
  let inSlots := s.canStoreItemInInventorySlots
  let inBag := fun merge nonSpecialized i =>
    s.canStoreItemInBag i merge nonSpecialized bag slot
  let plan ← (if s.pProto.stackable > 1 then do
      let plan ← passed noSimilar (inSlots keyringSlotStart keyringSlotEnd true bag slot plan)
      let plan ←
        passed noSimilar (inSlots inventorySlotItemStart inventorySlotItemEnd true bag slot plan)
      let plan ←
        (if s.pProto.bagFamily ≠ 0 then bagPasses noSimilar (inBag true false) plan else .ok plan)
      bagPasses noSimilar (inBag true true) plan
    else .ok plan)
  let plan ← (if s.pProto.bagFamily ≠ 0 then do
      let plan ← (if s.pProto.bagFamily = bagFamilyKeys then
          passed noSimilar (inSlots keyringSlotStart (keyringSlotStart + getMaxKeyringSize) false
            bag slot plan)
        else .ok plan)
      bagPasses noSimilar (inBag false false) plan
    else .ok plan)
  if s.movesNonEmptyBag then .error ⟨.nonemptyBagOverOtherBag, plan.dest, none⟩
  else do
    let plan ←
      passed noSimilar (inSlots inventorySlotItemStart inventorySlotItemEnd false bag slot plan)
    bagPasses noSimilar (inBag false true) plan

/-- The search for a count that may be taken. -/
def searchRoom (noSimilar : Nat) (bag slot : UInt8) (swap : Bool) (plan : Plan) :
    Except Outcome Plan := do
  let plan ← (if bag ≠ nullBag ∧ slot ≠ nullSlot then
      -- the last field of a slot is the one of the last key
      if bag = inventorySlotBag0 ∧ slot.toNat ≥ keyringSlotEnd then
        .error ⟨.itemDoesntGoToSlot, plan.dest, none⟩
      else
        passed noSimilar
          (s.canStoreItemInSpecificSlot bag slot swap plan)
    else .ok plan)
  let plan ← s.searchNamedBag noSimilar bag slot plan
  s.searchEverywhere noSimilar bag slot plan

end Search

variable (player : Player)

def canStoreItem (bag slot : UInt8) (entry count : Nat) (pItem : Option Item) (swap : Bool) :
    Outcome :=
  match templates.get entry with
  | none => ⟨if swap then .itemsCantBeSwapped else .itemNotFound, [], some count⟩
  | some pProto =>
      if pItem.any Item.hasTemporaryLoot then ⟨.alreadyLooted, [], some count⟩
      else if pItem.any Item.isBindedNotWith then ⟨.dontOwnThatItem, [], some count⟩
      else
        let similar := canTakeMoreSimilarItems templates player entry count pItem
        if similar.1 ≠ .ok ∧ count = similar.2 then ⟨similar.1, [], some similar.2⟩
        else
          let count := if similar.1 ≠ .ok then (count + 2 ^ 32 - similar.2) % 2 ^ 32 else count
          match Search.searchRoom ⟨templates, player, pProto, pItem⟩ similar.2 bag slot swap
            ⟨[], count⟩ with
          | .error outcome => outcome
          | .ok plan => ⟨.inventoryFull, plan.dest, some ((plan.count + similar.2) % 2 ^ 32)⟩

end TortoiseWow.Storing
