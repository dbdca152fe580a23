import TortoiseWow.Player.Inventory

/-!
A character with nothing but the sixteen slots of the backpack. New items go to
the named slot when it is free and to the first free slot when none is named;
they are not merged into stacks. The laws of `Storage` hold of it, so they can be
satisfied, and commands can be run against it.
-/

namespace TortoiseWow

open Lib

def backpackSlots : List UInt8 :=
  [23, 24, 25, 26, 27, 28, 29, 30, 31, 32, 33, 34, 35, 36, 37, 38]

def posTaken (bags : List Item) (slot : UInt8) : Bool :=
  bags.any (atPos inventorySlotBag0 slot)

def packPos (slot : UInt8) : UInt16 := inventorySlotBag0.toUInt16 * 256 + slot.toUInt16

def equipErrItemCantStack : InventoryResult := .equipErr 19

def backpackCanStore (bags : List Item) (_bag slot : UInt8) (_entry count : UInt32) :
    InventoryResult × ItemPosCountVec :=
  if count = 0 then (.equipErrOk, [])
  else if slot ≠ nullSlot then
    if posTaken bags slot then (equipErrItemCantStack, [])
    else (.equipErrOk, [(packPos slot, count)])
  else
    match backpackSlots.find? fun slot => !posTaken bags slot with
    | some slot => (.equipErrOk, [(packPos slot, count)])
    | none => (.equipErrInventoryFull, [])

def backpackStore (proto : UInt32 → ItemPrototype) (bags : List Item) (dest : ItemPosCountVec)
    (entry : UInt32) (rnd : Int32) : Option (List Item × Nat) :=
  match dest with
  | (pos, count) :: _ =>
      some (bags ++
        [{ bag := inventorySlotBag0, slot := (pos % 256).toUInt8, proto := proto entry,
           count := count, randomPropertiesId := rnd.toUInt32 }], bags.length)
  | [] => none

/-- A positive answer names one position with the whole count, or nothing for nothing. -/
theorem backpackCanStore_ok {bags : List Item} {bag slot : UInt8} {entry count : UInt32}
    {dest : ItemPosCountVec}
    (h : backpackCanStore bags bag slot entry count = (.equipErrOk, dest)) :
    (count = 0 ∧ dest = []) ∨ ∃ pos, dest = [(pos, count)] := by
  unfold backpackCanStore at h
  split_ifs at h with zero named taken
  · exact .inl ⟨zero, (Prod.ext_iff.mp h).2.symm⟩
  · cases h
  · exact .inr ⟨_, (Prod.ext_iff.mp h).2.symm⟩
  · split at h
    · exact .inr ⟨_, (Prod.ext_iff.mp h).2.symm⟩
    · cases h

def backpack (proto : UInt32 → ItemPrototype) (named : ∀ e, (proto e).itemId = e) : Storage where
  canStoreNewItem := backpackCanStore
  storeNewItem := backpackStore proto
  nothing_only_for_zero := by
    intro bags bag slot entry count dest rnd ok none
    obtain ⟨zero, -⟩ | ⟨pos, rfl⟩ := backpackCanStore_ok ok
    · exact zero
    · cases none
  stores_count := by
    intro bags bag slot entry count dest rnd bags' j ok stored
    obtain ⟨-, rfl⟩ | ⟨pos, rfl⟩ := backpackCanStore_ok ok
    · cases stored
    · cases stored
      refine ⟨⟨_, List.getElem?_concat_length⟩, fun e => ?_⟩
      simp [bagCopies, Item.copies, named]

end TortoiseWow
