import TortoiseWow.Player.StorageRoute

/-!
What the walk of the search visits: stacks with room and empty slots, of the keyring, the backpack
and the bags that the item goes into.
-/

namespace TortoiseWow.Storing

open Lib

theorem mem_slotRange {first last : Nat} (bounded : last ≤ 256) (j : UInt8) :
    j ∈ slotRange first last ↔ first ≤ j.toNat ∧ j.toNat < last := by
  rw [slotRange, List.mem_map]
  constructor
  · rintro ⟨n, inside, rfl⟩
    obtain ⟨low, high⟩ := List.mem_range'_1.mp inside
    have small : n < 2 ^ 8 := by omega
    rw [UInt8.toNat_ofNat_of_lt' small]
    omega
  · rintro ⟨low, high⟩
    exact ⟨j.toNat, List.mem_range'_1.mpr (by omega), UInt8.ofNat_toNat⟩

theorem mem_slotPlaces {bag : UInt8} {first last : Nat} (bounded : last ≤ 256) (p : Pos) :
    p ∈ slotPlaces bag first last ↔ p.bag = bag ∧ first ≤ p.slot.toNat ∧ p.slot.toNat < last := by
  rw [slotPlaces, List.mem_map]
  constructor
  · rintro ⟨j, inside, rfl⟩
    exact ⟨rfl, (mem_slotRange bounded j).mp inside⟩
  · rintro ⟨rfl, between⟩
    exact ⟨p.slot, (mem_slotRange bounded _).mpr between, rfl⟩

namespace Search

section

variable (s : Search)

def roomAt (p : Pos) : Nat :=
  match s.itemAt p.bag p.slot with
  | none => s.pProto.stackable
  | some item => s.pProto.stackable - item.count

def Offers (place : Pos × Nat) : Prop :=
  place.2 = s.roomAt place.1 ∧
    ∀ item, s.itemAt place.1.bag place.1.slot = some item →
      item.canBeMergedPartlyWith s.pProto = .ok

def keyringPlaces : List Pos := slotPlaces inventorySlotBag0 keyringSlotStart keyringSlotEnd

def backpackPlaces : List Pos :=
  slotPlaces inventorySlotBag0 inventorySlotItemStart inventorySlotItemEnd

end

variable {s : Search}

theorem slotNeed_eq_some {merge : Bool} {p : Pos} {room : Nat} :
    s.slotNeed merge p.bag p.slot = some room ↔ s.Offers (p, room) ∧
        (s.itemAt p.bag p.slot).isSome = merge := by
  unfold slotNeed Offers roomAt
  dsimp only
  cases s.itemAt p.bag p.slot with
  | none =>
      cases merge with
      | true => simp
      | false => simp [eq_comm]
  | some item =>
      cases merge with
      | false => simp
      | true =>
          by_cases merges : item.canBeMergedPartlyWith s.pProto = .ok
          · simp [merges, eq_comm]
          · simp [merges]

theorem mem_visits {merge : Bool} {skips : Pos → Bool} {places : List Pos} {place : Pos × Nat} :
    place ∈ s.visits merge skips places ↔ place.1 ∈ places ∧ skips place.1 = false ∧
        s.Offers place ∧
        (s.itemAt place.1.bag place.1.slot).isSome = merge := by
  rw [visits, List.mem_filterMap]
  constructor
  · rintro ⟨p, inside, found⟩
    split at found
    · cases found
    · rename_i visited
      obtain ⟨room, need, rfl⟩ := Option.map_eq_some_iff.mp found
      obtain ⟨offers, kind⟩ := slotNeed_eq_some.mp need
      exact ⟨inside, Bool.eq_false_of_not_eq_true visited, offers, kind⟩
  · rintro ⟨inside, visited, offers, kind⟩
    refine ⟨place.1, inside, ?_⟩
    rw [visited, if_neg Bool.false_ne_true, slotNeed_eq_some.mpr ⟨offers, kind⟩]
    rfl

theorem mem_carriedVisits {merge nonSpecialized : Bool} {skipBag skipSlot : UInt8}
    {bags : List UInt8} {place : Pos × Nat} :
    place ∈ s.carriedVisits merge nonSpecialized skipBag skipSlot bags ↔ ∃ i ∈ bags, i ≠ skipBag ∧
        s.bagAdmits nonSpecialized i = true ∧
        place ∈ s.visits merge (fun p => p.slot = skipSlot) (s.bagPlaces i) := by
  rw [carriedVisits, List.mem_flatMap]
  refine exists_congr fun i => and_congr_right fun _ => ?_
  by_cases admitted : i ≠ skipBag ∧
      s.bagAdmits nonSpecialized i = true
  · rw [if_pos admitted]
    exact ⟨fun inside => ⟨admitted.1, admitted.2, inside⟩, fun inside => inside.2.2⟩
  · rw [if_neg admitted]
    constructor
    · intro inside
      cases inside
    · rintro ⟨other, admits, -⟩
      exact absurd ⟨other, admits⟩ admitted

theorem goesIntoBag_of_bagAdmits {nonSpecialized : Bool} {i : UInt8}
    (admits : s.bagAdmits nonSpecialized i = true) :
    s.goesIntoBag i = true := by
  rw [goesIntoBag]
  cases nonSpecialized with
  | true => rw [admits, Bool.or_true]
  | false => rw [admits, Bool.true_or]

section

variable (s)

/-- Where a slot lies that a pass over stacks or over empty slots visits. -/
inductive Visited (merge : Bool) (p : Pos) : Prop
  | keyring (inside : p ∈ keyringPlaces) (key : merge = true ∨ s.pProto.bagFamily = bagFamilyKeys)
  | backpack (inside : p ∈ backpackPlaces)
  | bag (i : UInt8) (inside : p ∈ s.bagPlaces i)
      (goes : s.goesIntoBag i = true)

def Found (place : Pos × Nat) : Prop :=
  s.Offers place ∧
    s.Visited
      (s.itemAt place.1.bag place.1.slot).isSome place.1

end

theorem mem_followedBy {first second : Route} {place : Pos × Nat}
    (inside : place ∈ (first.followedBy second).places) :
    place ∈ first.places ∨ place ∈ second.places := by
  cases refused : first.refusal with
  | some result =>
      rw [Route.followedBy_refused _ refused] at inside
      exact .inl inside
  | none =>
      rw [Route.followedBy_free _ refused] at inside
      exact List.mem_append.mp inside

theorem found_of_mem_visits {merge : Bool} {skips : Pos → Bool} {places : List Pos}
    {place : Pos × Nat}
    (inside : place ∈ s.visits merge skips places)
    (visited : place.1 ∈ places → s.Visited merge place.1) :
    s.Found place := by
  obtain ⟨there, -, offers, kind⟩ := mem_visits.mp inside
  exact ⟨offers, kind.symm ▸ visited there⟩

theorem found_in_keyring {merge : Bool} {bag slot : UInt8} {place : Pos × Nat}
    (key : merge = true ∨ s.pProto.bagFamily = bagFamilyKeys)
    (inside : place ∈ s.ownVisits merge bag slot keyringSlotStart keyringSlotEnd) : s.Found place :=
  found_of_mem_visits inside fun there => .keyring there key

theorem found_in_backpack {merge : Bool} {bag slot : UInt8} {place : Pos × Nat}
    (inside : place ∈ s.ownVisits merge bag slot inventorySlotItemStart inventorySlotItemEnd) :
    s.Found place :=
  found_of_mem_visits inside .backpack

theorem found_in_bags {merge nonSpecialized : Bool} {skipBag skipSlot : UInt8}
    {bags : List UInt8} {place : Pos × Nat}
    (inside : place ∈ s.carriedVisits merge nonSpecialized skipBag
      skipSlot bags) : s.Found place := by
  obtain ⟨i, -, -, admits, there⟩ := mem_carriedVisits.mp inside
  exact found_of_mem_visits there fun within => .bag i within (goesIntoBag_of_bagAdmits admits)

theorem found_in_named {bag slot : UInt8} {merge : Bool} {place : Pos × Nat}
    (inside : place ∈ (s.namedBagRoute bag slot merge).places) :
    s.Found place := by
  rw [namedBagRoute] at inside
  split at inside
  · rename_i goes
    exact found_of_mem_visits inside fun within => .bag bag within goes
  · cases inside

theorem found_everywhere {bag slot : UInt8} {place : Pos × Nat}
    (inside : place ∈ s.everywhere bag slot) :
    s.Found place := by
  simp only [everywhere, List.mem_append, List.mem_ite_nil_right] at inside
  rcases inside with ⟨-, ring | pack | ⟨-, special⟩ | plain⟩ |
    ⟨-, ⟨key, ring⟩ | special⟩ | pack | plain
  · exact found_in_keyring (.inl rfl) ring
  · exact found_in_backpack pack
  · exact found_in_bags special
  · exact found_in_bags plain
  · exact found_in_keyring (.inr key) ring
  · exact found_in_bags special
  · exact found_in_backpack pack
  · exact found_in_bags plain

theorem found_in_namedRoute {bag slot : UInt8} {place : Pos × Nat}
    (inside : place ∈ (s.namedRoute bag slot).places) :
    s.Found place := by
  rw [namedRoute] at inside
  split at inside
  · cases inside
  · split at inside
    · simp only [List.mem_append, List.mem_ite_nil_right] at inside
      rcases inside with ⟨-, ring | pack⟩ | ⟨key, ring⟩ | pack
      · exact found_in_keyring (.inl rfl) ring
      · exact found_in_backpack pack
      · exact found_in_keyring (.inr key) ring
      · exact found_in_backpack pack
    · rcases mem_followedBy inside with partly | empty
      · split at partly
        · exact found_in_named partly
        · cases partly
      · exact found_in_named empty

/-- Apart from the slot of the hint, the search comes to slots that it finds fit. -/
theorem hinted_or_found {swap : Bool} {bag slot : UInt8} {place : Pos × Nat}
    (inside : place ∈ (s.route swap bag slot).places) :
    place ∈ (s.hintRoute swap bag slot).places ∨ s.Found place := by
  rcases mem_followedBy inside with hint | later
  · exact .inl hint
  · rcases mem_followedBy later with named | every
    · exact .inr (found_in_namedRoute named)
    · exact .inr (found_everywhere every)

theorem mem_hintRoute {swap : Bool} {bag slot : UInt8} {place : Pos × Nat} :
    place ∈ (s.hintRoute swap bag slot).places ↔ (bag ≠ nullBag ∧ slot ≠ nullSlot) ∧
        (s.hintFit swap bag slot).1 = .ok ∧
        place = (⟨bag, slot⟩, (s.hintFit swap bag slot).2) := by
  rw [hintRoute]
  by_cases hinted : bag ≠ nullBag ∧ slot ≠ nullSlot
  · rw [if_pos hinted]
    dsimp only
    by_cases fits : (s.hintFit swap bag slot).1 = .ok
    · rw [if_neg (not_not_intro fits), List.mem_singleton]
      exact ⟨fun same => ⟨hinted, fits, same⟩, fun inside => inside.2.2⟩
    · rw [if_pos fits]
      exact ⟨fun inside => absurd inside List.not_mem_nil, fun inside => absurd inside.2.1 fits⟩
  · rw [if_neg hinted]
    exact ⟨fun inside => absurd inside List.not_mem_nil, fun inside => absurd inside.1 hinted⟩

/-- The slot of the hint is checked like the others, less for whether a stack belongs there. -/
theorem hint_offers {bag slot : UInt8} {place : Pos × Nat}
    (inside : place ∈ (s.hintRoute false bag slot).places) :
    s.Offers place ∧ (s.itemAt place.1.bag place.1.slot = none →
        s.checkEmptySlot place.1.bag place.1.slot = .ok) := by
  obtain ⟨-, fits, rfl⟩ := mem_hintRoute.mp inside
  unfold Offers roomAt
  unfold hintFit at fits ⊢
  dsimp only
  cases at_slot : s.itemAt bag slot with
  | none =>
      rw [at_slot] at fits
      exact ⟨⟨rfl, fun item same => absurd same (by simp)⟩, fun _ => fits⟩
  | some item =>
      rw [at_slot] at fits
      refine ⟨⟨rfl, fun other same => ?_⟩, fun same => absurd same (by simp)⟩
      cases same
      exact fits

theorem route_offers {bag slot : UInt8} {place : Pos × Nat}
    (inside : place ∈ (s.route false bag slot).places) :
    s.Offers place := by
  rcases hinted_or_found inside with hint | found
  · exact (hint_offers hint).1
  · exact found.1

end Search

end TortoiseWow.Storing
