import TortoiseWow.Player.StoragePlan

/-!
Whether the search looks at all the slots where an item may be put.
-/

namespace TortoiseWow.Storing

open Lib

namespace Search

section

variable (s : Search)

def storagePlaces : List Pos :=
  keyringPlaces ++ backpackPlaces ++
    (slotRange inventorySlotBagStart inventorySlotBagEnd).flatMap fun i =>
      if s.goesIntoBag i = true then s.bagPlaces i
      else []

/-- Whether the item may be put into such a slot: into a partly filled stack, or into an empty slot
if that is none of the keyring or the item is a key. -/
def mayPut (p : Pos) : Bool :=
  match s.itemAt p.bag p.slot with
  | some item => s.pProto.stackable > 1 && item.canBeMergedPartlyWith s.pProto = .ok
  | none => p ∉ keyringPlaces || s.pProto.bagFamily = bagFamilyKeys

def storageRoom : Nat :=
  ∑ p ∈ ((s.storagePlaces).filter
    (s.mayPut)).toFinset, s.roomAt p

def HintTaken (swap : Bool) (bag slot : UInt8) : Prop :=
  (bag ≠ nullBag → slot ≠ nullSlot →
    (s.hintFit swap bag slot).1 = .ok) ∧
  (bag ≠ nullBag → bag ≠ inventorySlotBag0 →
    s.goesIntoBag bag = true)

/-- No other bag has room in the slot with the number of the hint's. -/
def NothingHidden (bag slot : UInt8) : Prop :=
  ∀ i, i ≠ inventorySlotBag0 → i ≠ bag →
    ⟨i, slot⟩ ∈ s.storagePlaces →
      s.mayPut ⟨i, slot⟩ = false

end

variable {s : Search}

theorem hintRoute_taken {swap : Bool} {bag slot : UInt8}
    (taken : s.HintTaken swap bag slot) :
    (s.hintRoute swap bag slot).refusal = none := by
  rw [hintRoute]
  split
  · rename_i hinted
    dsimp only
    rw [if_neg (not_not_intro (taken.1 hinted.1 hinted.2))]
  · rfl

theorem namedBagRoute_taken {bag : UInt8} (slot : UInt8) (merge : Bool)
    (goes : s.goesIntoBag bag = true) :
    s.namedBagRoute bag slot merge = ⟨s.visits merge (fun p => p.slot = slot)
        (s.bagPlaces bag), none⟩ := by
  rw [namedBagRoute, if_pos goes]

theorem namedRoute_bag {bag : UInt8} (slot : UInt8) (named : bag ≠ nullBag)
    (other : bag ≠ inventorySlotBag0)
    (goes : s.goesIntoBag bag = true) :
    s.namedRoute bag slot = ⟨(if s.pProto.stackable > 1 then s.visits true
          (fun p => p.slot = slot) (s.bagPlaces bag) else []) ++
        s.visits false (fun p => p.slot = slot) (s.bagPlaces bag), none⟩ := by
  rw [namedRoute, if_neg named, if_neg other, namedBagRoute_taken slot _ goes,
    namedBagRoute_taken slot _ goes]
  by_cases merges : s.pProto.stackable > 1
  · rw [if_pos merges, if_pos merges, Route.followedBy_free _ rfl]
  · rw [if_neg merges, if_neg merges, Route.followedBy_free _ rfl]
    rfl

theorem namedRoute_taken {swap : Bool} {bag slot : UInt8}
    (taken : s.HintTaken swap bag slot) :
    (s.namedRoute bag slot).refusal = none := by
  by_cases unnamed : bag = nullBag
  · rw [namedRoute, if_pos unnamed]
    rfl
  · by_cases own : bag = inventorySlotBag0
    · rw [namedRoute, if_neg unnamed, if_pos own]
    · rw [namedRoute_bag slot unnamed own (taken.2 unnamed own)]

theorem route_taken {swap : Bool} {bag slot : UInt8}
    (taken : s.HintTaken swap bag slot) :
    s.route swap bag slot = ⟨(s.hintRoute swap bag slot).places ++
        ((s.namedRoute bag slot).places ++ s.everywhere bag slot), none⟩ := by
  rw [route, Route.followedBy_free _ (hintRoute_taken taken),
    Route.followedBy_free _ (namedRoute_taken taken)]

theorem family_of_special {bagProto : ItemPrototype} (special : bagProto.plainContainer = false)
    (goes : itemCanGoIntoBag s.pProto bagProto = true) : s.pProto.bagFamily ≠ 0 := by
  intro none_of_them
  rw [ItemPrototype.plainContainer] at special
  unfold itemCanGoIntoBag at goes
  split at goes
  · rename_i container
    split at goes
    · rename_i plain
      rw [decide_eq_true container, decide_eq_true plain] at special
      cases special
    · rw [none_of_them] at goes
      unfold containerFamily at goes
      split at goes <;> exact absurd (of_decide_eq_true goes) (by decide)
  · split at goes
    · rw [none_of_them] at goes
      unfold quiverFamily at goes
      split at goes <;> exact absurd (of_decide_eq_true goes) (by decide)
    · cases goes

theorem mayPut_offers {p : Pos} (may : s.mayPut p = true) :
    s.Offers (p, s.roomAt p) := by
  refine ⟨rfl, fun item there => ?_⟩
  dsimp only at there
  rw [mayPut, there] at may
  exact of_decide_eq_true (Bool.and_eq_true_iff.mp may).2

theorem stackable_of_mayPut {p : Pos} (may : s.mayPut p = true)
    (stack : (s.itemAt p.bag p.slot).isSome = true) :
    s.pProto.stackable > 1 := by
  obtain ⟨item, there⟩ := Option.isSome_iff_exists.mp stack
  rw [mayPut, there] at may
  exact of_decide_eq_true (Bool.and_eq_true_iff.mp may).1

theorem key_of_mayPut {p : Pos} (may : s.mayPut p = true)
    (empty : (s.itemAt p.bag p.slot).isSome = false)
    (inside : p ∈ keyringPlaces) : s.pProto.bagFamily = bagFamilyKeys := by
  have there := Option.not_isSome_iff_eq_none.mp (Bool.eq_false_iff.mp empty)
  rw [mayPut, there] at may
  rcases Bool.or_eq_true_iff.mp may with outside | key
  · exact absurd inside (of_decide_eq_true outside)
  · exact of_decide_eq_true key

theorem mem_visits_mayPut {p : Pos} (may : s.mayPut p = true)
    {skips : Pos → Bool} {places : List Pos} (inside : p ∈ places) (visited : skips p = false) :
    (p, s.roomAt p) ∈ s.visits (s.itemAt p.bag p.slot).isSome skips places :=
  mem_visits.mpr ⟨inside, visited, mayPut_offers may, rfl⟩

theorem mem_everywhere_own {bag slot : UInt8} {p : Pos}
    (inside : p ∈ keyringPlaces ∨ p ∈ backpackPlaces)
    (may : s.mayPut p = true) (other : p ≠ ⟨bag, slot⟩) :
    (p, s.roomAt p) ∈ s.everywhere bag slot := by
  have visited : (fun q : Pos => (q.bag = bag && q.slot = slot : Bool)) p = false := by
    refine Bool.eq_false_iff.mpr fun same => other ?_
    obtain ⟨bag_eq, slot_eq⟩ := Bool.and_eq_true_iff.mp same
    exact congrArg₂ Pos.mk (of_decide_eq_true bag_eq) (of_decide_eq_true slot_eq)
  have kinds := fun places there => @mem_visits_mayPut s p may
    (fun q => q.bag = bag && q.slot = slot) places there visited
  have partly := stackable_of_mayPut may
  have key := key_of_mayPut may
  simp only [everywhere, List.mem_append, List.mem_ite_nil_right]
  revert kinds partly key
  cases (s.itemAt p.bag p.slot).isSome with
  | true =>
      intro kinds partly _
      refine .inl ⟨partly rfl, ?_⟩
      rcases inside with ring | pack
      · exact .inl (kinds _ ring)
      · exact .inr (.inl (kinds _ pack))
  | false =>
      intro kinds _ key
      rcases inside with ring | pack
      · have special : s.pProto.bagFamily ≠ 0 := by rw [key rfl ring]; decide
        exact .inr (.inl ⟨special, .inl ⟨key rfl ring, kinds _ ring⟩⟩)
      · exact .inr (.inr (.inl (kinds _ pack)))

theorem mem_everywhere_bag {bag slot i : UInt8} {p : Pos}
    (carried : i ∈ slotRange inventorySlotBagStart inventorySlotBagEnd)
    (inside : p ∈ s.bagPlaces i)
    (goes : s.goesIntoBag i = true)
    (may : s.mayPut p = true) (other : i ≠ bag)
    (visited : p.slot ≠ slot) :
    (p, s.roomAt p) ∈ s.everywhere bag slot := by
  obtain ⟨nonSpecialized, admits⟩ := bagAdmits_of_goesIntoBag goes
  obtain ⟨pBag, pBagProto, -, -, -, kind, fits⟩ := (bagAdmits_iff _ _).mp admits
  have special : nonSpecialized = false → s.pProto.bagFamily ≠ 0 := fun same =>
    family_of_special (kind.symm.trans same) fits
  have found :
    (p, s.roomAt p) ∈ s.carriedVisits (s.itemAt p.bag p.slot).isSome nonSpecialized bag slot
      (slotRange inventorySlotBagStart inventorySlotBagEnd) :=
    mem_carriedVisits.mpr ⟨i, carried, other, admits,
      mem_visits_mayPut may inside (decide_eq_false visited)⟩
  have partly := stackable_of_mayPut may
  simp only [everywhere, List.mem_append, List.mem_ite_nil_right]
  revert found partly
  cases (s.itemAt p.bag p.slot).isSome with
  | true =>
      intro found partly
      refine .inl ⟨partly rfl, .inr (.inr ?_)⟩
      cases nonSpecialized with
      | false => exact .inl ⟨special rfl, found⟩
      | true => exact .inr found
  | false =>
      intro found _
      cases nonSpecialized with
      | false => exact .inr (.inl ⟨special rfl, .inr found⟩)
      | true => exact .inr (.inr (.inr found))

theorem mem_namedRoute_bag {bag slot : UInt8} {p : Pos} (named : bag ≠ nullBag)
    (own : bag ≠ inventorySlotBag0)
    (goes : s.goesIntoBag bag = true)
    (inside : p ∈ s.bagPlaces bag)
    (may : s.mayPut p = true) (visited : p.slot ≠ slot) :
    (p, s.roomAt p) ∈ (s.namedRoute bag slot).places := by
  have found := @mem_visits_mayPut s p may (fun q => q.slot = slot)
    _ inside (decide_eq_false visited)
  have partly := stackable_of_mayPut may
  rw [namedRoute_bag slot named own goes, List.mem_append, List.mem_ite_nil_right]
  revert found partly
  cases (s.itemAt p.bag p.slot).isSome with
  | true => exact fun found partly => .inl ⟨partly rfl, found⟩
  | false => exact fun found _ => .inr found

theorem mem_storagePlaces {p : Pos} :
    p ∈ s.storagePlaces ↔ (p ∈ keyringPlaces ∨ p ∈ backpackPlaces) ∨
        ∃ i ∈ slotRange inventorySlotBagStart inventorySlotBagEnd, s.goesIntoBag i = true ∧
            p ∈ s.bagPlaces i := by
  rw [storagePlaces, List.mem_append, List.mem_append, List.mem_flatMap]
  simp only [List.mem_ite_nil_right]

theorem own_slot {p : Pos} (inside : p ∈ keyringPlaces ∨ p ∈ backpackPlaces) :
    p.bag = inventorySlotBag0 ∧ p.slot ≠ nullSlot := by
  have last : nullSlot.toNat = 255 := by decide
  have ring_end : keyringSlotEnd ≤ 255 := by decide
  have pack_end : inventorySlotItemEnd ≤ 255 := by decide
  rcases inside with ring | pack
  · obtain ⟨here, -, high⟩ := (mem_slotPlaces (by decide) p).mp ring
    refine ⟨here, fun same => ?_⟩
    rw [same] at high
    omega
  · obtain ⟨here, -, high⟩ := (mem_slotPlaces (by decide) p).mp pack
    refine ⟨here, fun same => ?_⟩
    rw [same] at high
    omega

theorem bag_slot {i : UInt8} {p : Pos} (inside : p ∈ s.bagPlaces i) :
    p.bag = i ∧ p.slot ≠ nullSlot := by
  obtain ⟨here, pBag, -, below⟩ := mem_bagPlaces.mp inside
  refine ⟨here, fun same => ?_⟩
  have small := @bagSize_le s pBag
  have last : nullSlot.toNat = 255 := by decide
  have size : maxBagSize ≤ 255 := by decide
  rw [same] at below
  omega

theorem carried_bag {i : UInt8}
    (carried : i ∈ slotRange inventorySlotBagStart inventorySlotBagEnd) :
    i ≠ nullBag ∧ i ≠ inventorySlotBag0 := by
  obtain ⟨low, high⟩ := (mem_slotRange (by decide) i).mp carried
  constructor
  · rintro rfl
    exact absurd low (by decide)
  · rintro rfl
    exact absurd high (by decide)

theorem mem_route {swap : Bool} {bag slot : UInt8}
    (taken : s.HintTaken swap bag slot)
    (nothing_hidden : s.NothingHidden bag slot) {p : Pos}
    (inside : p ∈ s.storagePlaces)
    (may : s.mayPut p = true) :
    p ∈ (s.route swap bag slot).places.map Prod.fst := by
  rw [route_taken taken]
  dsimp only
  rw [List.map_append, List.map_append]
  have hinted : p = ⟨bag, slot⟩ → bag ≠ nullBag → slot ≠ nullSlot →
      p ∈ (s.hintRoute swap bag slot).places.map Prod.fst := by
    rintro rfl named pointed
    exact List.mem_map_of_mem
      (mem_hintRoute.mpr ⟨⟨named, pointed⟩, taken.1 named pointed, rfl⟩)
  rcases mem_storagePlaces.mp inside with own | ⟨i, carried, goes, there⟩
  · obtain ⟨here, pointed⟩ := own_slot own
    by_cases hint : p = ⟨bag, slot⟩
    · subst hint
      refine List.mem_append_left _ (hinted rfl ?_ pointed)
      intro unnamed
      subst unnamed
      exact absurd (show nullBag = inventorySlotBag0 from here) (by decide)
    · refine List.mem_append_right _ (List.mem_append_right _ ?_)
      exact List.mem_map_of_mem (mem_everywhere_own own may hint)
  · obtain ⟨named, other⟩ := carried_bag carried
    obtain ⟨here, pointed⟩ := bag_slot there
    by_cases own : i = bag
    · subst own
      by_cases hint : p.slot = slot
      · have same : p = ⟨i, slot⟩ := congrArg₂ Pos.mk here hint
        exact List.mem_append_left _ (hinted same named (hint ▸ pointed))
      · refine List.mem_append_right _ (List.mem_append_left _ ?_)
        exact List.mem_map_of_mem (mem_namedRoute_bag named other goes there may hint)
    · have visited : p.slot ≠ slot := fun hint => by
        have same : p = ⟨i, slot⟩ := congrArg₂ Pos.mk here hint
        rw [same] at inside may
        rw [nothing_hidden i other own inside] at may
        cases may
      refine List.mem_append_right _ (List.mem_append_right _ ?_)
      exact List.mem_map_of_mem (mem_everywhere_bag carried there goes may own visited)

theorem roomAt_le {swap : Bool} {bag slot : UInt8} {place : Pos × Nat}
    (inside : place ∈ (s.route swap bag slot).places) :
    s.roomAt place.1 ≤ place.2 := by
  rcases hinted_or_found inside with hint | found
  · obtain ⟨-, -, rfl⟩ := mem_hintRoute.mp hint
    unfold roomAt hintFit
    dsimp only
    cases s.itemAt bag slot with
    | none => exact Nat.le_refl _
    | some item =>
        cases swap with
        | false => exact Nat.le_refl _
        | true => exact Nat.sub_le _ _
  · exact Nat.le_of_eq found.1.1.symm

theorem left_le {swap : Bool} {bag slot : UInt8} (count : Nat)
    (taken : s.HintTaken swap bag slot)
    (nothing_hidden : s.NothingHidden bag slot) :
    (Filling.fill ⟨[], count⟩ (s.route swap bag slot).places).left ≤ count - s.storageRoom := by
  have visited : s.storageRoom ≤ s.freeRoom (s.route swap bag slot).places := by
    refine Finset.sum_le_sum_of_subset fun p inside => ?_
    obtain ⟨there, may⟩ := List.mem_filter.mp (List.mem_toFinset.mp inside)
    exact List.mem_toFinset.mpr (mem_route taken nothing_hidden there may)
  have left := Filling.fill_left_le ⟨[], count⟩ fun place inside =>
    @roomAt_le s swap bag slot place inside
  rw [Filling.keys, List.map_nil, List.toFinset_nil, Finset.sdiff_empty] at left
  exact Nat.le_trans left (Nat.sub_le_sub_left visited count)

def EndsStored (search : Except Outcome Plan) : Prop := ∃ dest, search = .error ⟨.ok, dest, none⟩

theorem EndsStored.bind {search : Except Outcome Plan} (ends : EndsStored search)
    (rest : Plan → Except Outcome Plan) : EndsStored (search >>= rest) := by
  obtain ⟨dest, rfl⟩ := ends
  exact ⟨dest, rfl⟩

theorem searchSlots_none_left (bag : UInt8) (visit : UInt8 → Option Nat) (slots : List UInt8)
    {plan : Plan} (none_left : plan.count = 0) :
    (searchSlots bag visit slots plan).count = 0 := by
  induction slots generalizing plan with
  | nil => exact none_left
  | cons j slots ih =>
      rw [searchSlots]
      split
      · exact ih none_left
      · split
        · exact ih none_left
        · dsimp only
          split
          · assumption
          · exact ih (by rw [Plan.push, none_left, Nat.zero_sub])

theorem endsStored_checkStored {plan : Plan} (none_left : plan.count = 0) :
    EndsStored (checkStored 0 plan) :=
      ⟨plan.dest, by rw [checkStored, if_pos none_left, if_pos rfl]⟩

theorem endsStored_inventorySlots (free : s.movesNonEmptyBag = false)
    (slotBegin slotEnd : Nat) (merge : Bool) (skipBag skipSlot : UInt8) {plan : Plan}
    (none_left : plan.count = 0) :
    EndsStored (passed 0 (s.canStoreItemInInventorySlots slotBegin
      slotEnd merge skipBag skipSlot plan)) := by
  rw [canStoreItemInInventorySlots, if_neg (free ▸ Bool.false_ne_true), passed_ok]
  exact endsStored_checkStored (searchSlots_none_left _ _ _ none_left)

theorem endsStored_inNamedBag (free : s.movesNonEmptyBag = false) {bag : UInt8}
    (slot : UInt8) (merge : Bool) (named : bag ≠ nullBag)
    (goes : s.goesIntoBag bag = true) {plan : Plan}
    (none_left : plan.count = 0) :
    EndsStored (passed 0 (s.inNamedBag bag slot merge plan)) := by
  have searched := fun nonSpecialized admits =>
    @canStoreItemInBag_searched s free bag merge nonSpecialized nullBag
      slot named admits
  rw [inNamedBag]
  by_cases special : s.bagAdmits false bag = true
  · obtain ⟨slots, -, pass_eq⟩ := searched false special
    rw [pass_eq, if_neg (not_not_intro rfl), passed_ok]
    exact endsStored_checkStored (searchSlots_none_left _ _ _ none_left)
  · have plain := (Bool.or_eq_true_iff.mp goes).resolve_left special
    obtain ⟨slots, -, pass_eq⟩ := searched true plain
    rw [canStoreItemInBag_refused free merge slot plan
      (.inr (Bool.eq_false_of_not_eq_true special)),
      if_pos (show InventoryResult.itemDoesntGoIntoBag ≠ .ok by decide), pass_eq, passed_ok]
    exact endsStored_checkStored (searchSlots_none_left _ _ _ none_left)

theorem bagPasses_none_left (free : s.movesNonEmptyBag = false) (merge nonSpecialized : Bool)
    (bag slot : UInt8) {plan : Plan} (none_left : plan.count = 0) :
    EndsStored (bagPasses 0 (fun i => s.canStoreItemInBag i merge nonSpecialized bag slot) plan) ∨
      bagPasses 0 (fun i => s.canStoreItemInBag i merge
        nonSpecialized bag slot) plan = .ok plan := by
  rw [bagPasses]
  induction slotRange inventorySlotBagStart inventorySlotBagEnd with
  | nil => exact .inr rfl
  | cons i bags ih =>
      rw [List.foldlM_cons]
      by_cases admitted : i ≠ bag ∧ s.bagAdmits nonSpecialized i = true
      · obtain ⟨slots, -, pass_eq⟩ :=
          canStoreItemInBag_searched free merge slot admitted.1 admitted.2
        rw [pass_eq, if_neg (not_not_intro rfl)]
        exact .inl ((endsStored_checkStored (searchSlots_none_left _ _ _ none_left)).bind _)
      · rw [not_and_or, not_not, Bool.not_eq_true] at admitted
        rw [canStoreItemInBag_refused free merge slot plan admitted,
          if_pos (show InventoryResult.itemDoesntGoIntoBag ≠ .ok by decide), ok_bind]
        exact ih

theorem endsStored_searchEverywhere (free : s.movesNonEmptyBag = false) (bag slot : UInt8)
    {plan : Plan} (none_left : plan.count = 0) :
    EndsStored (s.searchEverywhere 0 bag slot plan) := by
  have own := fun first last merge => @endsStored_inventorySlots s free
    first last merge bag slot plan none_left
  unfold searchEverywhere
  simp only [free, if_neg Bool.false_ne_true]
  by_cases merges : s.pProto.stackable > 1
  · simp only [if_pos merges]
    exact EndsStored.bind (EndsStored.bind (own _ _ _) _) _
  · simp only [if_neg merges, ok_bind]
    by_cases special : s.pProto.bagFamily ≠ 0
    · simp only [if_pos special]
      by_cases key : s.pProto.bagFamily = bagFamilyKeys
      · simp only [if_pos key]
        exact EndsStored.bind (EndsStored.bind (own _ _ _) _) _
      · simp only [if_neg key, ok_bind]
        rcases bagPasses_none_left free false false bag slot none_left with ends | passed_over
        · exact ends.bind _
        · rw [passed_over]
          exact (own _ _ _).bind _
    · simp only [if_neg special, ok_bind]
      exact (own _ _ _).bind _

theorem endsStored_searchNamedBag (free : s.movesNonEmptyBag = false) {bag : UInt8}
    (slot : UInt8) (named : bag ≠ nullBag)
    (goes : bag ≠ inventorySlotBag0 → s.goesIntoBag bag = true)
    {plan : Plan} (none_left : plan.count = 0) :
    EndsStored (s.searchNamedBag 0 bag slot plan) := by
  have slots := fun first last merge => @endsStored_inventorySlots s
    free first last merge bag slot plan none_left
  unfold searchNamedBag
  by_cases own : bag = inventorySlotBag0
  · simp only [if_neg named, if_pos own]
    by_cases merges : s.pProto.stackable > 1
    · simp only [if_pos merges]
      exact EndsStored.bind (EndsStored.bind (slots _ _ _) _) _
    · simp only [if_neg merges, ok_bind]
      by_cases key : s.pProto.bagFamily = bagFamilyKeys
      · simp only [if_pos key]
        exact EndsStored.bind (slots _ _ _) _
      · simp only [if_neg key, ok_bind]
        exact slots _ _ _
  · have bags := fun merge => @endsStored_inNamedBag s free bag slot
      merge named (goes own) plan none_left
    by_cases merges : s.pProto.stackable > 1
    · simp only [if_neg named, if_neg own, if_pos merges]
      exact (bags true).bind _
    · simp only [if_neg named, if_neg own, if_neg merges, ok_bind]
      exact bags false

theorem endsStored_searchRoom (free : s.movesNonEmptyBag = false) {swap : Bool}
    {bag slot : UInt8}
    (within : bag = inventorySlotBag0 → slot ≠ nullSlot → slot.toNat < keyringSlotEnd)
    (taken : s.HintTaken swap bag slot) {plan : Plan}
    (none_left : plan.count = 0) :
    EndsStored (s.searchRoom 0 bag slot swap plan) := by
  unfold searchRoom
  by_cases hinted : bag ≠ nullBag ∧ slot ≠ nullSlot
  · have inside : ¬(bag = inventorySlotBag0 ∧ slot.toNat ≥ keyringSlotEnd) := fun beyond =>
      Nat.not_lt.mpr beyond.2 (within beyond.1 hinted.2)
    have fits := taken.1 hinted.1 hinted.2
    rw [if_pos hinted, if_neg inside, canStoreItemInSpecificSlot_eq free]
    dsimp only
    rw [if_neg (not_not_intro fits)]
    refine EndsStored.bind ?_ _
    split
    · exact endsStored_checkStored none_left
    · refine endsStored_checkStored ?_
      rw [Plan.push, none_left, Nat.zero_sub]
  · simp only [if_neg hinted, ok_bind]
    by_cases unnamed : bag = nullBag
    · rw [searchNamedBag, if_pos unnamed, ok_bind]
      exact endsStored_searchEverywhere free bag slot none_left
    · exact (endsStored_searchNamedBag free slot unnamed (taken.2 unnamed) none_left).bind _

/-- The search says that there is no room for some of what the limit leaves. -/
def ReportsNoRoom (noSimilar : Nat) (outcome : Outcome) : Prop :=
  outcome.result = .inventoryFull ∨ noSimilar < outcome.noSpace

theorem outcome_reports {noSimilar : Nat} {way : Route} {count : Nat}
    (reports : ReportsNoRoom noSimilar (way.outcome noSimilar count)) :
    (Filling.fill ⟨[], count⟩ way.places).left ≠ 0 := by
  intro none_left
  have left_eq : (Plan.ofFilling (Filling.fill ⟨[], count⟩ way.places)).count = 0 := none_left
  unfold ReportsNoRoom Route.outcome at reports
  dsimp only at reports
  rw [left_eq, if_pos rfl] at reports
  split at reports
  · rcases reports with full | more
    · exact InventoryResult.noConfusion full
    · exact Nat.not_lt_zero _ more
  · rcases reports with full | more
    · exact InventoryResult.noConfusion full
    · have less : (0 + noSimilar) % 2 ^ 32 ≤ noSimilar := by
        rw [Nat.zero_add]
        exact Nat.mod_le _ _
      exact Nat.not_lt.mpr less more

theorem searchRoom_beyond {bag slot : UInt8} (swap : Bool) (noSimilar : Nat) (plan : Plan)
    (beyond : bag = inventorySlotBag0 ∧ slot ≠ nullSlot ∧ keyringSlotEnd ≤ slot.toNat) :
    s.searchRoom noSimilar bag slot swap plan = .error ⟨.itemDoesntGoToSlot, plan.dest, none⟩ := by
  obtain ⟨own, pointed, high⟩ := beyond
  have named : bag ≠ nullBag := by
    rw [own]
    decide
  unfold searchRoom
  rw [if_pos ⟨named, pointed⟩, if_pos ⟨own, high⟩]
  rfl

theorem canTakeMoreSimilarItems_result (entry count : Nat)  :
    (canTakeMoreSimilarItems s.templates s.player entry count s.pSrcItem).1 ≠ .inventoryFull := by
  unfold canTakeMoreSimilarItems
  intro full
  split at full
  · cases full
  · dsimp only at full
    split at full
    · split at full
      · cases full
      · cases full
    · cases full

theorem limited_reports {entry count : Nat} (known : s.templates.get entry = some s.pProto)
    (unlooted : s.pSrcItem.any Item.hasTemporaryLoot = false)
    (unbound : s.pSrcItem.any Item.isBindedNotWith = false)
    (limited : (canTakeMoreSimilarItems s.templates s.player entry count s.pSrcItem).1 ≠ .ok ∧
      count = (canTakeMoreSimilarItems s.templates s.player entry count s.pSrcItem).2)
    (bag slot : UInt8) (swap : Bool) :
    ¬ReportsNoRoom (canTakeMoreSimilarItems s.templates s.player entry count s.pSrcItem).2
      (canStoreItem s.templates s.player bag slot entry count s.pSrcItem swap) := by
  unfold canStoreItem
  rw [known]
  dsimp only
  rw [unlooted, if_neg Bool.false_ne_true, unbound, if_neg Bool.false_ne_true, if_pos limited]
  rintro (full | more)
  · exact canTakeMoreSimilarItems_result entry count full
  · exact Nat.lt_irrefl _ more

theorem not_reports {noSimilar : Nat} {result : InventoryResult} (other : result ≠ .inventoryFull)
    (dest : List ItemPosCount) : ¬ReportsNoRoom noSimilar ⟨result, dest, none⟩ := by
  rintro (full | more)
  · exact other full
  · exact Nat.not_lt_zero _ more

theorem nothing_reports {entry : Nat} 
    (searched : ¬refusedOutright s.templates s.player entry 0 s.pSrcItem)
    (known : s.templates.get entry = some s.pProto) (free : s.movesNonEmptyBag = false)
    (limit : (canTakeMoreSimilarItems s.templates s.player entry 0 s.pSrcItem).2 = 0)
    {swap : Bool} {bag slot : UInt8}
    (within : bag = inventorySlotBag0 → slot ≠ nullSlot → slot.toNat < keyringSlotEnd)
    (taken : s.HintTaken swap bag slot) :
    ¬ReportsNoRoom (canTakeMoreSimilarItems s.templates s.player entry 0 s.pSrcItem).2
      (canStoreItem s.templates s.player bag slot entry 0 s.pSrcItem swap) := by
  have allowed : (canTakeMoreSimilarItems s.templates s.player entry 0 s.pSrcItem).1 = .ok := by
    by_contra limited
    exact searched (.inr (.inr (.inr ⟨limited, limit.symm⟩)))
  have none_left : allowance s.templates s.player entry 0 s.pSrcItem = 0 := by
    rw [allowance, if_neg (not_not_intro allowed)]
  obtain ⟨dest, ended⟩ := @endsStored_searchRoom s free swap bag slot within taken
    ⟨[], allowance s.templates s.player entry 0 s.pSrcItem⟩ none_left
  rw [canStoreItem_searched searched known, limit, ended]
  exact not_reports (by decide) dest

theorem full_only_without_room {entry : Nat} (known : s.templates.get entry = some s.pProto)
    {count : Nat} (bounded : count < 2 ^ 32)
    (unlooted : s.pSrcItem.any Item.hasTemporaryLoot = false)
    (unbound : s.pSrcItem.any Item.isBindedNotWith = false) (free : s.movesNonEmptyBag = false)
    (limit : (canTakeMoreSimilarItems s.templates s.player entry count s.pSrcItem).2 ≤ count)
    {swap : Bool} {bag slot : UInt8}
    (taken : s.HintTaken swap bag slot)
    (nothing_hidden : s.NothingHidden bag slot)
    (reports : ReportsNoRoom (canTakeMoreSimilarItems s.templates s.player entry count s.pSrcItem).2
      (canStoreItem s.templates s.player bag slot entry count s.pSrcItem swap)) :
    s.storageRoom +
      (canTakeMoreSimilarItems s.templates s.player entry count s.pSrcItem).2 < count := by
  by_cases limited : (canTakeMoreSimilarItems s.templates s.player entry count s.pSrcItem).1 ≠ .ok ∧
      count = (canTakeMoreSimilarItems s.templates s.player entry count s.pSrcItem).2
  · exact absurd reports (limited_reports known unlooted unbound limited bag slot swap)
  · have searched : ¬refusedOutright s.templates s.player entry count s.pSrcItem := by
      simp only [refusedOutright, known, unlooted, unbound, limited, reduceCtorEq,
        Bool.false_eq_true, or_self, not_false_eq_true]
    by_cases beyond : bag = inventorySlotBag0 ∧ slot ≠ nullSlot ∧ keyringSlotEnd ≤ slot.toNat
    · rw [canStoreItem_searched searched known, searchRoom_beyond swap _ _ beyond] at reports
      exact absurd reports (not_reports (by decide) _)
    · have within : bag = inventorySlotBag0 → slot ≠ nullSlot → slot.toNat < keyringSlotEnd :=
        fun own pointed => Nat.not_le.mp fun high => beyond ⟨own, pointed, high⟩
      by_cases nothing : count = 0
      · subst nothing
        exact absurd reports
          (nothing_reports searched known free (Nat.le_zero.mp limit) within taken)
      · obtain ⟨some_left, -, split⟩ :=
          allowance_cases (Nat.one_le_iff_ne_zero.mpr nothing) bounded searched
        rw [canStoreItem_walk searched known free swap within some_left] at reports
        have left :=
          left_le (allowance s.templates s.player entry count s.pSrcItem) taken nothing_hidden
        have some_over := outcome_reports reports
        omega

end Search

def pebble : ItemPrototype := { trinket with maxCount := 0, maxCount_lt := Nat.two_pow_pos 16 }

def pouch : ItemPrototype :=
  { pebble with
    itemId := 2
    class_ := itemClassContainer
    containerSlots := 1
    containerSlots_le := Nat.le_of_ble_eq_true rfl }

def pebbleAndPouch : Templates where
  get entry := if entry = 1 then some pebble else if entry = 2 then some pouch else none
  itemId_of_get := by
    intro entry proto known
    split at known
    · rename_i one
      cases known
      exact one.symm
    · split at known
      · rename_i two
        cases known
        exact two.symm
      · cases known

/-- The backpack is full of pebbles, the bags are empty. -/
def twoPouches : Player where
  items slot :=
    if slot = 19 ∨ slot = 20 then
      some ⟨slot.toNat, 2, 1, true, .none, true, false, false, false, false⟩
    else if 23 ≤ slot ∧ slot < 39 then
      some ⟨slot.toNat, 1, 1, true, .none, true, false, false, false, false⟩
    else none
  contents _ _ := none

/-- A hint that is refused ends the search with room elsewhere. One that is taken hides the slot
with its number in the other bag: one of two pebbles is left over. -/
theorem room_elsewhere :
    ¬(Search.ReportsNoRoom 0 (canStoreItem pebbleAndPouch emptyHanded 19 0 1 1 none false) →
      (Search.mk pebbleAndPouch emptyHanded pebble none).storageRoom < 1) ∧
    ¬(Search.ReportsNoRoom 0 (canStoreItem pebbleAndPouch twoPouches 19 0 1 2 none false) →
      (Search.mk pebbleAndPouch twoPouches pebble none).storageRoom < 2) := by
  constructor
  · intro complete
    exact absurd (complete (.inr (by decide +kernel))) (by decide +kernel)
  · intro complete
    exact absurd (complete (.inr (by decide +kernel))) (by decide +kernel)

/-- The backpack is full of pebbles but for one slot, and there are a bag of one slot and one of
two: with the hint in the second slot of the second all four slots are found. -/
def pouchAndSack : Player where
  items slot :=
    if slot = 19 then some { guid := 19, entry := 2, count := 1 }
    else if slot = 20 then some { guid := 20, entry := 3, count := 1 }
    else if 23 ≤ slot ∧ slot < 38 then some { guid := slot.toNat, entry := 1, count := 1 }
    else none
  contents _ _ := none

theorem two_le_maxBagSize : 2 ≤ maxBagSize := by decide

def pebblePouchAndSack : Templates where
  get entry :=
    if entry = 3
      then some
        { pouch with itemId := 3, containerSlots := 2, containerSlots_le := two_le_maxBagSize }
    else pebbleAndPouch.get entry
  itemId_of_get := by
    intro entry proto known
    split at known
    · rename_i three
      cases known
      exact three.symm
    · exact pebbleAndPouch.itemId_of_get entry proto known

theorem full_only_without_room_pouchAndSack :
    (Search.mk pebblePouchAndSack pouchAndSack pebble none).storageRoom +
        (canTakeMoreSimilarItems pebblePouchAndSack pouchAndSack 1 6 none).2 < 6 ∧
      canStoreItem pebblePouchAndSack pouchAndSack 20 1 1 6 none false =
        ⟨.inventoryFull, [⟨⟨20, 1⟩, 1⟩, ⟨⟨20, 0⟩, 1⟩, ⟨⟨255, 38⟩, 1⟩, ⟨⟨19, 0⟩, 1⟩], some 2⟩ := by
  have elsewhere : ∀ p ∈ (Search.mk pebblePouchAndSack pouchAndSack pebble none).storagePlaces,
      p.slot = 1 → p.bag = 20 := by decide +kernel
  refine ⟨@Search.full_only_without_room ⟨pebblePouchAndSack, pouchAndSack, pebble, none⟩ 1 rfl 6
    (by decide) rfl rfl rfl (by decide +kernel) false 20 1 ⟨?_, ?_⟩ ?_ (.inr (by decide +kernel)),
    by decide +kernel⟩
  · exact fun _ _ => by decide +kernel
  · exact fun _ _ => by decide +kernel
  · intro i _ other inside
    exact absurd (elsewhere _ inside rfl) other

end TortoiseWow.Storing
