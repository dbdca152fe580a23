import TortoiseWow.Player.StoragePlaces

/-!
When a plan can be carried out: its slots take what it puts there, and what it does not put
anywhere is accounted for.
-/

namespace TortoiseWow.Storing

open Lib

/-- What is in the variable of the caller in the end, which starts with 0. -/
def Outcome.noSpace (outcome : Outcome) : Nat := outcome.noSpaceCount.getD 0

def planned (dest : List ItemPosCount) : Nat := (dest.map ItemPosCount.count).sum

def Search.WellPlaced (s : Search) (p : Pos) : Prop :=
  p.bag = inventorySlotBag0 ∧ inventorySlotItemStart ≤ p.slot.toNat ∧
      p.slot.toNat < inventorySlotItemEnd ∨
    p.bag = inventorySlotBag0 ∧ s.pProto.bagFamily = bagFamilyKeys ∧
      keyringSlotStart ≤ p.slot.toNat ∧ p.slot.toNat < keyringSlotStart + getMaxKeyringSize ∨
    ∃ pBag pBagProto, s.player.getItemByPos s.templates inventorySlotBag0 p.bag = some pBag ∧
      s.templates.get pBag.entry = some pBagProto ∧ p.slot.toNat < pBagProto.containerSlots ∧
      itemCanGoIntoBag s.pProto pBagProto = true

variable (templates : Templates) (player : Player)

structure Executable (entry count : Nat) (pItem : Option Item) (outcome : Outcome) : Prop where
  nodup : (outcome.dest.map ItemPosCount.pos).Nodup
  fits : ∀ pProto, templates.get entry = some pProto → ∀ d ∈ outcome.dest, ∀ item,
    Search.itemAt ⟨templates, player, pProto, pItem⟩ d.pos.bag d.pos.slot = some item →
      item.canBeMergedPartlyWith pProto = .ok ∧ item.count + d.count ≤ pProto.stackable
  placed : ∀ pProto, templates.get entry = some pProto → ∀ d ∈ outcome.dest,
    Search.WellPlaced ⟨templates, player, pProto, pItem⟩ d.pos
  accounted : planned outcome.dest + outcome.noSpace = count
  ok_iff : outcome.result = .ok ↔ planned outcome.dest = count

def validHint (bag slot : UInt8) : Prop :=
  bag = nullBag ∧ slot = nullSlot ∨ Player.isInventoryPos bag slot = true

variable {templates player}

theorem executable_nothing {entry count : Nat} (one : 1 ≤ count) {pItem : Option Item}
    {result : InventoryResult} (refused : result ≠ .ok) :
    Executable templates player entry count pItem ⟨result, [], some count⟩ where
  nodup := List.nodup_nil
  fits := fun _ _ d inside => absurd inside List.not_mem_nil
  placed := fun _ _ d inside => absurd inside List.not_mem_nil
  accounted := Nat.zero_add count
  ok_iff := by
    constructor
    · intro stored
      exact absurd stored refused
    · intro none_asked
      have none_planned : planned [] = 0 := rfl
      change planned [] = count at none_asked
      omega

theorem executable_of_refusedOutright {entry count : Nat} (one : 1 ≤ count)
    {pItem : Option Item} (bag slot : UInt8)
    (refused : refusedOutright templates player entry count pItem) :
    Executable templates player entry count pItem
      (canStoreItem templates player bag slot entry count pItem false) := by
  unfold canStoreItem
  cases known : templates.get entry with
  | none =>
      have notFound : (if false = true then InventoryResult.itemsCantBeSwapped
          else .itemNotFound) ≠ .ok := by decide
      exact executable_nothing one notFound
  | some pProto =>
      dsimp only
      by_cases looted : pItem.any Item.hasTemporaryLoot = true
      · rw [if_pos looted]
        exact executable_nothing one (by decide)
      · rw [if_neg looted]
        by_cases bound : pItem.any Item.isBindedNotWith = true
        · rw [if_pos bound]
          exact executable_nothing one (by decide)
        · rw [if_neg bound]
          have unknown : ¬templates.get entry = none := fun missing => by
            rw [known] at missing
            cases missing
          have limited := ((refused.resolve_left unknown).resolve_left looted).resolve_left bound
          rw [if_pos limited, ← limited.2]
          exact executable_nothing one limited.1

theorem canTakeMoreSimilarItems_ok {entry count : Nat} {pItem : Option Item}
    (known : templates.get entry ≠ none)
    (allowed : (canTakeMoreSimilarItems templates player entry count pItem).1 = .ok) :
    (canTakeMoreSimilarItems templates player entry count pItem).2 = 0 := by
  unfold canTakeMoreSimilarItems at allowed ⊢
  cases found : templates.get entry with
  | none => exact absurd found known
  | some pProto =>
      rw [found] at allowed
      dsimp only at allowed ⊢
      split at allowed
      · rename_i limited
        rw [if_pos limited]
        split at allowed
        · cases allowed
        · rename_i within
          rw [if_neg within]
      · rename_i unlimited
        rw [if_neg unlimited]

theorem canTakeMoreSimilarItems_lt {entry count : Nat} (bounded : count < 2 ^ 32)
    (pItem : Option Item) :
    (canTakeMoreSimilarItems templates player entry count pItem).2 < 2 ^ 32 := by
  unfold canTakeMoreSimilarItems
  split
  · exact bounded
  · split
    · dsimp only
      split
      · exact Nat.mod_lt _ (by decide)
      · decide
    · decide

theorem allowance_cases {entry count : Nat} {pItem : Option Item} (one : 1 ≤ count)
    (bounded : count < 2 ^ 32)
    (searched : ¬refusedOutright templates player entry count pItem) :
    let noSimilar := (canTakeMoreSimilarItems templates player entry count pItem).2
    let allowed := allowance templates player entry count pItem
    allowed ≠ 0 ∧ noSimilar < 2 ^ 32 ∧
      (noSimilar ≤ count ∧ allowed + noSimilar = count ∨
        count < noSimilar ∧ allowed + noSimilar = count + 2 ^ 32) := by
  intro noSimilar allowed
  simp only [refusedOutright, not_or] at searched
  have small : noSimilar < 2 ^ 32 := canTakeMoreSimilarItems_lt bounded pItem
  have allowed_eq : allowed =
      if (canTakeMoreSimilarItems templates player entry count pItem).1 ≠ .ok then
        (count + 2 ^ 32 - noSimilar) % 2 ^ 32
      else count := rfl
  by_cases limited : (canTakeMoreSimilarItems templates player entry count pItem).1 = .ok
  · have unlimited : noSimilar = 0 := canTakeMoreSimilarItems_ok searched.1 limited
    rw [if_neg (not_not_intro limited)] at allowed_eq
    omega
  · have other : count ≠ noSimilar := fun same => searched.2.2.2 ⟨limited, same⟩
    rw [if_pos limited] at allowed_eq
    omega

namespace Search

section

variable (s : Search)

/-- The room in all the slots that are visited. -/
def freeRoom (places : List (Pos × Nat)) : Nat :=
  ∑ p ∈ (places.map Prod.fst).toFinset, s.roomAt p

/-- A slot that the walk comes to before the count is spread. -/
def Reached (places : List (Pos × Nat)) (count : Nat) (p : Pos) : Prop :=
  ∃ front place back, places = front ++ place :: back ∧ place.1 = p ∧
    s.freeRoom front < count

end

variable {s : Search}

theorem planned_ofFilling (f : Filling Pos) : planned (Plan.ofFilling f).dest = f.total := by
  rw [planned, Plan.ofFilling, Filling.total, List.map_map]
  rfl

theorem outcome_dest (noSimilar : Nat) (way : Route) (count : Nat) :
    (way.outcome noSimilar count).dest =
      (Plan.ofFilling (Filling.fill ⟨[], count⟩ way.places)).dest := by
  rw [Route.outcome]
  split
  · split
    · rfl
    · rfl
  · rfl

theorem fill_left_freeRoom {places : List (Pos × Nat)} (count : Nat)
    (offers : ∀ place ∈ places, s.Offers place) :
    (Filling.fill ⟨[], count⟩ places).left = count - s.freeRoom places := by
  have measures : Filling.Measures (s.roomAt) places :=
    fun place inside => (offers place inside).1
  rw [Filling.fill_left _ measures, Filling.keys, List.map_nil, List.toFinset_nil,
    Finset.sdiff_empty]
  rfl

theorem planned_outcome {noSimilar : Nat} {way : Route} {count : Nat}
    (offers : ∀ place ∈ way.places, s.Offers place) :
    planned (way.outcome noSimilar count).dest = min count (s.freeRoom way.places) := by
  have spread := Filling.fill_total ⟨[], count⟩ way.places
  rw [fill_left_freeRoom count offers] at spread
  have start : (⟨[], count⟩ : Filling Pos).total = 0 := rfl
  rw [outcome_dest, planned_ofFilling]
  change _ = 0 + count at spread
  omega

theorem noSpace_outcome {noSimilar : Nat} {way : Route} {count : Nat}
    (offers : ∀ place ∈ way.places, s.Offers place) :
    (way.outcome noSimilar count).noSpace =
      (count - s.freeRoom way.places + noSimilar) % 2 ^ 32 := by
  have left := fill_left_freeRoom count offers
  rw [Route.outcome, ← left]
  split
  · rename_i stored
    change Filling.left _ = 0 at stored
    split
    · rename_i unlimited
      rw [stored, unlimited]
      rfl
    · rfl
  · rfl

theorem outcome_ok {noSimilar : Nat} {way : Route} {count : Nat}
    (refusal : way.refusal ≠ some .ok)
    (offers : ∀ place ∈ way.places, s.Offers place) :
    (way.outcome noSimilar count).result = .ok ↔ count ≤ s.freeRoom way.places ∧ noSimilar = 0 := by
  have left := fill_left_freeRoom count offers
  rw [Route.outcome]
  have left_eq : (Plan.ofFilling (Filling.fill ⟨[], count⟩ way.places)).count =
      count - s.freeRoom way.places := left
  rw [left_eq]
  split
  · rename_i stored
    have room : count ≤ s.freeRoom way.places := by omega
    split
    · rename_i unlimited
      exact ⟨fun _ => ⟨room, unlimited⟩, fun _ => rfl⟩
    · rename_i limited
      exact ⟨fun same => InventoryResult.noConfusion same, fun both => absurd both.2 limited⟩
  · rename_i some_left
    refine ⟨fun same => ?_, fun both => absurd both.1 (by omega)⟩
    cases refused : way.refusal with
    | none =>
        rw [refused] at same
        exact InventoryResult.noConfusion same
    | some result =>
        rw [refused] at same refusal
        exact absurd (congrArg some same) refusal

theorem mem_outcome_dest {noSimilar : Nat} {way : Route} {count : Nat} {d : ItemPosCount}
    (inside : d ∈ (way.outcome noSimilar count).dest) :
    ∃ place ∈ way.places, place.1 = d.pos ∧ d.count ≤ place.2 := by
  rw [outcome_dest, Plan.ofFilling, List.mem_map] at inside
  obtain ⟨entry, put, rfl⟩ := inside
  exact (Filling.fill_put put).resolve_left List.not_mem_nil

theorem count_lt_of_merges {item : Item} (merges : item.canBeMergedPartlyWith s.pProto = .ok) :
    item.count < s.pProto.stackable := by
  unfold Item.canBeMergedPartlyWith at merges
  split at merges
  · cases merges
  · split at merges
    · cases merges
    · rename_i partly
      exact Nat.not_le.mp partly

theorem outcome_positions (noSimilar : Nat) (way : Route) (count : Nat) :
    (way.outcome noSimilar count).dest.map ItemPosCount.pos =
      (Filling.fill ⟨[], count⟩ way.places).keys := by
  rw [outcome_dest, Plan.ofFilling, List.map_map]
  rfl

theorem mem_outcome_positions {noSimilar : Nat} {way : Route} {count : Nat}
    (offers : ∀ place ∈ way.places, s.Offers place) (p : Pos) :
    p ∈ (way.outcome noSimilar count).dest.map ItemPosCount.pos ↔ s.Reached way.places count p := by
  rw [outcome_positions, Filling.mem_fill_keys]
  constructor
  · rintro (old | ⟨front, place, back, split, here, some_left⟩)
    · exact absurd old List.not_mem_nil
    · refine ⟨front, place, back, split, here, ?_⟩
      rw [fill_left_freeRoom count fun q inside =>
        offers q (split ▸ List.mem_append_left _ inside)] at some_left
      omega
  · rintro ⟨front, place, back, split, here, room⟩
    refine .inr ⟨front, place, back, split, here, ?_⟩
    rw [fill_left_freeRoom count fun q inside =>
      offers q (split ▸ List.mem_append_left _ inside)]
    omega

theorem bagSize_le (bag : Item) : bagSize s.templates bag ≤ maxBagSize := by
  rw [bagSize]
  cases s.templates.get bag.entry with
  | none => exact Nat.zero_le _
  | some pBagProto => exact pBagProto.containerSlots_le

theorem bagSize_known {bag : Item} {pBagProto : ItemPrototype}
    (known : s.templates.get bag.entry = some pBagProto) :
    bagSize s.templates bag = pBagProto.containerSlots := by
  rw [bagSize, known]
  rfl

theorem mem_bagPlaces {i : UInt8} {p : Pos} :
    p ∈ s.bagPlaces i ↔
      p.bag = i ∧ ∃ pBag, s.player.getItemByPos s.templates inventorySlotBag0 i = some pBag ∧
        p.slot.toNat < bagSize s.templates pBag := by
  rw [bagPlaces]
  cases there : s.player.getItemByPos s.templates inventorySlotBag0 i with
  | none =>
      constructor
      · intro inside
        cases inside
      · rintro ⟨-, pBag, same, -⟩
        cases same
  | some pBag =>
      have small : bagSize s.templates pBag ≤ 256 :=
        Nat.le_trans (bagSize_le pBag) (show maxBagSize ≤ 256 by decide)
      rw [mem_slotPlaces small]
      constructor
      · rintro ⟨here, -, below⟩
        exact ⟨here, pBag, rfl, below⟩
      · rintro ⟨here, other, same, below⟩
        cases same
        exact ⟨here, Nat.zero_le _, below⟩

theorem bagAdmits_of_goesIntoBag {i : UInt8}
    (goes : s.goesIntoBag i = true) :
    ∃ nonSpecialized, s.bagAdmits nonSpecialized i = true := by
  rcases Bool.or_eq_true_iff.mp goes with special | plain
  · exact ⟨false, special⟩
  · exact ⟨true, plain⟩

theorem wellPlaced_in_bag {i : UInt8} {p : Pos} (inside : p ∈ s.bagPlaces i)
    (goes : s.goesIntoBag i = true) :
    s.WellPlaced p := by
  obtain ⟨here, other, there', below⟩ := mem_bagPlaces.mp inside
  obtain ⟨_, admits⟩ := bagAdmits_of_goesIntoBag goes
  obtain ⟨pBag, pBagProto, there, -, known, -, fits⟩ := (bagAdmits_iff _ _).mp admits
  obtain rfl : pBag = other := Option.some.inj (there.symm.trans there')
  rw [bagSize_known known] at below
  exact .inr (.inr ⟨pBag, pBagProto, here.symm ▸ there, known, below, fits⟩)

theorem wellPlaced_visited {p : Pos} (visited : s.Visited false p) :
    s.WellPlaced p := by
  cases visited with
  | keyring inside key =>
      obtain ⟨here, low, high⟩ := (mem_slotPlaces (by decide) p).mp inside
      exact .inr (.inl ⟨here, key.resolve_left Bool.false_ne_true, low, high⟩)
  | backpack inside =>
      exact .inl ((mem_slotPlaces (by decide) p).mp inside)
  | bag i inside goes => exact wellPlaced_in_bag inside goes

theorem isInventoryPos_own {slot : UInt8}
    (valid : Player.isInventoryPos inventorySlotBag0 slot = true) (named : slot ≠ nullSlot) :
    inventorySlotItemStart ≤ slot.toNat ∧ slot.toNat < inventorySlotItemEnd ∨
      keyringSlotStart ≤ slot.toNat ∧ slot.toNat < keyringSlotEnd := by
  have high : ¬inventorySlotBag0.toNat < inventorySlotBagEnd := by decide
  simp only [Player.isInventoryPos, decide_true, Bool.true_and, Bool.or_eq_true,
    Bool.and_eq_true, decide_eq_true_eq, high, and_false, or_false] at valid
  rcases valid with (unnamed | pack) | ring
  · exact absurd unnamed named
  · exact .inl pack
  · exact .inr ring

theorem validHint_within {bag slot : UInt8} (hint : validHint bag slot)
    (own : bag = inventorySlotBag0) (named : slot ≠ nullSlot) : slot.toNat < keyringSlotEnd := by
  subst own
  rcases hint with null | valid
  · exact absurd null.2 named
  · have backpackFirst : inventorySlotItemEnd ≤ keyringSlotEnd := by decide
    rcases isInventoryPos_own valid named with pack | ring
    · exact Nat.lt_of_lt_of_le pack.2 backpackFirst
    · exact ring.2

theorem wellPlaced_hint {bag slot : UInt8} (hint : validHint bag slot) (named : slot ≠ nullSlot)
    (checked : s.checkEmptySlot bag slot = .ok) :
    s.WellPlaced ⟨bag, slot⟩ := by
  unfold checkEmptySlot at checked
  split at checked
  · rename_i own
    subst own
    rcases isInventoryPos_own (hint.resolve_left fun null => named null.2) named with pack | ring
    · exact .inl ⟨rfl, pack⟩
    · have end_eq : keyringSlotStart + getMaxKeyringSize = keyringSlotEnd := by decide
      split at checked
      · cases checked
      · rename_i other
        rw [end_eq] at other
        exact .inr (.inl ⟨rfl, not_not.mp fun key => other ⟨ring.1, ring.2, key⟩, ring.1,
          end_eq.symm ▸ ring.2⟩)
  · split at checked
    · cases checked
    · rename_i pBag there
      split at checked
      · cases checked
      · split at checked
        · cases checked
        · rename_i pBagProto known
          split at checked
          · cases checked
          · rename_i below
            split at checked
            · cases checked
            · rename_i goes
              exact .inr (.inr ⟨pBag, pBagProto, there, known, Nat.not_le.mp below,
                Bool.not_eq_false _ ▸ goes⟩)

theorem wellPlaced_empty {bag slot : UInt8} (hint : validHint bag slot) {place : Pos × Nat}
    (inside : place ∈ (s.route false bag slot).places)
    (empty : s.itemAt place.1.bag place.1.slot = none) :
    s.WellPlaced place.1 := by
  rcases hinted_or_found inside with hinted | ⟨-, visited⟩
  · have checked := (hint_offers hinted).2 empty
    obtain ⟨named, -, rfl⟩ := mem_hintRoute.mp hinted
    exact wellPlaced_hint hint named.2 checked
  · rw [empty] at visited
    exact wellPlaced_visited visited

theorem route_refusal (swap : Bool) (bag slot : UInt8) :
    (s.route swap bag slot).refusal ≠ some .ok := by
  have hint : (s.hintRoute swap bag slot).refusal ≠ some .ok := by
    rw [hintRoute]
    split
    · dsimp only
      split
      · rename_i refused
        exact fun same => refused (Option.some.inj same)
      · exact Option.some_ne_none _ ∘ Eq.symm
    · exact Option.some_ne_none _ ∘ Eq.symm
  have inBag : ∀ merge, (s.namedBagRoute bag slot merge).refusal ≠
      some .ok := by
    intro merge
    rw [namedBagRoute]
    split
    · exact Option.some_ne_none _ ∘ Eq.symm
    · exact fun same => InventoryResult.noConfusion (Option.some.inj same)
  have followed : ∀ first second : Route, first.refusal ≠ some .ok →
      second.refusal ≠ some .ok → (first.followedBy second).refusal ≠ some .ok := by
    intro first second front back
    rw [Route.followedBy]
    split
    · exact front
    · exact back
  refine followed _ _ hint (followed _ _ ?_ (Option.some_ne_none _ ∘ Eq.symm))
  rw [namedRoute]
  split
  · exact Option.some_ne_none _ ∘ Eq.symm
  · split
    · exact Option.some_ne_none _ ∘ Eq.symm
    · refine followed _ _ ?_ (inBag false)
      split
      · exact inBag true
      · exact Option.some_ne_none _ ∘ Eq.symm

theorem inventorySlots_nonEmptyBag {noSimilar : Nat} (moves : s.movesNonEmptyBag = true)
    (slotBegin slotEnd : Nat) (merge : Bool) (skipBag skipSlot : UInt8) (plan : Plan) :
    passed noSimilar (s.canStoreItemInInventorySlots slotBegin slotEnd
      merge skipBag skipSlot plan) = exit noSimilar .canOnlyDoWithEmptyBags plan := by
  rw [canStoreItemInInventorySlots, if_pos moves, passed,
    if_pos (show InventoryResult.canOnlyDoWithEmptyBags ≠ .ok by decide)]

theorem inBag_nonEmptyBag (moves : s.movesNonEmptyBag = true) (bag : UInt8)
    (merge nonSpecialized : Bool) (skipBag skipSlot : UInt8) (plan : Plan) :
    ∃ result, result ≠ .ok ∧ s.canStoreItemInBag bag merge
      nonSpecialized skipBag skipSlot plan = (result, plan) := by
  have doesntGo : InventoryResult.itemDoesntGoIntoBag ≠ .ok := by decide
  rw [canStoreItemInBag]
  split
  · exact ⟨_, doesntGo, rfl⟩
  · split
    · exact ⟨_, doesntGo, rfl⟩
    · split
      · exact ⟨_, doesntGo, rfl⟩
      · split
        · exact ⟨_, doesntGo, rfl⟩
        · exact ⟨.canOnlyDoWithEmptyBags, by decide, rfl⟩

theorem inNamedBag_nonEmptyBag {noSimilar : Nat} (moves : s.movesNonEmptyBag = true)
    (bag slot : UInt8) (merge : Bool) (plan : Plan) :
    ∃ result, result ≠ .ok ∧ passed noSimilar (s.inNamedBag bag slot merge plan) =
        exit noSimilar result plan := by
  obtain ⟨first, refused, first_eq⟩ := @inBag_nonEmptyBag s moves bag
    merge false nullBag slot plan
  obtain ⟨second, refused', second_eq⟩ := @inBag_nonEmptyBag s moves
    bag merge true nullBag slot plan
  refine ⟨second, refused', ?_⟩
  rw [inNamedBag, first_eq]
  dsimp only
  rw [if_pos refused, second_eq, passed, if_pos refused']

theorem bagPasses_nonEmptyBag {noSimilar : Nat} (moves : s.movesNonEmptyBag = true)
    (merge nonSpecialized : Bool) (bag slot : UInt8) (plan : Plan) :
    bagPasses noSimilar (fun i => s.canStoreItemInBag i merge
      nonSpecialized bag slot) plan = .ok plan := by
  rw [bagPasses]
  induction slotRange inventorySlotBagStart inventorySlotBagEnd with
  | nil => rfl
  | cons i bags ih =>
      obtain ⟨result, refused, pass_eq⟩ := @inBag_nonEmptyBag s moves i
        merge nonSpecialized bag slot plan
      rw [List.foldlM_cons, pass_eq, if_pos refused]
      exact ih

/-- Without a hint, such a bag that neither stacks nor is a key gets to the return that says
nothing of what is not stored. -/
def Silent (pProto : ItemPrototype) (bag : UInt8) : Prop :=
  bag = nullBag ∧ ¬pProto.stackable > 1 ∧ pProto.bagFamily ≠ bagFamilyKeys

theorem ok_bind (plan : Plan) (rest : Plan → Except Outcome Plan) :
    (Except.ok plan >>= rest) = rest plan := rfl

theorem exit_bind {noSimilar : Nat} {result : InventoryResult} {plan : Plan}
    (rest : Plan → Except Outcome Plan) :
    (exit noSimilar result plan >>= rest) = exit noSimilar result plan := rfl

theorem searchEverywhere_nonEmptyBag {noSimilar : Nat} (moves : s.movesNonEmptyBag = true)
    (bag slot : UInt8) (plan : Plan) :
    s.searchEverywhere noSimilar bag slot plan =
      if ¬s.pProto.stackable > 1 ∧ s.pProto.bagFamily ≠ bagFamilyKeys then
        .error ⟨.nonemptyBagOverOtherBag, plan.dest, none⟩
      else exit noSimilar .canOnlyDoWithEmptyBags plan := by
  unfold searchEverywhere
  simp only [if_pos moves, inventorySlots_nonEmptyBag moves, bagPasses_nonEmptyBag moves,
    exit_bind]
  by_cases merges : s.pProto.stackable > 1
  · simp only [if_pos merges, if_neg fun both : ¬_ ∧ _ => both.1 merges, exit_bind]
  · by_cases key : s.pProto.bagFamily = bagFamilyKeys
    · have special : s.pProto.bagFamily ≠ 0 := by rw [key]; decide
      simp only [if_neg merges, if_neg fun both : _ ∧ ¬_ => both.2 key, if_pos special,
        if_pos key, ok_bind, exit_bind]
    · simp only [if_neg merges, if_pos (And.intro merges key), if_neg key, ok_bind]
      split
      · rfl
      · rfl

theorem searchRoom_nonEmptyBag {noSimilar : Nat} (moves : s.movesNonEmptyBag = true)
    {bag slot : UInt8} (hint : validHint bag slot) (plan : Plan) :
    Silent s.pProto bag ∧ s.searchRoom noSimilar bag slot false plan =
        .error ⟨.nonemptyBagOverOtherBag, plan.dest, none⟩ ∨
      ¬Silent s.pProto bag ∧ ∃ result, result ≠ .ok ∧ s.searchRoom noSimilar bag slot false plan =
          exit noSimilar result plan := by
  have emptyOnly : InventoryResult.canOnlyDoWithEmptyBags ≠ .ok := by decide
  unfold searchRoom
  by_cases unnamed : bag = nullBag
  · have unhinted : ¬(bag ≠ nullBag ∧ slot ≠ nullSlot) := fun hinted => hinted.1 unnamed
    have named_eq : s.searchNamedBag noSimilar bag slot plan =
        .ok plan := by rw [searchNamedBag, if_pos unnamed]
    simp only [if_neg unhinted, ok_bind, named_eq, searchEverywhere_nonEmptyBag moves]
    by_cases silent : ¬s.pProto.stackable > 1 ∧ s.pProto.bagFamily ≠ bagFamilyKeys
    · exact .inl ⟨⟨unnamed, silent⟩, if_pos silent⟩
    · exact .inr ⟨fun both => silent both.2, _, emptyOnly, if_neg silent⟩
  · refine .inr ⟨fun silent => unnamed silent.1, ?_⟩
    by_cases hinted : bag ≠ nullBag ∧ slot ≠ nullSlot
    · have inside : ¬(bag = inventorySlotBag0 ∧ slot.toNat ≥ keyringSlotEnd) := fun beyond =>
        Nat.not_lt.mpr beyond.2 (validHint_within hint beyond.1 hinted.2)
      have specific : s.canStoreItemInSpecificSlot bag slot false
          plan = (.canOnlyDoWithEmptyBags, plan) := by
        unfold canStoreItemInSpecificSlot
        exact if_pos moves
      refine ⟨.canOnlyDoWithEmptyBags, emptyOnly, ?_⟩
      rw [if_pos hinted, if_neg inside, specific, passed, if_pos emptyOnly]
      rfl
    · simp only [if_neg hinted, ok_bind]
      have named : ∃ result, result ≠ .ok ∧
          s.searchNamedBag noSimilar bag slot plan =
            exit noSimilar result plan := by
        unfold searchNamedBag
        simp only [if_neg unnamed, inventorySlots_nonEmptyBag moves, exit_bind]
        by_cases own : bag = inventorySlotBag0
        · refine ⟨.canOnlyDoWithEmptyBags, emptyOnly, ?_⟩
          by_cases merges : s.pProto.stackable > 1
          · simp only [if_pos own, if_pos merges, exit_bind]
          · simp only [if_pos own, if_neg merges, ok_bind]
            split
            · rfl
            · rfl
        · obtain ⟨first, refused, first_eq⟩ :=
            @inNamedBag_nonEmptyBag s noSimilar moves bag slot true plan
          obtain ⟨second, refused', second_eq⟩ :=
            @inNamedBag_nonEmptyBag s noSimilar moves bag slot false plan
          by_cases merges : s.pProto.stackable > 1
          · exact ⟨first, refused, by simp only [if_neg own, if_pos merges, first_eq, exit_bind]⟩
          · exact ⟨second, refused', by simp only [if_neg own, if_neg merges, ok_bind, second_eq]⟩
      obtain ⟨result, refused, ended⟩ := named
      exact ⟨result, refused, by rw [ended, exit_bind]⟩

/-- The limit is not exceeded beforehand, or less is found than was asked for, and no stack that is
come to lies where the item may not be. -/
def WalkSound (s : Search) (bag slot : UInt8) (entry count : Nat) : Prop :=
  let places := (s.route false bag slot).places
  ((canTakeMoreSimilarItems s.templates s.player entry count s.pSrcItem).2 ≤ count ∨
    s.freeRoom places < count) ∧
  ∀ p, s.Reached places (allowance s.templates s.player entry count s.pSrcItem) p →
    (s.itemAt p.bag p.slot).isSome → s.WellPlaced p

theorem executable_nonEmptyBag {bag slot : UInt8} (hint : validHint bag slot)
    {entry count : Nat} (one : 1 ≤ count) (bounded : count < 2 ^ 32)
    (searched : ¬refusedOutright s.templates s.player entry count s.pSrcItem)
    (known : s.templates.get entry = some s.pProto) (moves : s.movesNonEmptyBag = true) :
    Executable s.templates s.player entry count s.pSrcItem
        (canStoreItem s.templates s.player bag slot entry count s.pSrcItem false) ↔
      ¬Silent s.pProto bag := by
  obtain ⟨-, -, split⟩ := allowance_cases one bounded searched
  rw [canStoreItem_searched searched known]
  rcases @searchRoom_nonEmptyBag s
    (canTakeMoreSimilarItems s.templates s.player entry count s.pSrcItem).2 moves bag slot hint
    ⟨[], allowance s.templates s.player entry count s.pSrcItem⟩ with
    ⟨silent, ended⟩ | ⟨spoken, result, refused, ended⟩
  · rw [ended]
    refine ⟨fun executable => ?_, fun spoken => absurd silent spoken⟩
    have unaccounted : 0 = count := executable.accounted
    omega
  · have accounted : (allowance s.templates s.player entry count s.pSrcItem +
        (canTakeMoreSimilarItems s.templates s.player entry count s.pSrcItem).2) % 2 ^ 32 =
          count := by
      omega
    rw [ended, exit]
    change Executable _ _ _ _ _ ⟨result, [], some ((_ + _) % 2 ^ 32)⟩ ↔ _
    rw [accounted]
    exact ⟨fun _ => spoken, fun _ => executable_nothing one refused⟩

/-- What is put somewhere and what is left over add up unless a count that wrapped around finds
room. -/
theorem accounted_iff {noSimilar allowed count : Nat} (one : 1 ≤ count) (bounded : count < 2 ^ 32)
    (small : noSimilar < 2 ^ 32)
    (cases : noSimilar ≤ count ∧ allowed + noSimilar = count ∨
      count < noSimilar ∧ allowed + noSimilar = count + 2 ^ 32) {way : Route}
    (refusal : way.refusal ≠ some .ok)
    (offers : ∀ place ∈ way.places, s.Offers place) :
    (planned (way.outcome noSimilar allowed).dest + (way.outcome noSimilar allowed).noSpace =
      count ∧
      ((way.outcome noSimilar allowed).result = .ok ↔
        planned (way.outcome noSimilar allowed).dest = count)) ↔
      noSimilar ≤ count ∨ s.freeRoom way.places < count := by
  rw [outcome_ok refusal offers, planned_outcome offers, noSpace_outcome offers]
  generalize s.freeRoom way.places = room
  rcases cases with ⟨within, sum⟩ | ⟨beyond, sum⟩
  · refine ⟨fun _ => .inl within, fun _ => ?_⟩
    have fits : allowed - room + noSimilar < 2 ^ 32 := by omega
    rw [Nat.mod_eq_of_lt fits]
    omega
  · constructor
    · rintro ⟨total, stored⟩
      refine .inr ?_
      by_contra enough
      have full : min allowed room = count := by omega
      have unlimited := (stored.mpr full).2
      omega
    · intro few
      have less := few.resolve_left (Nat.not_le.mpr beyond)
      omega

theorem executable_walk {bag slot : UInt8} (hint : validHint bag slot) {entry count : Nat}
    (one : 1 ≤ count) (bounded : count < 2 ^ 32)
    (searched : ¬refusedOutright s.templates s.player entry count s.pSrcItem)
    (known : s.templates.get entry = some s.pProto) (free : s.movesNonEmptyBag = false) :
    Executable s.templates s.player entry count s.pSrcItem
        (canStoreItem s.templates s.player bag slot entry count s.pSrcItem false) ↔
      s.WalkSound bag slot entry count := by
  obtain ⟨some_left, small, split⟩ := allowance_cases one bounded searched
  have offers := fun place => @route_offers s bag slot place
  rw [canStoreItem_walk searched known free false (validHint_within hint) some_left]
  have accounted := accounted_iff one bounded small split (route_refusal false bag slot) offers
  constructor
  · intro executable
    refine ⟨accounted.mp ⟨executable.accounted, executable.ok_iff⟩, fun p reached _ => ?_⟩
    obtain ⟨d, inside, rfl⟩ := List.mem_map.mp ((mem_outcome_positions offers p).mpr reached)
    exact executable.placed s.pProto known d inside
  · rintro ⟨limit, stacks_placed⟩
    obtain ⟨adds_up, ok_iff⟩ := accounted.mpr limit
    refine ⟨?_, ?_, ?_, adds_up, ok_iff⟩
    · rw [outcome_positions]
      exact @Filling.fill_nodup _ _ ⟨[], _⟩ List.nodup_nil _
    · intro other same d inside item there
      obtain rfl : s.pProto = other := Option.some.inj (known.symm.trans same)
      obtain ⟨place, visited, here, within⟩ := mem_outcome_dest inside
      have offered := offers place visited
      rw [← here] at there
      have merges := offered.2 item there
      refine ⟨merges, ?_⟩
      have room : place.2 = s.pProto.stackable - item.count := by
        rw [offered.1, roomAt, there]
      have partly := count_lt_of_merges merges
      omega
    · intro other same d inside
      obtain rfl : s.pProto = other := Option.some.inj (known.symm.trans same)
      have reached := (mem_outcome_positions offers d.pos).mp (List.mem_map_of_mem inside)
      cases there : s.itemAt d.pos.bag d.pos.slot with
      | some item => exact stacks_placed d.pos reached (by rw [there]; rfl)
      | none =>
          obtain ⟨place, visited, here, -⟩ := mem_outcome_dest inside
          rw [← here] at there ⊢
          exact wellPlaced_empty hint visited there

end Search

def Carried (templates : Templates) (player : Player) (bag slot : UInt8) (entry count : Nat)
    (pItem : Option Item) : Prop :=
  refusedOutright templates player entry count pItem ∨
    ∀ pProto, templates.get entry = some pProto →
      let s : Search := ⟨templates, player, pProto, pItem⟩
      if s.movesNonEmptyBag = true then ¬Search.Silent pProto bag
      else s.WalkSound bag slot entry count

theorem executable_iff {bag slot : UInt8} (hint : validHint bag slot) (entry : Nat) {count : Nat}
    (one : 1 ≤ count) (bounded : count < 2 ^ 32) (pItem : Option Item) :
    Executable templates player entry count pItem
        (canStoreItem templates player bag slot entry count pItem false) ↔
      Carried templates player bag slot entry count pItem := by
  by_cases searched : refusedOutright templates player entry count pItem
  · exact ⟨fun _ => .inl searched, fun _ => executable_of_refusedOutright one bag slot searched⟩
  · obtain ⟨pProto, known⟩ : ∃ pProto, templates.get entry = some pProto :=
      Option.ne_none_iff_exists'.mp fun missing => searched (.inl missing)
    let s : Search := ⟨templates, player, pProto, pItem⟩
    have here : Carried templates player bag slot entry count pItem ↔
        if s.movesNonEmptyBag = true then ¬Search.Silent pProto bag
        else s.WalkSound bag slot entry count := by
      constructor
      · intro carried
        exact carried.resolve_left searched pProto known
      · intro sound
        refine .inr fun other same => ?_
        obtain rfl : pProto = other := Option.some.inj (known.symm.trans same)
        exact sound
    rw [here]
    by_cases moves : s.movesNonEmptyBag = true
    · rw [if_pos moves]
      exact @Search.executable_nonEmptyBag s bag slot hint entry count one bounded searched known
        moves
    · rw [if_neg moves]
      exact @Search.executable_walk s bag slot hint entry count one bounded searched known
        (Bool.eq_false_of_not_eq_true moves)

def trinket : ItemPrototype where
  itemId := 1
  maxCount := 1
  one_le_stackable := by decide
  stackable_le := by decide
  maxCount_lt := by decide
  containerSlots_le := by decide

def trinketOnly : Templates where
  get entry := if entry = 1 then some trinket else none
  itemId_of_get := by
    intro entry proto known
    split at known
    · rename_i one
      cases known
      exact one.symm
    · cases known

def emptyHanded : Player where
  items _ := none
  contents _ _ := none

def twoTrinkets : Player where
  items slot :=
    if slot = 23 then some ⟨10, 1, 1, true, .none, true, false, false, false, false⟩
    else if slot = 24 then some ⟨11, 1, 1, true, .none, true, false, false, false, false⟩
    else none
  contents _ _ := none

/-- One more is asked for, and all the free slots are filled. -/
theorem trinkets_unaccounted :
    ¬Executable trinketOnly twoTrinkets 1 1 none
      (canStoreItem trinketOnly twoTrinkets nullBag nullSlot 1 1 none false) := by
  intro executable
  exact absurd executable.accounted (by decide +kernel)

def brassKey : ItemPrototype :=
  { trinket with
    maxCount := 0
    stackable := 5
    bagFamily := bagFamilyKeys
    one_le_stackable := by decide
    stackable_le := by decide
    maxCount_lt := by decide }

def satchel : ItemPrototype :=
  { trinket with
    itemId := 2
    class_ := itemClassContainer
    containerSlots := 2
    containerSlots_le := by decide }

def keyAndSatchel : Templates where
  get entry := if entry = 1 then some brassKey else if entry = 2 then some satchel else none
  itemId_of_get := by
    intro entry proto known
    split at known
    · rename_i one
      cases known
      exact one.symm
    · split at known
      · rename_i two
        cases known
        exact two.symm
      · cases known

def keyBearer : Player where
  items slot :=
    if slot = 19 then some { guid := 10, entry := 2, count := 1 }
    else if slot = 24 then some { guid := 11, entry := 1, count := 4 }
    else if slot = 81 then some { guid := 12, entry := 1, count := 3 }
    else none
  contents bag slot :=
    if bag = 19 ∧ slot = 0 then some { guid := 13, entry := 1, count := 2 } else none

/-- The hinted stack, the rest of its bag, the other stacks and the keyring are filled in turn. -/
theorem executable_iff_keyBearer :
    Executable keyAndSatchel keyBearer 1 20 none
        (canStoreItem keyAndSatchel keyBearer 19 0 1 20 none false) ∧
      canStoreItem keyAndSatchel keyBearer 19 0 1 20 none false =
        ⟨.ok, [⟨⟨19, 0⟩, 3⟩, ⟨⟨19, 1⟩, 5⟩, ⟨⟨255, 81⟩, 2⟩, ⟨⟨255, 24⟩, 1⟩, ⟨⟨255, 82⟩, 5⟩,
          ⟨⟨255, 83⟩, 4⟩], none⟩ := by
  refine ⟨(executable_iff (.inr (by decide)) 1 (by decide) (by decide) none).mpr
    ?_, by decide +kernel⟩
  refine .inr fun pProto known => ?_
  cases Option.some.inj known
  refine ⟨.inl (by decide +kernel), fun p reached occupied => ?_⟩
  obtain ⟨front, place, back, shape, rfl, -⟩ := reached
  let s : Search := ⟨keyAndSatchel, keyBearer, brassKey, none⟩
  have visited : place ∈ (s.route false 19 0).places := by
    rw [shape]
    exact List.mem_append_right front List.mem_cons_self
  have piles : ∀ place ∈ (s.route false 19 0).places,
      (s.itemAt place.1.bag place.1.slot).isSome = true →
        place.1 = ⟨19, 0⟩ ∨ place.1 = ⟨255, 81⟩ ∨ place.1 = ⟨255, 24⟩ := by
    decide +kernel
  rcases piles place visited occupied with there | there | there
  · rw [there]
    exact .inr (.inr ⟨_, satchel, rfl, rfl, by decide, by decide⟩)
  · rw [there]
    exact .inr (.inl (by decide))
  · rw [there]
    exact .inl (by decide)
end TortoiseWow.Storing
