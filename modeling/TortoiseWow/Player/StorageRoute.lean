import TortoiseWow.Lib.GreedyFill
import TortoiseWow.Player.StorageSearch

/-!
The search for room as one walk: which slots it visits, in which order and with what room, and
where it is refused. Each pass of the code spreads the count over its part of the walk.
-/

namespace TortoiseWow.Storing

open Lib

def Plan.ofFilling (f : Filling Pos) : Plan := ⟨f.put.map fun d => ⟨d.1, d.2⟩, f.left⟩

theorem contains_ofFilling (f : Filling Pos) (pos : Pos) :
    (Plan.ofFilling f).contains pos = true ↔ pos ∈ f.keys := by
  rw [Plan.contains, List.any_eq_true, Plan.ofFilling, Filling.keys]
  simp only [List.mem_map, decide_eq_true_eq]
  constructor
  · rintro ⟨d, ⟨e, inside, rfl⟩, rfl⟩
    exact ⟨e, inside, rfl⟩
  · rintro ⟨e, inside, rfl⟩
    exact ⟨_, ⟨e, inside, rfl⟩, rfl⟩

theorem push_ofFilling (f : Filling Pos) (pos : Pos) {needSpace : Nat} (small : needSpace < 2 ^ 8) :
    (Plan.ofFilling f).push pos needSpace =
      .ofFilling ⟨f.put ++ [(pos, needSpace)], f.left - needSpace⟩ := by
  rw [Plan.push, Nat.mod_eq_of_lt small, Plan.ofFilling, Plan.ofFilling, List.map_append,
    List.map_cons, List.map_nil]

/-- The slots that a part of the search visits, with the room in each, and why the search ends
after them if it does. -/
structure Route where
  places : List (Pos × Nat)
  refusal : Option InventoryResult

namespace Route

def nothing : Route := ⟨[], none⟩

def followedBy (first second : Route) : Route :=
  if first.refusal.isSome then first else ⟨first.places ++ second.places, second.refusal⟩

theorem followedBy_refused {first : Route} (second : Route) {result : InventoryResult}
    (refused : first.refusal = some result) : first.followedBy second = first := by
  rw [followedBy, refused, Option.isSome_some, if_pos rfl]

theorem followedBy_free {first : Route} (second : Route) (free : first.refusal = none) :
    first.followedBy second = ⟨first.places ++ second.places, second.refusal⟩ := by
  rw [followedBy, free, Option.isSome_none, if_neg Bool.false_ne_true]

def run (noSimilar : Nat) (route : Route) (f : Filling Pos) : Except Outcome Plan :=
  let plan := Plan.ofFilling (f.fill route.places)
  if plan.count = 0 then checkStored noSimilar plan
  else
    match route.refusal with
    | some result => exit noSimilar result plan
    | none => .ok plan

/-- What comes of spreading a count over the whole of a walk. -/
def outcome (noSimilar : Nat) (route : Route) (count : Nat) : Outcome :=
  let plan := Plan.ofFilling (Filling.fill ⟨[], count⟩ route.places)
  if plan.count = 0 then
    if noSimilar = 0 then ⟨.ok, plan.dest, none⟩
    else ⟨.cantCarryMoreOfThis, plan.dest, some ((plan.count + noSimilar) % 2 ^ 32)⟩
  else ⟨route.refusal.getD .inventoryFull, plan.dest, some ((plan.count + noSimilar) % 2 ^ 32)⟩

theorem run_nothing {noSimilar : Nat} {f : Filling Pos} (some_left : f.left ≠ 0) :
    nothing.run noSimilar f = .ok (.ofFilling f) := by
  change (if f.left = 0 then _ else _) = _
  rw [if_neg some_left]
  rfl

theorem run_stored {noSimilar : Nat} {route : Route} {f : Filling Pos}
    (none_left : (f.fill route.places).left = 0) :
    route.run noSimilar f = checkStored noSimilar (.ofFilling (f.fill route.places)) := by
  change (if (f.fill route.places).left = 0 then _ else _) = _
  rw [if_pos none_left]

theorem run_refused {noSimilar : Nat} {route : Route} {f : Filling Pos} {result : InventoryResult}
    (some_left : (f.fill route.places).left ≠ 0) (refused : route.refusal = some result) :
    route.run noSimilar f = exit noSimilar result (.ofFilling (f.fill route.places)) := by
  change (if (f.fill route.places).left = 0 then _ else _) = _
  rw [if_neg some_left, refused]

theorem run_refusal {noSimilar : Nat} {f : Filling Pos} {result : InventoryResult}
    (some_left : f.left ≠ 0) :
    run noSimilar ⟨[], some result⟩ f = exit noSimilar result (.ofFilling f) := by
  change (if f.left = 0 then _ else _) = _
  rw [if_neg some_left]
  rfl

theorem run_through {noSimilar : Nat} {route : Route} {f : Filling Pos}
    (some_left : (f.fill route.places).left ≠ 0) (free : route.refusal = none) :
    route.run noSimilar f = .ok (.ofFilling (f.fill route.places)) := by
  change (if (f.fill route.places).left = 0 then _ else _) = _
  rw [if_neg some_left, free]

end Route

/-- What a return says when nothing is left. -/
theorem checkStored_isError {noSimilar : Nat} {plan : Plan} (none_left : plan.count = 0) :
    ∃ outcome, checkStored noSimilar plan = .error outcome := by
  rw [checkStored, if_pos none_left]
  split
  · exact ⟨_, rfl⟩
  · exact ⟨_, rfl⟩

theorem checkStored_some_left {noSimilar : Nat} {plan : Plan} (some_left : plan.count ≠ 0) :
    checkStored noSimilar plan = .ok plan := by
  rw [checkStored, if_neg some_left]

theorem checkStored_ofFilling (noSimilar : Nat) (f : Filling Pos) (places : List (Pos × Nat)) :
    checkStored noSimilar (.ofFilling (f.fill places)) = Route.run noSimilar ⟨places, none⟩ f := by
  change _ = if (f.fill places).left = 0 then _ else _
  by_cases none_left : (f.fill places).left = 0
  · rw [if_pos none_left]
  · rw [if_neg none_left]
    exact checkStored_some_left none_left

theorem passed_ok (noSimilar : Nat) (plan : Plan) :
    passed noSimilar (.ok, plan) = checkStored noSimilar plan := if_neg fun refused => refused rfl

/-- A part of the search goes this way as long as something is left. -/
def Follows (noSimilar : Nat) (part : Plan → Except Outcome Plan) (route : Route) : Prop :=
  ∀ f : Filling Pos, f.left ≠ 0 → part (.ofFilling f) = route.run noSimilar f

theorem Follows.nothing (noSimilar : Nat) : Follows noSimilar .ok .nothing := fun _ some_left =>
  (Route.run_nothing some_left).symm

theorem Follows.bind {noSimilar : Nat} {part part' : Plan → Except Outcome Plan}
    {route route' : Route} (first : Follows noSimilar part route)
    (second : Follows noSimilar part' route') :
    Follows noSimilar (fun plan => part plan >>= part') (route.followedBy route') := by
  intro f some_left
  change part (.ofFilling f) >>= part' = _
  rw [first f some_left]
  by_cases none_left : (f.fill route.places).left = 0
  · obtain ⟨outcome, ended⟩ :=
      @checkStored_isError noSimilar (.ofFilling (f.fill route.places)) none_left
    have stays : f.fill (route.places ++ route'.places) = f.fill route.places := by
      rw [Filling.fill_append, Filling.fill_of_left_eq_zero none_left]
    have whole : (route.followedBy route').run noSimilar f = .error outcome := by
      cases refused : route.refusal with
      | some result =>
          rw [Route.followedBy_refused _ refused, Route.run_stored none_left, ended]
      | none =>
          rw [Route.followedBy_free _ refused]
          refine (Route.run_stored ?_).trans ?_
          · change (f.fill (route.places ++ route'.places)).left = 0
            rw [stays, none_left]
          · change checkStored _ (.ofFilling (f.fill (route.places ++ route'.places))) = _
            rw [stays, ended]
    rw [whole, Route.run_stored none_left, ended]
    rfl
  · cases refused : route.refusal with
    | some result =>
        rw [Route.followedBy_refused _ refused, Route.run_refused none_left refused]
        rfl
    | none =>
        rw [Route.followedBy_free _ refused, Route.run_through none_left refused]
        change part' _ = _
        rw [second _ none_left, Route.run, Route.run]
        simp only [Filling.fill_append]

theorem Follows.ite {noSimilar : Nat} {condition : Prop} [Decidable condition]
    {part part' : Plan → Except Outcome Plan} {route route' : Route}
    (yes : condition → Follows noSimilar part route)
    (no : ¬condition → Follows noSimilar part' route') :
    Follows noSimilar (fun plan => if condition then part plan else part' plan)
      (if condition then route else route') := by
  intro f some_left
  change (if condition then _ else _) = _
  split
  · exact yes ‹_› f some_left
  · exact no ‹_› f some_left

theorem Follows.append {noSimilar : Nat} {part part' : Plan → Except Outcome Plan}
    {places places' : List (Pos × Nat)} (first : Follows noSimilar part ⟨places, none⟩)
    (second : Follows noSimilar part' ⟨places', none⟩) :
    Follows noSimilar (fun plan => part plan >>= part') ⟨places ++ places', none⟩ :=
  first.bind second

theorem Follows.when {noSimilar : Nat} {condition : Prop} [Decidable condition]
    {part : Plan → Except Outcome Plan} {places : List (Pos × Nat)}
    (yes : Follows noSimilar part ⟨places, none⟩) :
    Follows noSimilar (fun plan => if condition then part plan else .ok plan)
      ⟨if condition then places else [], none⟩ := by
  intro f some_left
  dsimp only
  split
  · exact yes f some_left
  · exact Follows.nothing noSimilar f some_left

def slotPlaces (bag : UInt8) (first last : Nat) : List Pos :=
  (slotRange first last).map (Pos.mk bag)

namespace Search

variable (s : Search)

def visits (merge : Bool) (skips : Pos → Bool) (places : List Pos) : List (Pos × Nat) :=
  places.filterMap fun p =>
    if skips p then none
    else (s.slotNeed merge p.bag p.slot).map fun room => (p, room)

def bagPlaces (bag : UInt8) : List Pos :=
  match s.player.getItemByPos s.templates inventorySlotBag0 bag with
  | some pBag => slotPlaces bag 0 (bagSize s.templates pBag)
  | none => []

def bagAdmits (nonSpecialized : Bool) (bag : UInt8) : Bool :=
  match s.player.getItemByPos s.templates inventorySlotBag0 bag with
  | none => false
  | some pBag =>
      if sameItem (some pBag) s.pSrcItem then false
      else
        match s.templates.get pBag.entry with
        | none => false
        | some pBagProto =>
            nonSpecialized = pBagProto.plainContainer && itemCanGoIntoBag s.pProto pBagProto

variable {s}

theorem slotNeed_le {merge : Bool} {bag slot : UInt8} {room : Nat}
    (need : s.slotNeed merge bag slot = some room) :
    room ≤ s.pProto.stackable := by
  unfold slotNeed at need
  dsimp only at need
  split at need
  · cases need
  · split at need
    · cases need
      exact Nat.le_refl _
    · split at need
      · cases need
      · cases need
        exact Nat.sub_le _ _

theorem searchSlots_ofFilling {bag : UInt8} {visit : UInt8 → Option Nat}
    (small : ∀ j room, visit j = some room → room < 2 ^ 8) (slots : List UInt8)
    {f : Filling Pos} (some_left : f.left ≠ 0) :
    searchSlots bag visit slots (.ofFilling f) =
      .ofFilling
        (f.fill (slots.filterMap fun j => (visit j).map fun room => (⟨bag, j⟩, room))) := by
  induction slots generalizing f with
  | nil => rfl
  | cons j slots ih =>
      rw [searchSlots, List.filterMap_cons]
      cases need : visit j with
      | none => exact ih some_left
      | some room =>
          dsimp only [Option.map_some]
          rw [Filling.fill_cons]
          by_cases old : (⟨bag, j⟩ : Pos) ∈ f.keys
          · rw [if_pos ((contains_ofFilling f _).mpr old), Filling.visit_passed (.inr old),
              ih some_left]
          · have fits : min room (Plan.ofFilling f).count < 2 ^ 8 :=
              Nat.lt_of_le_of_lt (Nat.min_le_left _ _) (small j room need)
            rw [if_neg fun found => old ((contains_ofFilling f _).mp found),
              push_ofFilling f _ fits, Filling.visit_new some_left old]
            split
            · rename_i none_left
              rw [Filling.fill_of_left_eq_zero none_left]
              rfl
            · rename_i more
              exact ih more

theorem searchSlots_visits {bag : UInt8} {merge : Bool} {visit : UInt8 → Option Nat}
    (skips : Pos → Bool) (slots : List UInt8)
    (same : ∀ j, visit j = if skips ⟨bag, j⟩ then none else s.slotNeed merge bag j)
    {f : Filling Pos} (some_left : f.left ≠ 0) :
    searchSlots bag visit slots (.ofFilling f) = .ofFilling (f.fill
        (s.visits merge skips (slots.map (Pos.mk bag)))) := by
  rw [searchSlots_ofFilling _ slots some_left, visits, List.filterMap_map]
  · congr 3
    funext j
    rw [same]
    change _ = if skips ⟨bag, j⟩ then _ else _
    split
    · rfl
    · rfl
  · intro j room need
    rw [same] at need
    split at need
    · cases need
    · have le := slotNeed_le need
      have small := s.pProto.stackable_le
      omega

theorem follows_inventorySlots {noSimilar : Nat} (free : s.movesNonEmptyBag = false)
    (slotBegin slotEnd : Nat) (merge : Bool) (skipBag skipSlot : UInt8) :
    Follows noSimilar (fun plan => passed noSimilar (s.canStoreItemInInventorySlots
        slotBegin slotEnd merge skipBag skipSlot plan))
      ⟨s.visits merge (fun p => p.bag = skipBag && p.slot = skipSlot)
        (slotPlaces inventorySlotBag0 slotBegin slotEnd), none⟩ := by
  intro f some_left
  change passed noSimilar (s.canStoreItemInInventorySlots _ _ _ _ _ _) = _
  rw [canStoreItemInInventorySlots, if_neg (free ▸ Bool.false_ne_true), passed_ok,
    searchSlots_visits (fun p => p.bag = skipBag && p.slot = skipSlot) _ (fun j => ?_) some_left]
  · exact checkStored_ofFilling ..
  · simp only [Bool.and_eq_true, decide_eq_true_eq]

theorem bagAdmits_iff (nonSpecialized : Bool) (bag : UInt8) :
    s.bagAdmits nonSpecialized bag = true ↔
      ∃ pBag pBagProto, s.player.getItemByPos s.templates inventorySlotBag0 bag = some pBag ∧
        sameItem (some pBag) s.pSrcItem = false ∧ s.templates.get pBag.entry = some pBagProto ∧
        nonSpecialized = pBagProto.plainContainer ∧ itemCanGoIntoBag s.pProto pBagProto = true := by
  constructor
  · intro admits
    unfold bagAdmits at admits
    split at admits
    · cases admits
    · rename_i pBag there
      split at admits
      · cases admits
      · rename_i other
        split at admits
        · cases admits
        · rename_i pBagProto known
          obtain ⟨kind, goes⟩ := Bool.and_eq_true_iff.mp admits
          exact ⟨pBag, pBagProto, there, Bool.not_eq_true _ ▸ other, known,
            of_decide_eq_true kind, goes⟩
  · rintro ⟨pBag, pBagProto, there, other, known, kind, goes⟩
    rw [bagAdmits, there]
    dsimp only
    rw [other, if_neg Bool.false_ne_true, known]
    dsimp only
    rw [goes, decide_eq_true kind]
    rfl

theorem canStoreItemInBag_searched (free : s.movesNonEmptyBag = false) {bag : UInt8}
    (merge : Bool) {nonSpecialized : Bool} {skipBag : UInt8} (skipSlot : UInt8)
    (visited : bag ≠ skipBag)
    (admits : s.bagAdmits nonSpecialized bag = true) :
    ∃ slots, s.bagPlaces bag = slots.map (Pos.mk bag) ∧ ∀ plan,
      s.canStoreItemInBag bag merge nonSpecialized skipBag skipSlot plan =
        (.ok, searchSlots bag (fun j => if j = skipSlot then none else
          s.slotNeed merge bag j) slots plan) := by
  obtain ⟨pBag, pBagProto, there, other, known, kind, goes⟩ := (bagAdmits_iff _ _).mp admits
  refine ⟨slotRange 0 (bagSize s.templates pBag), ?_, fun plan => ?_⟩
  · rw [bagPlaces, there]
    rfl
  · rw [canStoreItemInBag, if_neg visited, there]
    dsimp only
    rw [other, if_neg Bool.false_ne_true, known]
    dsimp only
    rw [free, if_neg Bool.false_ne_true, if_neg (not_not_intro kind), goes,
      if_neg (Ne.symm Bool.false_ne_true)]

theorem canStoreItemInBag_admitted (free : s.movesNonEmptyBag = false) {bag : UInt8}
    {merge nonSpecialized : Bool} {skipBag skipSlot : UInt8} (visited : bag ≠ skipBag)
    (admits : s.bagAdmits nonSpecialized bag = true)
    {f : Filling Pos} (some_left : f.left ≠ 0) :
    s.canStoreItemInBag bag merge nonSpecialized skipBag skipSlot (.ofFilling f) =
      (.ok, .ofFilling (f.fill (s.visits merge
        (fun p => p.slot = skipSlot) (s.bagPlaces bag)))) := by
  obtain ⟨slots, places_eq, searched⟩ :=
    canStoreItemInBag_searched free merge skipSlot visited admits
  rw [searched, places_eq]
  refine Prod.ext rfl (searchSlots_visits (fun p => p.slot = skipSlot) _ (fun j => ?_) some_left)
  simp only [decide_eq_true_eq]

theorem canStoreItemInBag_refused (free : s.movesNonEmptyBag = false) {bag : UInt8}
    (merge : Bool) {nonSpecialized : Bool} {skipBag : UInt8} (skipSlot : UInt8) (plan : Plan)
    (refused : bag = skipBag ∨ s.bagAdmits nonSpecialized bag = false) :
    s.canStoreItemInBag bag merge nonSpecialized skipBag skipSlot
      plan = (.itemDoesntGoIntoBag, plan) := by
  rw [canStoreItemInBag]
  by_cases skipped : bag = skipBag
  · rw [if_pos skipped]
  · rw [if_neg skipped]
    cases there : s.player.getItemByPos s.templates inventorySlotBag0 bag with
    | none => rfl
    | some pBag =>
        dsimp only
        by_cases self : sameItem (some pBag) s.pSrcItem = true
        · rw [if_pos self]
        · rw [if_neg self]
          cases known : s.templates.get pBag.entry with
          | none => rfl
          | some pBagProto =>
              dsimp only
              rw [free, if_neg Bool.false_ne_true]
              by_cases kind : nonSpecialized = pBagProto.plainContainer
              · rw [if_neg (not_not_intro kind)]
                cases goes : itemCanGoIntoBag s.pProto pBagProto with
                | false => rw [if_pos rfl]
                | true =>
                    have admits := (bagAdmits_iff _ _).mpr
                      ⟨pBag, pBagProto, there, Bool.eq_false_of_not_eq_true self, known, kind, goes⟩
                    rw [refused.resolve_left skipped] at admits
                    cases admits
              · rw [if_pos kind]

variable (s)

def carriedVisits (merge nonSpecialized : Bool) (skipBag skipSlot : UInt8) (bags : List UInt8) :
    List (Pos × Nat) :=
  bags.flatMap fun i =>
    if i ≠ skipBag ∧ s.bagAdmits nonSpecialized i = true then
      s.visits merge (fun p => p.slot = skipSlot)
        (s.bagPlaces i)
    else []

/-- The slots on the player between two, less the one of the hint. -/
def ownVisits (merge : Bool) (bag slot : UInt8) (first last : Nat) : List (Pos × Nat) :=
  s.visits merge (fun p => p.bag = bag && p.slot = slot)
    (slotPlaces inventorySlotBag0 first last)

def goesIntoBag (bag : UInt8) : Bool :=
  s.bagAdmits false bag ||
    s.bagAdmits true bag

def namedBagRoute (bag slot : UInt8) (merge : Bool) : Route :=
  if s.goesIntoBag bag = true then
    ⟨s.visits merge (fun p => p.slot = slot)
      (s.bagPlaces bag), none⟩
  else ⟨[], some .itemDoesntGoIntoBag⟩

def namedRoute (bag slot : UInt8) : Route :=
  if bag = nullBag then .nothing
  else if bag = inventorySlotBag0 then
    ⟨(if s.pProto.stackable > 1 then
        s.ownVisits true bag slot keyringSlotStart keyringSlotEnd ++
        s.ownVisits true bag slot inventorySlotItemStart
          inventorySlotItemEnd
      else []) ++
      ((if s.pProto.bagFamily = bagFamilyKeys then
        s.ownVisits false bag slot keyringSlotStart
          (keyringSlotStart + getMaxKeyringSize)
      else []) ++
      s.ownVisits false bag slot inventorySlotItemStart
        inventorySlotItemEnd), none⟩
  else
    (if s.pProto.stackable > 1 then s.namedBagRoute bag slot true
      else .nothing).followedBy (s.namedBagRoute bag slot false)

/-- The stacks that the search comes to in the end, then the empty slots. -/
def everywhere (bag slot : UInt8) : List (Pos × Nat) :=
  let inSlots := s.ownVisits
  let inBags := fun merge nonSpecialized =>
    s.carriedVisits merge nonSpecialized bag slot
      (slotRange inventorySlotBagStart inventorySlotBagEnd)
  (if s.pProto.stackable > 1 then
    inSlots true bag slot keyringSlotStart keyringSlotEnd ++
    (inSlots true bag slot inventorySlotItemStart inventorySlotItemEnd ++
    ((if s.pProto.bagFamily ≠ 0 then inBags true false else []) ++ inBags true true))
  else []) ++
  ((if s.pProto.bagFamily ≠ 0 then
    (if s.pProto.bagFamily = bagFamilyKeys then
      inSlots false bag slot keyringSlotStart (keyringSlotStart + getMaxKeyringSize)
    else []) ++ inBags false false
  else []) ++
  (inSlots false bag slot inventorySlotItemStart inventorySlotItemEnd ++ inBags false true))

def hintFit (swap : Bool) (bag slot : UInt8) : InventoryResult × Nat :=
  match s.itemAt bag slot, swap with
  | none, _ | some _, true =>
      (s.checkEmptySlot bag slot, s.pProto.stackable)
  | some item, false => (item.canBeMergedPartlyWith s.pProto, s.pProto.stackable - item.count)

def hintRoute (swap : Bool) (bag slot : UInt8) : Route :=
  if bag ≠ nullBag ∧ slot ≠ nullSlot then
    let fit := s.hintFit swap bag slot
    if fit.1 ≠ .ok then ⟨[], some fit.1⟩ else ⟨[(⟨bag, slot⟩, fit.2)], none⟩
  else .nothing

/-- The walk of the search for this hint. -/
def route (swap : Bool) (bag slot : UInt8) : Route :=
  (s.hintRoute swap bag slot).followedBy
    ((s.namedRoute bag slot).followedBy
      ⟨s.everywhere bag slot, none⟩)

variable {s}

theorem follows_bagPass {noSimilar : Nat} (free : s.movesNonEmptyBag = false)
    (merge nonSpecialized : Bool) (bag slot i : UInt8) :
    Follows noSimilar
      (fun plan =>
        let pass := s.canStoreItemInBag i merge nonSpecialized bag slot plan
        if pass.1 ≠ .ok then .ok pass.2 else checkStored noSimilar pass.2)
      ⟨if i ≠ bag ∧ s.bagAdmits nonSpecialized i = true then
        s.visits merge (fun p => p.slot = slot)
          (s.bagPlaces i)
      else [], none⟩ := by
  intro f some_left
  dsimp only
  by_cases admitted : i ≠ bag ∧ s.bagAdmits nonSpecialized i = true
  · rw [if_pos admitted, canStoreItemInBag_admitted free admitted.1 admitted.2 some_left,
      if_neg (not_not_intro rfl), checkStored_ofFilling]
  · rw [if_neg admitted, canStoreItemInBag_refused free merge slot]
    · exact Follows.nothing noSimilar f some_left
    · rw [not_and_or, not_not, Bool.not_eq_true] at admitted
      exact admitted

theorem follows_bagPasses {noSimilar : Nat} (free : s.movesNonEmptyBag = false)
    (merge nonSpecialized : Bool) (bag slot : UInt8) :
    Follows noSimilar (bagPasses noSimilar fun i => s.canStoreItemInBag i merge
        nonSpecialized bag slot)
      ⟨s.carriedVisits merge nonSpecialized bag slot
        (slotRange inventorySlotBagStart inventorySlotBagEnd), none⟩ := by
  unfold bagPasses
  generalize slotRange inventorySlotBagStart inventorySlotBagEnd = bags
  induction bags with
  | nil => exact Follows.nothing noSimilar
  | cons i bags ih => exact (follows_bagPass free merge nonSpecialized bag slot i).append ih

theorem follows_inNamedBag {noSimilar : Nat} (free : s.movesNonEmptyBag = false)
    {bag : UInt8} (named : bag ≠ nullBag) (slot : UInt8) (merge : Bool) :
    Follows noSimilar (fun plan => passed noSimilar (s.inNamedBag bag slot merge plan))
      (s.namedBagRoute bag slot merge) := by
  intro f some_left
  change passed noSimilar (s.inNamedBag _ _ _ _) = _
  rw [inNamedBag, namedBagRoute, goesIntoBag]
  by_cases special : s.bagAdmits false bag = true
  · rw [canStoreItemInBag_admitted free named special some_left, special, Bool.true_or,
      if_pos rfl, if_neg (not_not_intro rfl), passed_ok, checkStored_ofFilling]
  · rw [Bool.not_eq_true] at special
    rw [canStoreItemInBag_refused free merge slot _ (.inr special), special, Bool.false_or,
      if_pos (show InventoryResult.itemDoesntGoIntoBag ≠ .ok by decide)]
    by_cases plain : s.bagAdmits true bag = true
    · rw [canStoreItemInBag_admitted free named plain some_left, plain, if_pos rfl, passed_ok,
        checkStored_ofFilling]
    · rw [Bool.not_eq_true] at plain
      rw [canStoreItemInBag_refused free merge slot _ (.inr plain), plain,
        if_neg Bool.false_ne_true]
      exact (Route.run_refusal some_left).symm

theorem follows_searchNamedBag {noSimilar : Nat} (free : s.movesNonEmptyBag = false)
    (bag slot : UInt8) :
    Follows noSimilar (s.searchNamedBag noSimilar bag slot) (s.namedRoute bag slot) := by
  unfold searchNamedBag namedRoute
  by_cases unnamed : bag = nullBag
  · simp only [if_pos unnamed]
    exact Follows.nothing noSimilar
  · by_cases own : bag = inventorySlotBag0
    · simp only [if_neg unnamed, if_pos own]
      have slots :=
        fun first last merge => @follows_inventorySlots s noSimilar free first last merge bag slot
      refine Follows.append (Follows.when ?_) (Follows.append (Follows.when ?_) ?_)
      · exact (slots _ _ _).append (slots _ _ _)
      · exact slots _ _ _
      · exact slots _ _ _
    · simp only [if_neg unnamed, if_neg own]
      refine Follows.bind (Follows.ite (fun _ => ?_) fun _ => Follows.nothing noSimilar) ?_
      · exact follows_inNamedBag free unnamed slot true
      · exact follows_inNamedBag free unnamed slot false

theorem follows_searchEverywhere {noSimilar : Nat} (free : s.movesNonEmptyBag = false)
    (bag slot : UInt8) :
    Follows noSimilar (s.searchEverywhere noSimilar bag slot) ⟨s.everywhere bag slot, none⟩ := by
  have own := fun first last merge => @follows_inventorySlots s
    noSimilar free first last merge bag slot
  have carried := fun merge nonSpecialized => @follows_bagPasses s
    noSimilar free merge nonSpecialized bag slot
  unfold searchEverywhere everywhere
  simp only [free, if_neg Bool.false_ne_true]
  refine Follows.append (Follows.when ?_) (Follows.append (Follows.when ?_) ?_)
  · refine (own _ _ _).append ((own _ _ _).append (Follows.append (Follows.when ?_) ?_))
    · exact carried _ _
    · exact carried _ _
  · exact Follows.append (Follows.when (own _ _ _)) (carried _ _)
  · exact (own _ _ _).append (carried _ _)

theorem hintFit_le {swap : Bool} {bag slot : UInt8} :
    (s.hintFit swap bag slot).2 ≤ s.pProto.stackable := by
  unfold hintFit
  split
  · exact Nat.le_refl _
  · exact Nat.le_refl _
  · exact Nat.sub_le _ _

theorem push_unless_contained {pos : Pos} {room : Nat} (small : room < 2 ^ 8) {f : Filling Pos}
    (some_left : f.left ≠ 0) :
    (if (Plan.ofFilling f).contains pos = true then (InventoryResult.ok, Plan.ofFilling f)
      else (.ok, (Plan.ofFilling f).push pos (min room (Plan.ofFilling f).count))) =
      (.ok, .ofFilling (f.fill [(pos, room)])) := by
  rw [Filling.fill_cons, Filling.fill_nil]
  by_cases old : pos ∈ f.keys
  · rw [if_pos ((contains_ofFilling f pos).mpr old), Filling.visit_passed (.inr old)]
  · rw [if_neg fun found => old ((contains_ofFilling f pos).mp found),
      push_ofFilling f pos (Nat.lt_of_le_of_lt (Nat.min_le_left _ _) small),
      Filling.visit_new some_left old]
    rfl

theorem canStoreItemInSpecificSlot_eq (free : s.movesNonEmptyBag = false)
    (swap : Bool) (bag slot : UInt8) (plan : Plan) :
    s.canStoreItemInSpecificSlot bag slot swap plan =
      let fit := s.hintFit swap bag slot
      if fit.1 ≠ .ok then (fit.1, plan)
      else if plan.contains ⟨bag, slot⟩ then (.ok, plan)
      else (.ok, plan.push ⟨bag, slot⟩ (min fit.2 plan.count)) := by
  unfold canStoreItemInSpecificSlot hintFit
  refine (if_neg (free ▸ Bool.false_ne_true)).trans ?_
  cases s.itemAt bag slot with
  | none => rfl
  | some item =>
      cases swap with
      | false => rfl
      | true => rfl

theorem follows_specificSlot {noSimilar : Nat} (free : s.movesNonEmptyBag = false)
    (swap : Bool) {bag slot : UInt8} (hinted : bag ≠ nullBag ∧ slot ≠ nullSlot) :
    Follows noSimilar (fun plan => passed noSimilar
        (s.canStoreItemInSpecificSlot bag slot swap plan))
      (s.hintRoute swap bag slot) := by
  intro f some_left
  have le := @hintFit_le s swap bag slot
  have small := s.pProto.stackable_le
  dsimp only
  rw [hintRoute, if_pos hinted, canStoreItemInSpecificSlot_eq free]
  dsimp only
  by_cases refused : (s.hintFit swap bag slot).1 ≠ .ok
  · rw [if_pos refused, if_pos refused, passed, if_pos refused, Route.run_refusal some_left]
  · rw [if_neg refused, if_neg refused, push_unless_contained (by omega) some_left, passed_ok,
      checkStored_ofFilling]

theorem follows_searchRoom {noSimilar : Nat} (free : s.movesNonEmptyBag = false)
    (swap : Bool) {bag slot : UInt8}
    (within : bag = inventorySlotBag0 → slot ≠ nullSlot → slot.toNat < keyringSlotEnd) :
    Follows noSimilar (s.searchRoom noSimilar bag slot swap) (s.route swap bag slot) := by
  unfold searchRoom route
  refine Follows.bind ?_ (Follows.bind (follows_searchNamedBag free bag slot)
    (follows_searchEverywhere free bag slot))
  by_cases hinted : bag ≠ nullBag ∧ slot ≠ nullSlot
  · have inside : ¬(bag = inventorySlotBag0 ∧ slot.toNat ≥ keyringSlotEnd) := fun beyond =>
      Nat.not_lt.mpr beyond.2 (within beyond.1 hinted.2)
    simp only [if_pos hinted, if_neg inside]
    exact follows_specificSlot free swap hinted
  · simp only [if_neg hinted, hintRoute]
    exact Follows.nothing noSimilar

end Search

variable (templates : Templates) (player : Player)

def allowance (entry count : Nat) (pItem : Option Item) : Nat :=
  let similar := canTakeMoreSimilarItems templates player entry count pItem
  if similar.1 ≠ .ok then (count + 2 ^ 32 - similar.2) % 2 ^ 32 else count

/-- Why nothing is searched at all. -/
def refusedOutright (entry count : Nat) (pItem : Option Item) : Prop :=
  templates.get entry = none ∨ pItem.any Item.hasTemporaryLoot = true ∨
    pItem.any Item.isBindedNotWith = true ∨
    ((canTakeMoreSimilarItems templates player entry count pItem).1 ≠ .ok ∧
      count = (canTakeMoreSimilarItems templates player entry count pItem).2)

namespace Search

variable {s : Search}

/-- What the search returns, when it is made. -/
def concluded (noSimilar : Nat) (search : Except Outcome Plan) : Outcome :=
  match search with
  | .error outcome => outcome
  | .ok plan => ⟨.inventoryFull, plan.dest, some ((plan.count + noSimilar) % 2 ^ 32)⟩

theorem concluded_run (noSimilar : Nat) (way : Route) (count : Nat) :
    concluded noSimilar (way.run noSimilar ⟨[], count⟩) = way.outcome noSimilar count := by
  have left_eq : (Plan.ofFilling (Filling.fill ⟨[], count⟩ way.places)).count =
      (Filling.fill ⟨[], count⟩ way.places).left := rfl
  by_cases none_left : (Filling.fill ⟨[], count⟩ way.places).left = 0
  · rw [Route.run_stored none_left, Route.outcome, checkStored, left_eq, if_pos none_left,
      if_pos none_left]
    by_cases unlimited : noSimilar = 0
    · rw [if_pos unlimited, if_pos unlimited]
      rfl
    · rw [if_neg unlimited, if_neg unlimited]
      rfl
  · rw [Route.outcome, left_eq, if_neg none_left]
    cases refused : way.refusal with
    | some result =>
        rw [Route.run_refused none_left refused]
        rfl
    | none =>
        rw [Route.run_through none_left refused]
        rfl

theorem canStoreItem_searched {entry count : Nat}
    (searched : ¬refusedOutright s.templates s.player entry count s.pSrcItem)
    (known : s.templates.get entry = some s.pProto) (bag slot : UInt8) (swap : Bool) :
    canStoreItem s.templates s.player bag slot entry count s.pSrcItem swap =
      concluded (canTakeMoreSimilarItems s.templates s.player entry count s.pSrcItem).2
        (s.searchRoom
          (canTakeMoreSimilarItems s.templates s.player entry count s.pSrcItem).2 bag slot swap
          ⟨[], allowance s.templates s.player entry count s.pSrcItem⟩) := by
  simp only [refusedOutright, not_or, Bool.not_eq_true] at searched
  obtain ⟨-, unlooted, unbound, allowed⟩ := searched
  unfold canStoreItem
  rw [known]
  dsimp only
  rw [unlooted, if_neg Bool.false_ne_true, unbound, if_neg Bool.false_ne_true, if_neg allowed]
  rfl

theorem canStoreItem_walk {entry count : Nat}
    (searched : ¬refusedOutright s.templates s.player entry count s.pSrcItem)
    (known : s.templates.get entry = some s.pProto) (free : s.movesNonEmptyBag = false)
    (swap : Bool) {bag slot : UInt8}
    (within : bag = inventorySlotBag0 → slot ≠ nullSlot → slot.toNat < keyringSlotEnd)
    (some_left : allowance s.templates s.player entry count s.pSrcItem ≠ 0) :
    canStoreItem s.templates s.player bag slot entry count s.pSrcItem swap =
      (s.route swap bag slot).outcome
        (canTakeMoreSimilarItems s.templates s.player entry count s.pSrcItem).2
        (allowance s.templates s.player entry count s.pSrcItem) := by
  have followed := @follows_searchRoom s
    (canTakeMoreSimilarItems s.templates s.player entry count s.pSrcItem).2 free swap
      bag slot within
    ⟨[], allowance s.templates s.player entry count s.pSrcItem⟩ some_left
  rw [canStoreItem_searched searched known, ← concluded_run, ← followed]
  rfl

end Search

end TortoiseWow.Storing
