import TortoiseWow.Lib.UnorderedMap

/-!
The index of src/shared/AreaLookupIndex.h beside the scan over the areas that it replaced: the
first area of the map with the flag, else the last one with the flag.
-/

namespace TortoiseWow.Shared

open Lib

structure Area where
  id : UInt32
  flag : UInt32
  map : UInt32
  zone : Bool
  deriving Repr, DecidableEq

structure AreaLookupIndex where
  exact : UnorderedMap UInt64 UInt32 := .empty
  fallback : UnorderedMap UInt32 UInt32 := .empty
  mapFlags : UnorderedMap UInt32 UInt32 := .empty

def exactKey (flag map : UInt32) : UInt64 := map.toUInt64 <<< 32 ||| flag.toUInt64

namespace AreaLookupIndex

def add (index : AreaLookupIndex) (area : Area) : AreaLookupIndex :=
  let index :=
    if area.flag ≠ 0 then
      { index with
        exact := index.exact.emplace (exactKey area.flag area.map) area.id
        fallback := index.fallback.assign area.flag area.id }
    else index
  if area.zone ∧ area.map ≠ 0 ∧ area.map ≠ 1 then
    { index with mapFlags := index.mapFlags.emplace area.map area.flag }
  else index

def find (index : AreaLookupIndex) (flag map : UInt32) : UInt32 :=
  match index.exact.find? (exactKey flag map) with
  | some id => id
  | none => (index.fallback.find? flag).getD 0

def mapFlag (index : AreaLookupIndex) (map : UInt32) : UInt32 := (index.mapFlags.find? map).getD 0

end AreaLookupIndex

def scanFind (flag map : UInt32) : UInt32 → List Area → UInt32
  | last, [] => last
  | last, area :: rest =>
      if flag ≠ 0 ∧ flag = area.flag then
        if area.map = map then area.id else scanFind flag map area.id rest
      else scanFind flag map last rest

def scanMapFlag (map : UInt32) : List Area → UInt32
  | [] => 0
  | area :: rest =>
      if area.zone ∧ area.map = map ∧ map ≠ 0 ∧ map ≠ 1 then area.flag else scanMapFlag map rest

def Area.flagged (flag : UInt32) (area : Area) : Bool := area.flag ≠ 0 ∧ area.flag = flag

def Area.isExact (flag map : UInt32) (area : Area) : Bool := area.flagged flag ∧ area.map = map

def Area.names (map : UInt32) (area : Area) : Bool :=
  area.zone ∧ area.map ≠ 0 ∧ area.map ≠ 1 ∧ area.map = map

theorem scanFind_eq (flag map last : UInt32) (areas : List Area) :
    scanFind flag map last areas =
      (((areas.find? (Area.isExact flag map)).or (areas.reverse.find? (Area.flagged flag))).map
        Area.id).getD last := by
  induction areas generalizing last with
  | nil => rfl
  | cons area rest ih =>
      have flagged : Area.flagged flag area = true ↔ flag ≠ 0 ∧ flag = area.flag := by
        simp only [Area.flagged, decide_eq_true_eq]
        exact ⟨fun both => ⟨both.2 ▸ both.1, both.2.symm⟩, fun both =>
          ⟨both.2 ▸ both.1, both.2.symm⟩⟩
      have isExact : Area.isExact flag map area = true ↔
          (flag ≠ 0 ∧ flag = area.flag) ∧ area.map = map := by
        simp only [Area.isExact, decide_eq_true_eq, flagged]
      rw [scanFind, List.reverse_cons, List.find?_append]
      by_cases has : flag ≠ 0 ∧ flag = area.flag
      · rw [if_pos has]
        by_cases here : area.map = map
        · rw [if_pos here, List.find?_cons_of_pos (isExact.mpr ⟨has, here⟩)]
          rfl
        · rw [if_neg here, List.find?_cons_of_neg (fun found => here (isExact.mp found).2), ih,
            List.find?_cons_of_pos (flagged.mpr has), ← Option.or_assoc]
          cases (rest.find? (Area.isExact flag map)).or
            (rest.reverse.find? (Area.flagged flag)) <;> rfl
      · rw [if_neg has, List.find?_cons_of_neg (fun found => has (isExact.mp found).1),
          List.find?_cons_of_neg (fun found => has (flagged.mp found)), List.find?_nil,
          Option.or_none, ih]

theorem scanMapFlag_eq (map : UInt32) (areas : List Area) :
    scanMapFlag map areas = ((areas.find? (Area.names map)).map Area.flag).getD 0 := by
  induction areas with
  | nil => rfl
  | cons area rest ih =>
      have names : Area.names map area = true ↔ area.zone ∧ area.map = map ∧ map ≠ 0 ∧ map ≠ 1 := by
        simp only [Area.names, decide_eq_true_eq]
        constructor
        · rintro ⟨zone, notZero, notOne, rfl⟩
          exact ⟨zone, rfl, notZero, notOne⟩
        · rintro ⟨zone, rfl, notZero, notOne⟩
          exact ⟨zone, notZero, notOne, rfl⟩
      rw [scanMapFlag]
      by_cases found : area.zone ∧ area.map = map ∧ map ≠ 0 ∧ map ≠ 1
      · rw [if_pos found, List.find?_cons_of_pos (names.mpr found)]
        rfl
      · rw [if_neg found, List.find?_cons_of_neg (fun here => found (names.mp here)), ih]

theorem toNat_exactKey (flag map : UInt32) :
    (exactKey flag map).toNat = map.toNat * 2 ^ 32 + flag.toNat := by
  have low := flag.toNat_lt
  have high := map.toNat_lt
  rw [exactKey, UInt64.toNat_or, UInt64.toNat_shiftLeft, UInt32.toNat_toUInt64,
    UInt32.toNat_toUInt64]
  change (map.toNat <<< 32 % 2 ^ 64) ||| flag.toNat = _
  rw [Nat.shiftLeft_eq, Nat.mod_eq_of_lt (by omega), Nat.mul_comm, Nat.two_pow_add_eq_or_of_lt low]

theorem exactKey_inj {flag map flag' map' : UInt32} :
    exactKey flag map = exactKey flag' map' ↔ flag = flag' ∧ map = map' := by
  refine ⟨fun same => ?_, fun both => both.1 ▸ both.2 ▸ rfl⟩
  have same := congrArg UInt64.toNat same
  have low := flag.toNat_lt
  have low' := flag'.toNat_lt
  rw [toNat_exactKey, toNat_exactKey] at same
  exact ⟨UInt32.toNat_inj.mp (by omega), UInt32.toNat_inj.mp (by omega)⟩

structure Indexes (areas : List Area) (index : AreaLookupIndex) : Prop where
  exact : ∀ flag map, index.exact.find? (exactKey flag map) =
    (areas.find? (Area.isExact flag map)).map Area.id
  fallback : ∀ flag, index.fallback.find? flag =
    (areas.reverse.find? (Area.flagged flag)).map Area.id
  mapFlags : ∀ map, index.mapFlags.find? map = (areas.find? (Area.names map)).map Area.flag

theorem indexes_empty : Indexes [] {} := ⟨fun _ _ => rfl, fun _ => rfl, fun _ => rfl⟩

theorem find?_singleton {p : Area → Bool} (area : Area) :
    [area].find? p = if p area then some area else none := by
  cases h : p area <;> simp [h]

theorem Indexes.add {areas : List Area} {index : AreaLookupIndex} (h : Indexes areas index)
    (area : Area) : Indexes (areas ++ [area]) (index.add area) := by
  constructor
  · intro flag map
    have same : exactKey flag map = exactKey area.flag area.map ↔
        flag = area.flag ∧ map = area.map := exactKey_inj
    have kept : (index.add area).exact = if area.flag ≠ 0 then
        index.exact.emplace (exactKey area.flag area.map) area.id else index.exact := by
      simp only [AreaLookupIndex.add]
      split <;> split <;> rfl
    rw [kept, List.find?_append, find?_singleton, Option.map_or, ← h.exact]
    simp only [Area.isExact, Area.flagged, decide_eq_true_eq]
    by_cases some : area.flag ≠ 0
    · rw [if_pos some, UnorderedMap.find?_emplace]
      by_cases here : flag = area.flag ∧ map = area.map
      · rw [if_pos (same.mpr here), if_pos ⟨⟨some, here.1.symm⟩, here.2.symm⟩, Option.map_some]
      · rw [if_neg (mt same.mp here), if_neg fun found => here ⟨found.1.2.symm, found.2.symm⟩,
          Option.map_none]
    · rw [if_neg some, if_neg fun found => some found.1.1, Option.map_none, Option.or_none]
  · intro flag
    have kept : (index.add area).fallback = if area.flag ≠ 0 then
        index.fallback.assign area.flag area.id else index.fallback := by
      simp only [AreaLookupIndex.add]
      split <;> split <;> rfl
    rw [kept, List.reverse_append, List.reverse_singleton, List.find?_append, find?_singleton,
      Option.map_or, ← h.fallback]
    simp only [Area.flagged, decide_eq_true_eq]
    by_cases some : area.flag ≠ 0
    · rw [if_pos some, UnorderedMap.find?_assign]
      by_cases here : flag = area.flag
      · rw [if_pos here, if_pos ⟨some, here.symm⟩, Option.map_some, Option.some_or]
      · rw [if_neg here, if_neg fun found => here found.2.symm, Option.map_none, Option.none_or]
    · rw [if_neg some, if_neg fun found => some found.1, Option.map_none, Option.none_or]
  · intro map
    have kept : (index.add area).mapFlags = if area.zone ∧ area.map ≠ 0 ∧ area.map ≠ 1 then
        index.mapFlags.emplace area.map area.flag else index.mapFlags := by
      simp only [AreaLookupIndex.add]
      split <;> split <;> rfl
    rw [kept, List.find?_append, find?_singleton, Option.map_or, ← h.mapFlags]
    simp only [Area.names, decide_eq_true_eq]
    by_cases names : area.zone ∧ area.map ≠ 0 ∧ area.map ≠ 1
    · rw [if_pos names, UnorderedMap.find?_emplace]
      by_cases here : map = area.map
      · rw [if_pos here, if_pos ⟨names.1, names.2.1, names.2.2, here.symm⟩, Option.map_some]
      · rw [if_neg here, if_neg fun found => here found.2.2.2.symm, Option.map_none]
    · rw [if_neg names, if_neg fun found => names ⟨found.1, found.2.1, found.2.2.1⟩,
        Option.map_none, Option.or_none]

theorem indexes_add (areas : List Area) : Indexes areas (areas.foldl AreaLookupIndex.add {}) := by
  induction areas using List.reverseRecOn with
  | nil => exact indexes_empty
  | append_singleton areas area ih =>
      rw [List.foldl_append]
      exact ih.add area

/-- Whatever was added in whatever order, a query of the index finds what the scan of the added
areas does. -/
theorem index_eq_scan (areas : List Area) (flag map : UInt32) :
    (areas.foldl AreaLookupIndex.add {}).find flag map = scanFind flag map 0 areas ∧
      (areas.foldl AreaLookupIndex.add {}).mapFlag map = scanMapFlag map areas := by
  have h := indexes_add areas
  constructor
  · rw [scanFind_eq, AreaLookupIndex.find, h.exact, h.fallback]
    cases areas.find? (Area.isExact flag map) <;> rfl
  · rw [scanMapFlag_eq, AreaLookupIndex.mapFlag, h.mapFlags]

end TortoiseWow.Shared
