import Mathlib
import TortoiseWow.Lib.UnorderedMap

/-!
The index of src/shared/PopulationSpatialIndex.h with its coordinates as rationals. Points
lie in buckets as wide as the radius, so a query looks at nine of them. `Valid` keeps every
bucket far inside 64 bits.
-/

namespace TortoiseWow

open Lib

namespace PopulationSpatialIndex

structure Key where
  map : UInt32
  zone : UInt32
  x : Int
  y : Int
  deriving Repr, DecidableEq

structure Point where
  x : ℚ
  y : ℚ
  deriving Repr, DecidableEq

end PopulationSpatialIndex

open PopulationSpatialIndex

structure PopulationSpatialIndex where
  radius : ℚ
  cells : UnorderedMap Key (List Point) := .empty

structure PopulationSpatialIndex.Call where
  map : UInt32
  zone : UInt32
  point : Point
  deriving Repr, DecidableEq

namespace PopulationSpatialIndex

variable (index : PopulationSpatialIndex)

def valid (p : Point) : Bool :=
  0 < index.radius && |p.x / index.radius| < 10 ^ 15 && |p.y / index.radius| < 10 ^ 15

def bucket (value : ℚ) : Int := ⌊value / index.radius⌋

def key (map zone : UInt32) (p : Point) : Key := ⟨map, zone, index.bucket p.x, index.bucket p.y⟩

def add (call : Call) : PopulationSpatialIndex :=
  if !index.valid call.point then index
  else
    let key := index.key call.map call.zone call.point
    { index with
      cells := index.cells.assign key ((index.cells.find? key).getD [] ++ [call.point]) }

def near (q p : Point) : Bool :=
  (p.x - q.x) * (p.x - q.x) + (p.y - q.y) * (p.y - q.y) ≤ index.radius * index.radius

/-- The loop over one bucket: whether the limit is reached, and the count. -/
def countPoints (q : Point) (limit : UInt32) : List Point → UInt32 → Bool × UInt32
  | [], count => (false, count)
  | p :: rest, count =>
      if index.near q p then
        if limit ≤ count + 1 then (true, count + 1) else countPoints q limit rest (count + 1)
      else countPoints q limit rest count

def offsets : List (Int × Int) :=
  [(-1, -1), (-1, 0), (-1, 1), (0, -1), (0, 0), (0, 1), (1, -1), (1, 0), (1, 1)]

def neighbour (map zone : UInt32) (q : Point) (offset : Int × Int) : Key :=
  ⟨map, zone, index.bucket q.x + offset.1, index.bucket q.y + offset.2⟩

def countCells (map zone : UInt32) (q : Point) (limit : UInt32) :
    List (Int × Int) → UInt32 → Bool
  | [], _ => false
  | offset :: rest, count =>
      match index.cells.find? (index.neighbour map zone q offset) with
      | none => countCells map zone q limit rest count
      | some points =>
          match index.countPoints q limit points count with
          | (true, _) => true
          | (false, count) => countCells map zone q limit rest count

def atLeast (map zone : UInt32) (q : Point) (limit : UInt32) : Bool :=
  if limit = 0 then true
  else if !index.valid q then false
  else index.countCells map zone q limit offsets 0

def ofCalls (radius : ℚ) (calls : List Call) : PopulationSpatialIndex :=
  calls.foldl add { radius }

def pointsAt (key : Key) : List Point := (index.cells.find? key).getD []

theorem countPoints_eq (q : Point) {limit : UInt32} (points : List Point) {count : UInt32}
    (below : count < limit) :
    (limit.toNat ≤ count.toNat + points.countP (index.near q) →
      (index.countPoints q limit points count).1 = true) ∧
    (count.toNat + points.countP (index.near q) < limit.toNat →
      (index.countPoints q limit points count).1 = false ∧
        (index.countPoints q limit points count).2.toNat =
          count.toNat + points.countP (index.near q)) := by
  have small := UInt32.lt_iff_toNat_lt.mp below
  induction points generalizing count with
  | nil => exact ⟨fun reached => absurd reached (Nat.not_le_of_lt small), fun _ => ⟨rfl, rfl⟩⟩
  | cons p rest ih =>
      by_cases isNear : index.near q p = true
      · have next : (count + 1).toNat = count.toNat + 1 := by
          have bound := limit.toNat_lt
          rw [UInt32.toNat_add, UInt32.toNat_one, Nat.mod_eq_of_lt (by omega)]
        rw [List.countP_cons_of_pos isNear, countPoints, if_pos isNear]
        by_cases done : limit ≤ count + 1
        · have reached := UInt32.le_iff_toNat_le.mp done
          rw [if_pos done]
          exact ⟨fun _ => rfl, fun short => by omega⟩
        · have below' : count + 1 < limit := UInt32.not_le.mp done
          have ih := ih below' (UInt32.lt_iff_toNat_lt.mp below')
          rw [next] at ih
          rw [if_neg done]
          refine ⟨fun reached => ih.1 (by omega), fun short => ?_⟩
          obtain ⟨running, total⟩ := ih.2 (by omega)
          exact ⟨running, by omega⟩
      · rw [List.countP_cons_of_neg isNear, countPoints, if_neg isNear]
        exact ih below small

def total (map zone : UInt32) (q : Point) (offsets : List (Int × Int)) : Nat :=
  (offsets.map fun offset =>
    (index.pointsAt (index.neighbour map zone q offset)).countP (index.near q)).sum

theorem countCells_iff (map zone : UInt32) (q : Point) {limit : UInt32}
    (offsets : List (Int × Int)) {count : UInt32} (below : count < limit) :
    index.countCells map zone q limit offsets count = true ↔
      limit.toNat ≤ count.toNat + index.total map zone q offsets := by
  induction offsets generalizing count with
  | nil =>
      have small := UInt32.lt_iff_toNat_lt.mp below
      exact iff_of_false Bool.false_ne_true (Nat.not_le_of_lt small)
  | cons offset rest ih =>
      have totals : index.total map zone q (offset :: rest) =
          (index.pointsAt (index.neighbour map zone q offset)).countP (index.near q) +
            index.total map zone q rest := rfl
      rw [totals, countCells]
      cases found : index.cells.find? (index.neighbour map zone q offset) with
      | none =>
          simp only [pointsAt, found, Option.getD_none, List.countP_nil, Nat.zero_add]
          exact ih below
      | some points =>
          obtain ⟨reached, running⟩ := index.countPoints_eq q points below
          simp only [pointsAt, found, Option.getD_some]
          by_cases short : count.toNat + points.countP (index.near q) < limit.toNat
          · obtain ⟨going, sum⟩ := running short
            cases outcome : index.countPoints q limit points count with
            | mk done after =>
                rw [outcome] at going sum
                cases done with
                | true => cases going
                | false =>
                    simp only at sum ⊢
                    rw [ih (UInt32.lt_iff_toNat_lt.mpr (sum ▸ short)), sum, Nat.add_assoc]
          · have done := reached (Nat.le_of_not_lt short)
            cases outcome : index.countPoints q limit points count with
            | mk done' after =>
                rw [outcome] at done
                cases done' with
                | false => cases done
                | true => exact iff_of_true rfl (by omega)

theorem radius_add (call : Call) : (index.add call).radius = index.radius := by
  rw [add]
  split <;> rfl

theorem pointsAt_add (call : Call) (key : Key) (inside : index.valid call.point = true) :
    (index.add call).pointsAt key =
      index.pointsAt key ++
        if index.key call.map call.zone call.point = key then [call.point] else [] := by
  rw [add, if_neg (by rw [inside]; decide), pointsAt, UnorderedMap.find?_assign]
  by_cases same : index.key call.map call.zone call.point = key
  · rw [if_pos same.symm, if_pos same, same]
    rfl
  · rw [if_neg (Ne.symm same), if_neg same, List.append_nil]
    rfl

theorem pointsAt_foldl (calls : List Call) (key : Key)
    (inside : ∀ call ∈ calls, index.valid call.point = true) :
    (calls.foldl add index).radius = index.radius ∧
      (calls.foldl add index).pointsAt key =
        index.pointsAt key ++
          (calls.filter fun call => index.key call.map call.zone call.point = key).map
            (·.point) := by
  induction calls generalizing index with
  | nil => exact ⟨rfl, (List.append_nil _).symm⟩
  | cons call rest ih =>
      have first := inside call List.mem_cons_self
      have radius := index.radius_add call
      have same : ∀ call' : Call, (index.add call).key call'.map call'.zone call'.point =
          index.key call'.map call'.zone call'.point := by
        intro call'
        rw [PopulationSpatialIndex.key, PopulationSpatialIndex.key, bucket, bucket, bucket, bucket,
          radius]
      have later : ∀ call' ∈ rest, (index.add call).valid call'.point = true := by
        intro call' member
        rw [valid, radius]
        exact inside call' (List.mem_cons_of_mem _ member)
      obtain ⟨kept, points⟩ := ih (index.add call) later
      simp only [same] at points
      rw [List.foldl_cons, List.filter_cons]
      refine ⟨kept.trans radius, points.trans ?_⟩
      rw [index.pointsAt_add call key first, List.append_assoc]
      congr 1
      by_cases here : index.key call.map call.zone call.point = key
      · simp [here]
      · simp [here]

/-- Values not more than the width of a bucket apart lie in buckets next to each other. -/
theorem floor_near {a b : ℚ} (near : |a - b| ≤ 1) : |⌊a⌋ - ⌊b⌋| ≤ 1 := by
  obtain ⟨low, high⟩ := abs_le.mp near
  have above : ⌊a⌋ ≤ ⌊b⌋ + 1 := by
    rw [← Int.floor_add_one]
    exact Int.floor_le_floor (by linarith)
  have below : ⌊b⌋ ≤ ⌊a⌋ + 1 := by
    rw [← Int.floor_add_one]
    exact Int.floor_le_floor (by linarith)
  rw [abs_le]
  constructor
  · linarith
  · linarith

theorem bucket_near (positive : 0 < index.radius) {a b : ℚ} (near : |a - b| ≤ index.radius) :
    |index.bucket a - index.bucket b| ≤ 1 := by
  apply floor_near
  rw [← sub_div, abs_div, abs_of_pos positive]
  exact (div_le_one positive).mpr near

theorem near_coordinates (positive : 0 < index.radius) {q p : Point}
    (near : index.near q p = true) : |p.x - q.x| ≤ index.radius ∧ |p.y - q.y| ≤ index.radius := by
  have squares := of_decide_eq_true near
  have x := mul_self_nonneg (p.x - q.x)
  have y := mul_self_nonneg (p.y - q.y)
  constructor
  · exact abs_le_of_sq_le_sq (by nlinarith) positive.le
  · exact abs_le_of_sq_le_sq (by nlinarith) positive.le

theorem countP_offsets (positive : 0 < index.radius) (map zone : UInt32) (q : Point) (call : Call) :
    (offsets.countP fun offset =>
        index.key call.map call.zone call.point = index.neighbour map zone q offset ∧
          index.near q call.point = true) =
      if call.map = map ∧ call.zone = zone ∧ index.near q call.point = true then 1 else 0 := by
  by_cases isNear : index.near q call.point = true
  · obtain ⟨x, y⟩ := index.near_coordinates positive isNear
    have bx := abs_le.mp (index.bucket_near positive x)
    have bY := abs_le.mp (index.bucket_near positive y)
    simp only [isNear, and_true, key, neighbour, Key.mk.injEq]
    by_cases sameMap : call.map = map
    · by_cases sameZone : call.zone = zone
      · obtain ⟨dx, hx⟩ : ∃ dx, index.bucket call.point.x = index.bucket q.x + dx :=
          ⟨_, (add_sub_cancel _ _).symm⟩
        obtain ⟨dy, hy⟩ : ∃ dy, index.bucket call.point.y = index.bucket q.y + dy :=
          ⟨_, (add_sub_cancel _ _).symm⟩
        rw [hx, add_sub_cancel_left] at bx
        rw [hy, add_sub_cancel_left] at bY
        simp only [sameMap, sameZone, hx, hy, add_right_inj, true_and, and_self, if_true]
        have cases_x : dx = -1 ∨ dx = 0 ∨ dx = 1 := by omega
        have cases_y : dy = -1 ∨ dy = 0 ∨ dy = 1 := by omega
        rcases cases_x with rfl | rfl | rfl <;> rcases cases_y with rfl | rfl | rfl <;> decide
      · simp [sameZone]
    · simp [sameMap]
  · simp [isNear]

theorem sum_map_countP {α β : Type} (os : List α) (calls : List β) (p : α → β → Bool) :
    (os.map fun o => calls.countP (p o)).sum =
    (calls.map fun c => os.countP fun o => p o c).sum := by
  induction calls with
  | nil => simp
  | cons c rest ih =>
      rw [List.map_cons, List.sum_cons, ← ih]
      clear ih
      induction os with
      | nil => rfl
      | cons o os ih =>
          simp only [List.map_cons, List.sum_cons, List.countP_cons] at ih ⊢
          omega

theorem sum_map_ite {β : Type} (calls : List β) (p : β → Prop) [DecidablePred p] :
    (calls.map fun c => if p c then 1 else 0).sum = calls.countP p := by
  induction calls with
  | nil => rfl
  | cons c rest ih =>
      rw [List.map_cons, List.sum_cons, ih, List.countP_cons, Nat.add_comm]
      simp only [decide_eq_true_eq]

theorem total_eq (positive : 0 < index.radius) (calls : List Call) (map zone : UInt32) (q : Point)
    (stored : ∀ key, index.pointsAt key =
      (calls.filter fun call => index.key call.map call.zone call.point = key).map (·.point)) :
    index.total map zone q offsets =
      calls.countP fun call =>
        call.map = map ∧ call.zone = zone ∧ index.near q call.point = true := by
  have counts : index.total map zone q offsets =
      (offsets.map fun offset => calls.countP fun call =>
        index.key call.map call.zone call.point = index.neighbour map zone q offset ∧
          index.near q call.point = true).sum := by
    rw [total]
    congr 1
    refine List.map_congr_left fun offset _ => ?_
    rw [stored, List.countP_map, List.countP_filter]
    refine List.countP_congr fun call _ => ?_
    simp [and_comm]
  rw [counts, sum_map_countP offsets calls]
  simp only [index.countP_offsets positive]
  exact sum_map_ite calls _

def within (radius : ℚ) (map zone : UInt32) (q : Point) (call : Call) : Bool :=
  call.map = map && call.zone = zone &&
    (call.point.x - q.x) ^ 2 + (call.point.y - q.y) ^ 2 ≤ radius ^ 2

/-- The distance is the one of the plane. -/
theorem within_iff_dist {radius : ℚ} (positive : 0 < radius) (map zone : UInt32) (q : Point)
    (call : Call) : within radius map zone q call = true ↔ call.map = map ∧ call.zone = zone ∧
      √(((call.point.x - q.x) ^ 2 + (call.point.y - q.y) ^ 2 : ℚ) : ℝ) ≤ (radius : ℝ) := by
  have pos : (0 : ℝ) ≤ radius := by exact_mod_cast positive.le
  rw [Real.sqrt_le_left pos]
  simp only [within, Bool.and_eq_true, decide_eq_true_eq, and_assoc]
  norm_cast

/-- The coordinates are less than 10^15 radii. -/
def InRange (radius : ℚ) (p : Point) : Prop :=
  |p.x / radius| < 10 ^ 15 ∧ |p.y / radius| < 10 ^ 15

/-- A query finds what a look at all points finds. -/
theorem atLeast_iff {radius : ℚ} (positive : 0 < radius) {calls : List Call}
    (inRange : ∀ call ∈ calls, InRange radius call.point) (map zone : UInt32) {q : Point}
    (queryInRange : InRange radius q) (limit : UInt32) :
    (ofCalls radius calls).atLeast map zone q limit = true ↔
      limit.toNat ≤ calls.countP (within radius map zone q) := by
  have accepted : ∀ p, InRange radius p → ({ radius } : PopulationSpatialIndex).valid p = true := by
    intro p range
    rw [valid, Bool.and_eq_true, Bool.and_eq_true]
    exact ⟨⟨decide_eq_true positive, decide_eq_true range.1⟩, decide_eq_true range.2⟩
  have stored := fun key => pointsAt_foldl { radius } calls key
    fun call member => accepted _ (inRange call member)
  have sameRadius : (ofCalls radius calls).radius = radius := (stored ⟨0, 0, 0, 0⟩).1
  by_cases none : limit = 0
  · rw [none, atLeast, if_pos rfl]
    exact iff_of_true rfl (Nat.zero_le _)
  have queried : (ofCalls radius calls).valid q = true := by
    rw [valid, sameRadius]
    exact accepted q queryInRange
  rw [atLeast, if_neg none, if_neg (by rw [queried]; decide)]
  have first : (0 : UInt32) < limit := UInt32.pos_iff_ne_zero.mpr none
  have positive' : 0 < (ofCalls radius calls).radius := by
    rw [sameRadius]
    exact positive
  rw [countCells_iff _ map zone q offsets first, total_eq _ positive' calls]
  · have counts : (calls.countP fun call => call.map = map ∧ call.zone = zone ∧
        (ofCalls radius calls).near q call.point = true) =
          calls.countP (within radius map zone q) := by
      refine List.countP_congr fun call _ => ?_
      simp only [near, within, sameRadius, pow_two, decide_eq_true_eq, Bool.and_eq_true, and_assoc]
    rw [counts, UInt32.toNat_zero, Nat.zero_add]
  · intro key
    have sameKey : ∀ call : Call, (ofCalls radius calls).key call.map call.zone call.point =
        ({ radius } : PopulationSpatialIndex).key call.map call.zone call.point := by
      intro call
      rw [PopulationSpatialIndex.key, bucket, bucket, sameRadius]
      rfl
    simp only [sameKey]
    exact (stored key).2

/-- Two points exactly at the radius, another map and another zone. -/
def edge : List Call :=
  [⟨0, 1, ⟨-10, 0⟩⟩, ⟨0, 1, ⟨10, 0⟩⟩, ⟨1, 1, ⟨0, 0⟩⟩, ⟨0, 2, ⟨0, 0⟩⟩]

theorem edge_atLeast : (ofCalls 10 edge).atLeast 0 1 ⟨0, 0⟩ 2 = true := by
  have positive : (0 : ℚ) < 10 := by norm_num
  have inRange : ∀ call ∈ edge, InRange 10 call.point := by
    intro call member
    simp only [edge, List.mem_cons, List.not_mem_nil, or_false] at member
    rcases member with rfl | rfl | rfl | rfl <;> constructor <;> norm_num
  have queryInRange : InRange 10 ⟨0, 0⟩ := by
    constructor <;> norm_num
  exact (atLeast_iff positive inRange 0 1 queryInRange 2).mpr (by decide +kernel)

end PopulationSpatialIndex

end TortoiseWow
