import TortoiseWow.Lib.Fenwick

/-!
Weighted sampling without replacement. The draws are exact rationals, one for each round, and
the words of the tree have 64 bits; indexes of a vector never reach the width of a word.
-/

namespace TortoiseWow.ManTech

open Lib Lib.Fenwick

variable {α : Type}

/-- The vectors and the locals of the function. -/
structure PositiveWeightedShuffle (α : Type) where
  items : List α
  weights : List Nat
  tree : List Nat
  total : Nat
  /-- Some entry of the tree was smaller than what was subtracted from it. -/
  underflow : Bool := false
  deriving DecidableEq

def add64 (a b : Nat) : Nat := (a + b) % 2 ^ 64

def sub64 (a b : Nat) : Nat := (a + (2 ^ 64 - b)) % 2 ^ 64

def swap (xs : List α) (i j : Nat) : List α := (xs.toArray.swapIfInBounds i j).toList

/-- The tree and the total after so many rounds of the first loop. -/
def build (weights : List Nat) : Nat → Option (List Nat × Nat)
  | 0 => some (List.replicate (weights.length + 1) 0, 0)
  | i + 1 =>
      match build weights i with
      | none => none
      | some built =>
          if 0 < weights.getD i 0 then
            some
              (buildStep 64 weights.length add64 (fun p => weights.getD (p - 1) 0) (i + 1) built.1,
              add64 built.2 (weights.getD i 0))
          else none

namespace PositiveWeightedShuffle

def subtract (index value : Nat) (s : PositiveWeightedShuffle α) : PositiveWeightedShuffle α :=
  let count := s.items.length
  { s with
    tree := climb 64 count (fun sum => sub64 sum value) count (index + 1) s.tree
    underflow := s.underflow ||
      climbAny 64 count (fun sum => decide (sum < value)) count (index + 1) s.tree }

def add (index value : Nat) (s : PositiveWeightedShuffle α) : PositiveWeightedShuffle α :=
  let count := s.items.length
  { s with tree := climb 64 count (fun sum => add64 sum value) count (index + 1) s.tree }

def select (first : Nat) (draw : ℚ) (s : PositiveWeightedShuffle α) : Nat :=
  let count := s.items.length
  let target := draw * s.total
  if 0 < target then
    min (descend count add64 (fun sum => decide ((sum : ℚ) < target)) s.tree 64
      (topBit count 63 1) 0 0) (count - 1)
  else first

def exchange (first selected selectedWeight : Nat) (s : PositiveWeightedShuffle α) :
    PositiveWeightedShuffle α :=
  let s := (s.subtract selected selectedWeight).add selected (s.weights.getD first 0)
  { s with
    items := swap s.items first selected
    weights := swap s.weights first selected }

/-- One round of the second loop; `none` is the failed assertion. -/
def round (first : Nat) (draw : ℚ) (s : PositiveWeightedShuffle α) :
    Option (PositiveWeightedShuffle α) :=
  let selected := s.select first draw
  if selected < first then none
  else
    let selectedWeight := s.weights.getD selected 0
    let s := if selected = first then s else s.exchange first selected selectedWeight
    let s := s.subtract first
      (if selected = first then selectedWeight else s.weights.getD selected 0)
    some { s with total := sub64 s.total selectedWeight }

def rounds (draws : Nat → ℚ) : Nat → Nat → PositiveWeightedShuffle α →
    Option (PositiveWeightedShuffle α)
  | 0, _, s => some s
  | left + 1, first, s =>
      match s.round first (draws first) with
      | none => none
      | some s => rounds draws left (first + 1) s

end PositiveWeightedShuffle

def positiveWeightedShuffle (items : List α) (weights : List Nat) (draws : Nat → ℚ) :
    Option (PositiveWeightedShuffle α) :=
  let count := items.length
  if count ≠ weights.length then none
  else if count = 0 then some { items, weights, tree := [], total := 0 }
  else
    match build weights count with
    | none => none
    | some built =>
        if built.2 ≤ 2 ^ 53 then
          PositiveWeightedShuffle.rounds draws count 0
            { items, weights, tree := built.1, total := built.2 }
        else none

def reaching (target : ℚ) : Nat → List Nat → Nat
  | _, [] => 0
  | sum, weight :: weights =>
      if target ≤ ((sum + weight : Nat) : ℚ) then 0 else reaching target (sum + weight) weights + 1

def weightedShuffleRound (first : Nat) (draw : ℚ) (pairs : List (α × Nat)) : List (α × Nat) :=
  let weights := (pairs.drop first).map Prod.snd
  swap pairs first (first + reaching (draw * weights.sum) 0 weights)

def weightedShuffleRounds (draws : Nat → ℚ) : Nat → Nat → List (α × Nat) → List (α × Nat)
  | 0, _, pairs => pairs
  | left + 1, first, pairs =>
      weightedShuffleRounds draws left (first + 1) (weightedShuffleRound first (draws first) pairs)

/-- Each round scans the remaining weights and swaps what it selects to their front. -/
def weightedShuffle (draws : Nat → ℚ) (pairs : List (α × Nat)) : List (α × Nat) :=
  weightedShuffleRounds draws pairs.length 0 pairs

end TortoiseWow.ManTech
