import TortoiseWow.Lib.Run
import TortoiseWow.Lib.UnorderedMap

/-!
Loot rolls of a group: the votes of a roll beside its totals, votes by packet, members who
leave, and the timer of the looted creature. What becomes of the item afterwards is the
loot's business; a decided roll is kept with its outcome.
-/

namespace TortoiseWow.LootRolls

inductive RollVote where
  | pass
  | need
  | greed
  | notEmitedYet
  | notValid
  deriving Repr, DecidableEq

def maxRollFromClient : UInt8 := 3

def rollVoteOf (rollType : UInt8) : RollVote :=
  if rollType = 0 then .pass
  else if rollType = 1 then .need
  else if rollType = 2 then .greed
  else if rollType = 3 then .notEmitedYet
  else .notValid

abbrev PlayerVote := Lib.UnorderedMap UInt64 RollVote

/-- `valid` says whether the link to the loot stands. -/
structure Roll where
  lootedTargetGUID : UInt64
  itemSlot : UInt8
  loot : Nat
  valid : Bool := true
  playerVote : PlayerVote
  totalPlayersRolling : UInt8
  totalNeed : UInt8 := 0
  totalGreed : UInt8 := 0
  totalPass : UInt8 := 0

inductive Outcome where
  | gone
  | won (guid : UInt64) (number : UInt8) (kind : RollVote)
  | nobody
  | allPassed
  deriving Repr, DecidableEq

/-- A decided roll. `expired` says that the timer decided it. -/
structure Decision where
  roll : Roll
  expired : Bool
  outcome : Outcome

/-- What `urand(1, 100)` returns. -/
abbrev Die := { n : UInt8 // 1 ≤ n ∧ n ≤ 100 }

/-- The players of a group who may roll, at most a full raid, in the order of the map. -/
structure Eligible where
  guids : List UInt64
  nodup : guids.Nodup
  size : guids.length ≤ 40

structure Rolls where
  rolls : List Roll := []
  decided : List Decision := []
  items : Nat → Nat := fun _ => 0
  started : Nat := 0
  rolled : Nat := 0

namespace Roll

def startOf (target : UInt64) (itemSlot : UInt8) (loot : Nat) (eligible : Eligible) : Roll where
  lootedTargetGUID := target
  itemSlot := itemSlot
  loot := loot
  playerVote :=
    { entries := eligible.guids.map fun guid => (guid, .notEmitedYet)
      nodup := by
        rw [List.map_map]
        exact (List.map_id _).symm ▸ eligible.nodup }
  totalPlayersRolling := UInt8.ofNat eligible.guids.length

def getLoot (r : Roll) : Option Nat := if r.valid then some r.loot else none

/-- A vote is counted and replaces the one before. -/
def register (r : Roll) (guid : UInt64) (vote : RollVote) : Roll :=
  match vote with
  | .pass => { r with totalPass := r.totalPass + 1, playerVote := r.playerVote.assign guid .pass }
  | .need => { r with totalNeed := r.totalNeed + 1, playerVote := r.playerVote.assign guid .need }
  | .greed =>
      { r with totalGreed := r.totalGreed + 1, playerVote := r.playerVote.assign guid .greed }
  | .notEmitedYet | .notValid => r

def isComplete (r : Roll) : Bool :=
  r.totalPlayersRolling.toNat ≤ r.totalPass.toNat + r.totalNeed.toNat + r.totalGreed.toNat

def drop (r : Roll) (guid : UInt64) (vote : RollVote) : Roll :=
  { r with
    totalGreed := if vote = .greed then r.totalGreed - 1 else r.totalGreed
    totalNeed := if vote = .need then r.totalNeed - 1 else r.totalNeed
    totalPass := if vote = .pass then r.totalPass - 1 else r.totalPass
    totalPlayersRolling :=
      if vote ≠ .notValid then r.totalPlayersRolling - 1 else r.totalPlayersRolling
    playerVote := r.playerVote.erase guid }

end Roll

inductive Counting where
  | pending (r : Roll)
  | complete (r : Roll)

def countVote (items : Nat → Nat) (guid : UInt64) (vote : RollVote) (r : Roll) : Counting :=
  match r.playerVote.find? guid with
  | none => .pending r
  | some _ =>
      if r.valid ∧ items r.loot = 0 then .pending r
      else if (r.register guid vote).isComplete then .complete (r.register guid vote)
      else .pending (r.register guid vote)

section Dice

variable (dice : Nat → Die)

/-- The highest number so far, and who threw it. -/
structure Throw where
  maxguid : UInt64
  maxresul : UInt8
  rolled : Nat

def throwDie (kind : RollVote) (t : Throw) (entry : UInt64 × RollVote) : Throw :=
  if entry.2 ≠ kind then t
  else
    let randomN := (dice t.rolled).val
    if t.maxresul < randomN then ⟨entry.1, randomN, t.rolled + 1⟩
    else { t with rolled := t.rolled + 1 }

def throwDice (kind : RollVote) (rolled : Nat) (r : Roll) : Outcome × Nat :=
  match r.playerVote.entries with
  | [] => (.nobody, rolled)
  | first :: rest =>
      let t := (first :: rest).foldl (throwDie dice kind) ⟨first.1, 0, rolled⟩
      (.won t.maxguid t.maxresul kind, t.rolled)

def outcomeOf (rolled : Nat) (r : Roll) : Outcome × Nat :=
  if r.valid = false then (.gone, rolled)
  else if 0 < r.totalNeed then throwDice dice .need rolled r
  else if 0 < r.totalGreed then throwDice dice .greed rolled r
  else (.allPassed, rolled)

namespace Rolls

def countTheRoll (s : Rolls) (expired : Bool) (r : Roll) : Rolls :=
  { s with
    decided := s.decided ++ [⟨r, expired, (outcomeOf dice s.rolled r).1⟩]
    rolled := (outcomeOf dice s.rolled r).2 }

def startLootRoll (s : Rolls) (target : UInt64) (loot : Nat) (itemSlot : UInt8)
    (eligible : Eligible) : Rolls :=
  if s.items loot ≤ itemSlot.toNat then s
  else if eligible.guids = [] then s
  else
    { s with
      rolls := s.rolls ++ [.startOf target itemSlot loot eligible]
      started := s.started + 1 }

def isRollOf (target : UInt64) (itemSlot : UInt32) (r : Roll) : Bool :=
  r.valid ∧ r.lootedTargetGUID = target ∧ r.itemSlot.toUInt32 = itemSlot

def countRollVote (s : Rolls) (guid target : UInt64) (itemSlot : UInt32) (vote : RollVote) :
    Rolls :=
  match s.rolls.findIdx? (isRollOf target itemSlot) with
  | none => s
  | some i =>
      match s.rolls[i]? with
      | none => s
      | some r =>
          match countVote s.items guid vote r with
          | .pending r => { s with rolls := s.rolls.set i r }
          | .complete r => { s with rolls := s.rolls.eraseIdx i }.countTheRoll dice false r

def handleLootRoll (s : Rolls) (guid target : UInt64) (itemSlot : UInt32) (rollType : UInt8) :
    Rolls :=
  if maxRollFromClient ≤ rollType then s
  else s.countRollVote dice guid target itemSlot (rollVoteOf rollType)

/-- One round of `_removeRolls`; rolls that stay are put back in order. -/
def removeRoll (guid : UInt64) (s : Rolls) (r : Roll) : Rolls :=
  match r.playerVote.find? guid with
  | none => { s with rolls := s.rolls ++ [r] }
  | some vote =>
      match countVote s.items guid .notEmitedYet (r.drop guid vote) with
      | .pending r => { s with rolls := s.rolls ++ [r] }
      | .complete r => s.countTheRoll dice false r

def removeRolls (s : Rolls) (guid : UInt64) : Rolls :=
  s.rolls.foldl (removeRoll dice guid) { s with rolls := [] }

/-- One round of `EndRoll`. Counting a roll leaves the others alone, so the order stays. -/
def endOne (loot : Nat) (s : Rolls) (r : Roll) : Rolls :=
  if r.getLoot = some loot then s.countTheRoll dice true r
  else { s with rolls := s.rolls ++ [r] }

def endRoll (s : Rolls) (loot : Nat) : Rolls :=
  s.rolls.foldl (endOne dice loot) { s with rolls := [] }

def clearLoot (s : Rolls) (loot : Nat) : Rolls :=
  { s with
    items := fun other => if other = loot then 0 else s.items other
    rolls := s.rolls.map fun r => if r.loot = loot then { r with valid := false } else r }

def addItem (s : Rolls) (loot : Nat) : Rolls :=
  { s with items := fun other => if other = loot then s.items other + 1 else s.items other }

end Rolls

inductive RollEvent where
  | addItem (loot : Nat)
  | clearLoot (loot : Nat)
  | startLootRoll (target : UInt64) (loot : Nat) (itemSlot : UInt8) (eligible : Eligible)
  | lootRoll (guid target : UInt64) (itemSlot : UInt32) (rollType : UInt8)
  | removeMember (guid : UInt64)
  | timer (loot : Nat)

def Rolls.step (s : Rolls) : RollEvent → Rolls
  | .addItem loot => s.addItem loot
  | .clearLoot loot => s.clearLoot loot
  | .startLootRoll target loot itemSlot eligible => s.startLootRoll target loot itemSlot eligible
  | .lootRoll guid target itemSlot rollType => s.handleLootRoll dice guid target itemSlot rollType
  | .removeMember guid => s.removeRolls dice guid
  | .timer loot => s.endRoll dice loot

end Dice

end TortoiseWow.LootRolls
