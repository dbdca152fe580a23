import TortoiseWow.Group.LootRoll
import TortoiseWow.Loot.Loot

/-!
A decided roll and its item. The item goes to the winner, or it is released to him or to all who
voted. A winner who is gone leaves the item blocked, and one for whom no item can be created
leaves it marked as looted.
-/

namespace TortoiseWow.Looting

open LootRolls (Roll Outcome Die outcomeOf RollVote)

/-- What is found of a player who rolled: his session, and the answers of his inventory. -/
structure Roller where
  online : Bool
  canStoreNewItem : Bool
  storeNewItem : Bool
  deriving Repr, DecidableEq

section Decided

variable (rollers : UInt64 → Roller)

/-- What a decided roll means for the loot. Nothing is done where the loot is gone or nobody is
left who voted. -/
def rollOutcome : Outcome → Option RollOutcome
  | .gone | .nobody => none
  | .allPassed => some .allPassed
  | .won guid _ kind =>
      let winner := rollers guid
      if winner.online then
        some (.won guid.toUInt32 winner.canStoreNewItem winner.storeNewItem)
      else some (.gone guid.toUInt32 (kind = .need))

def settleRoll (dice : Nat → Die) (rolled : Nat) (roll : Roll) (loot : Loot) : Loot :=
  match rollOutcome rollers (outcomeOf dice rolled roll).1 with
  | none => { loot with rolls := loot.rolls.erase roll.itemSlot.toNat }
  | some outcome => loot.countTheRoll roll.itemSlot.toNat outcome

end Decided

/-- Who may have the item: the winner, or with `none` all who are entitled to it. -/
def winnerOf : Outcome → Option UInt32
  | .won guid _ _ => some guid.toUInt32
  | .gone | .nobody | .allPassed => none

structure Stored (loot loot' : Loot) (slot : Nat) (winner : UInt32) : Prop where
  given : loot'.grants = loot.grants ++ [⟨winner, .item slot⟩]
  once : loot'.grants.countP (·.slot = .item slot) = 1
  looted : loot'.items[slot]?.any (·.isLooted) = true
  counted : loot'.unlootedCount.toNat + 1 = loot.unlootedCount.toNat

/-- The item is still there, and it is nobody's or the winner's. -/
structure Released (item : LootItem) (winner : Option UInt32) : Prop where
  left : item.isLooted = false
  unblocked : item.isBlocked = false
  owner : item.lootOwner = none ∨ item.lootOwner = winner

def Settled (loot loot' : Loot) (slot : Nat) (winner : Option UInt32) : Prop :=
  (∃ guid, winner = some guid ∧ Stored loot loot' slot guid) ∨
    ∃ item, loot'.items[slot]? = some item ∧ Released item winner

/-- The state before, and the winner, with which the item is not stranded. -/
def CanSettle (rollers : UInt64 → Roller) (loot : Loot) (slot : Nat) (item : LootItem) :
    Outcome → Prop
  | .won guid _ kind =>
      if (rollers guid).online then
        if (rollers guid).canStoreNewItem then
          (rollers guid).storeNewItem = true ∧ item.count ≠ 0 ∧ loot.unlootedCount ≠ 0 ∧
            ∀ grant ∈ loot.grants, grant.slot ≠ .item slot
        else item.isLooted = false
      else
        item.isLooted = false ∧ item.isBlocked = false ∧
          (kind = .need ∨ item.lootOwner = none ∨ item.lootOwner = some guid.toUInt32)
  | .allPassed => item.isLooted = false ∧ item.lootOwner = none
  | .gone | .nobody => Released item none

section Settling

variable {rollers : UInt64 → Roller} {loot : Loot} {slot : Nat} {item : LootItem}

theorem settled_updateItem (present : loot.items[slot]? = some item) (rolls : List Nat)
    (f : LootItem → LootItem) (winner : Option UInt32) :
    Settled loot ({ loot with rolls := rolls }.updateItem slot f) slot winner ↔
      Released (f item) winner := by
  have changed : ({ loot with rolls := rolls }.updateItem slot f).items[slot]? = some (f item) := by
    simp [Loot.updateItem, present]
  constructor
  · rintro (⟨guid, -, stored⟩ | ⟨item', found, released⟩)
    · exact absurd stored.counted (Nat.succ_ne_self _)
    · rw [changed] at found
      cases found
      exact released
  · intro released
    exact Or.inr ⟨f item, changed, released⟩

theorem settled_same (present : loot.items[slot]? = some item) (rolls : List Nat)
    (winner : Option UInt32) :
    Settled loot { loot with rolls := rolls } slot winner ↔ Released item winner := by
  have same := settled_updateItem present rolls id winner
  rwa [show ({ loot with rolls := rolls } : Loot).updateItem slot id =
    { loot with rolls := rolls } by
    simp [Loot.updateItem]] at same

theorem countP_eq_zero (grants : List Grant) :
    grants.countP (·.slot = .item slot) = 0 ↔ ∀ grant ∈ grants, grant.slot ≠ .item slot := by
  simp only [List.countP_eq_zero, decide_eq_true_eq, ne_eq]

theorem settled_giveTo (present : loot.items[slot]? = some item) (rolls : List Nat)
    (winner : UInt32) (stores : Bool) :
    Settled loot ({ loot with rolls := rolls }.giveTo winner slot stores id) slot (some winner) ↔
      stores = true ∧ loot.unlootedCount ≠ 0 ∧ ∀ grant ∈ loot.grants, grant.slot ≠ .item slot := by
  have looted : ({ loot with rolls := rolls }.giveTo winner slot stores id).items[slot]? =
      some { item with isLooted := true } := by
    simp [Loot.giveTo, Loot.updateItem, present]
  have decreased : (loot.unlootedCount - 1).toNat + 1 = loot.unlootedCount.toNat ↔
      loot.unlootedCount ≠ 0 := by
    rw [ne_eq, ← UInt8.toNat_inj, UInt8.toNat_sub]
    have small := loot.unlootedCount.toNat_lt
    change (2 ^ 8 - 1 + loot.unlootedCount.toNat) % 2 ^ 8 + 1 = _ ↔ loot.unlootedCount.toNat ≠ 0
    omega
  constructor
  · rintro (⟨guid, won, stored⟩ | ⟨item', found, released⟩)
    · cases won
      cases stores with
      | false =>
          have given : loot.grants = loot.grants ++ [⟨winner, .item slot⟩] := stored.given
          exact absurd (congrArg List.length given) (by simp)
      | true =>
          have once := stored.once
          rw [stored.given, List.countP_append] at once
          simp only [List.countP_singleton, decide_true, if_true, Nat.add_eq_right] at once
          exact ⟨rfl, decreased.mp stored.counted, (countP_eq_zero loot.grants).mp once⟩
    · rw [looted] at found
      cases found
      exact absurd released.left (by simp)
  · rintro ⟨created, counted, first⟩
    subst created
    refine Or.inl ⟨winner, rfl, rfl, ?_, ?_, decreased.mpr counted⟩
    · change (loot.grants ++ [(⟨winner, .item slot⟩ : Grant)]).countP _ = 1
      rw [List.countP_append, (countP_eq_zero loot.grants).mpr first]
      simp
    · rw [looted]
      rfl

/-- A decided roll strands its item exactly when the winner is gone and the item is not free, when
the item is marked as looted and not created, or when it was given away before. -/
theorem settleRoll_iff (dice : Nat → Die) (rolled : Nat) (roll : Roll)
    (present : loot.items[roll.itemSlot.toNat]? = some item)
    (listed : roll.itemSlot.toNat ∈ loot.rolls) :
    Settled loot (settleRoll rollers dice rolled roll loot) roll.itemSlot.toNat
        (winnerOf (outcomeOf dice rolled roll).1) ↔
      CanSettle rollers loot roll.itemSlot.toNat item (outcomeOf dice rolled roll).1 := by
  simp only [settleRoll]
  cases (outcomeOf dice rolled roll).1 with
  | gone => exact settled_same present _ none
  | nobody => exact settled_same present _ none
  | allPassed =>
      simp only [rollOutcome, Loot.countTheRoll, listed, not_true_eq_false, if_false, present,
        winnerOf, CanSettle]
      rw [settled_updateItem present]
      constructor
      · rintro ⟨left, -, owner⟩
        exact ⟨left, owner.elim id id⟩
      · rintro ⟨left, owner⟩
        exact ⟨left, rfl, Or.inl owner⟩
  | won guid number kind =>
      simp only [rollOutcome, CanSettle, winnerOf]
      by_cases online : (rollers guid).online = true
      · simp only [online, if_true, Loot.countTheRoll, listed, not_true_eq_false, if_false, present]
        by_cases room : (rollers guid).canStoreNewItem = true
        · simp only [room, if_true]
          rw [settled_giveTo present, Bool.and_eq_true, decide_eq_true_eq, and_assoc]
        · simp only [room, if_false, Bool.false_eq_true]
          rw [settled_updateItem present]
          constructor
          · rintro ⟨left, -, -⟩
            exact left
          · intro left
            exact ⟨left, rfl, Or.inr rfl⟩
      · simp only [online, if_false, Loot.countTheRoll, listed, not_true_eq_false, present,
          Bool.false_eq_true]
        by_cases need : kind = .need
        · simp only [need, decide_true, if_true, true_or, and_true]
          rw [settled_updateItem present]
          constructor
          · rintro ⟨left, unblocked, -⟩
            exact ⟨left, unblocked⟩
          · rintro ⟨left, unblocked⟩
            exact ⟨left, unblocked, Or.inr rfl⟩
        · simp only [need, decide_false, if_false, false_or, Bool.false_eq_true]
          rw [settled_same present]
          constructor
          · rintro ⟨left, unblocked, owner⟩
            exact ⟨left, unblocked, owner⟩
          · rintro ⟨left, unblocked, owner⟩
            exact ⟨left, unblocked, owner⟩

end Settling

/-- A roll for the first item of a loot, which the first of two players alone wants. -/
def greedRoll : Roll :=
  let roll := (Roll.startOf 100 0 0 ⟨[1, 2], by decide, by decide⟩).register 1 .greed
  roll.register 2 .pass

def rolledItem : LootItem where
  itemid := 16963
  conditionId := 0
  count := 1
  freeforall := false
  needsQuest := false
  isBlocked := true

def rolledLoot : Loot where
  items := [rolledItem]
  unlootedCount := 1
  rolls := [0]

def forty : Nat → Die := fun _ => ⟨40, by decide⟩

theorem settleRoll_online :
    Settled rolledLoot (settleRoll (fun _ => ⟨true, true, true⟩) forty 0 greedRoll rolledLoot) 0
      (winnerOf (outcomeOf forty 0 greedRoll).1) :=
  (settleRoll_iff forty 0 greedRoll rfl (by decide)).mpr
    ⟨rfl, by decide, by decide, by decide⟩

/-- The winner of a greed roll has gone offline. -/
theorem settleRoll_offline :
    ¬ Settled rolledLoot (settleRoll (fun _ => ⟨false, true, true⟩) forty 0 greedRoll rolledLoot) 0
      (winnerOf (outcomeOf forty 0 greedRoll).1) := by
  have items : (settleRoll (fun _ => ⟨false, true, true⟩) forty 0 greedRoll rolledLoot).items =
      rolledLoot.items := by decide
  have grants : (settleRoll (fun _ => ⟨false, true, true⟩) forty 0 greedRoll rolledLoot).grants =
      [] := by decide
  rintro (⟨guid, -, stored⟩ | ⟨item, present, released⟩)
  · have given := stored.given
    rw [grants] at given
    cases given
  · rw [items] at present
    cases present
    cases released.unblocked

end TortoiseWow.Looting
