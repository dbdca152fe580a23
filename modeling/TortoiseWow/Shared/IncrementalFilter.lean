import Mathlib

/-!
The resumable filter of src/shared/IncrementalFilter.h. A vector is a list; what is left of an
element that was moved away is any function of it. The arguments of the predicate are written
down as they are tested.
-/

namespace TortoiseWow.Shared

structure IncrementalFilter where
  read : Nat := 0
  write : Nat := 0
  deriving Repr, DecidableEq

/-- The cursors with the vector and the elements tested so far. -/
structure Filtering (α : Type) where
  filter : IncrementalFilter := {}
  values : List α
  tested : List α := []

section Advance

variable {α : Type} (remove : α → Bool) (moved : α → α)

/-- The loop body behind the permission. -/
def testValue (s : Filtering α) (value : α) : Filtering α :=
  let s := { s with tested := s.tested ++ [value] }
  if remove value then { s with filter := { s.filter with read := s.filter.read + 1 } }
  else
    { s with
      values := if s.filter.write ≠ s.filter.read then
          (s.values.set s.filter.write value).set s.filter.read (moved value)
        else s.values
      filter := { read := s.filter.read + 1, write := s.filter.write + 1 } }

/-- The loop over the elements that are left. `permit` answers the questions of one call. -/
def advanceLoop (permit : Nat → Bool) : Nat → Nat → Filtering α → Filtering α × Bool
  | _, 0, s => ({ s with values := s.values.take s.filter.write, filter := {} }, true)
  | asked, left + 1, s =>
      if permit asked then
        match s.values[s.filter.read]? with
        | none => (s, false)
        | some value => advanceLoop permit (asked + 1) left (testValue remove moved s value)
      else (s, false)

def advance (permit : Nat → Bool) (s : Filtering α) : Filtering α × Bool :=
  advanceLoop remove moved permit 0 (s.values.length - s.filter.read) s

/-- Calls of `Advance` until one of them reports completion. -/
def advances : List (Nat → Bool) → Filtering α → Filtering α × Bool
  | [], s => (s, false)
  | permit :: rest, s =>
      match advance remove moved permit s with
      | (s, true) => (s, true)
      | (s, false) => advances rest s

end Advance

/-- How many elements a call may test out of as many. -/
def grants (permit : Nat → Bool) : Nat → Nat → Nat
  | _, 0 => 0
  | asked, left + 1 => if permit asked then grants permit (asked + 1) left + 1 else 0

/-- Fewer elements than a call may test are all tested. -/
theorem grants_min (permit : Nat → Bool) (asked : Nat) {left size : Nat} (le : left ≤ size) :
    grants permit asked left = min left (grants permit asked size) := by
  induction left generalizing asked size with
  | zero => simp [grants]
  | succ left ih =>
      cases size with
      | zero => omega
      | succ size =>
          simp only [grants]
          split
          · rw [ih (asked + 1) (Nat.le_of_succ_le_succ le), Nat.succ_min_succ]
          · rw [Nat.min_zero]

section Cursors

variable {α : Type} (remove : α → Bool) (moved : α → α)

abbrev kept (original : List α) : List α := original.filter fun value => !remove value

/-- Before the write cursor stands what is kept of the elements before the read cursor, and from
the read cursor on the vector is as it was. -/
structure Suspended (original : List α) (s : Filtering α) : Prop where
  read : s.filter.read ≤ original.length
  length : s.values.length = original.length
  write : s.filter.write = (kept remove (original.take s.filter.read)).length
  front : s.values.take s.filter.write = kept remove (original.take s.filter.read)
  back : s.values.drop s.filter.read = original.drop s.filter.read
  tested : s.tested = original.take s.filter.read

variable {remove} {original : List α} {s : Filtering α}

theorem suspended_start (original : List α) : Suspended remove original { values := original } where
  read := Nat.zero_le _
  length := rfl
  write := by simp
  front := by simp
  back := rfl
  tested := by simp

theorem Suspended.write_le (h : Suspended remove original s) : s.filter.write ≤ s.filter.read := by
  rw [h.write]
  refine (List.length_filter_le _ _).trans ?_
  rw [List.length_take]
  exact Nat.min_le_left _ _

theorem Suspended.value (h : Suspended remove original s) :
    s.values[s.filter.read]? = original[s.filter.read]? := by
  have heads := congrArg List.head? h.back
  rwa [List.head?_drop, List.head?_drop] at heads

/-- Nothing that is kept is missing, and nothing is there twice. -/
theorem Suspended.kept_eq (h : Suspended remove original s) :
    s.values.take s.filter.write ++ kept remove (s.values.drop s.filter.read) =
      kept remove original := by
  rw [h.front, h.back, kept, kept, ← List.filter_append, List.take_append_drop]

theorem Suspended.testValue (h : Suspended remove original s) {value : α}
    (here : original[s.filter.read]? = some value) :
    Suspended remove original (testValue remove moved s value) ∧
      (testValue remove moved s value).filter.read = s.filter.read + 1 := by
  obtain ⟨inside, eq⟩ := List.getElem?_eq_some_iff.mp here
  have more : original.take (s.filter.read + 1) = original.take s.filter.read ++ [value] := by
    rw [List.take_add_one, here, Option.toList_some]
  have back : s.values.drop (s.filter.read + 1) = original.drop (s.filter.read + 1) := by
    have tails := congrArg List.tail h.back
    rwa [List.tail_drop, List.tail_drop] at tails
  have low := h.write_le
  have length := h.length
  simp only [Shared.testValue]
  split
  case isTrue removed =>
    have same : kept remove (original.take (s.filter.read + 1)) =
        kept remove (original.take s.filter.read) := by
      rw [more, kept, List.filter_append]
      simp [removed]
    refine ⟨⟨inside, length, ?_, ?_, back, ?_⟩, rfl⟩
    · rw [same]
      exact h.write
    · rw [same]
      exact h.front
    · rw [more, h.tested]
  case isFalse stays =>
    have added : kept remove (original.take (s.filter.read + 1)) =
        kept remove (original.take s.filter.read) ++ [value] := by
      rw [more, kept, List.filter_append]
      simp [stays]
    refine ⟨⟨inside, ?_, ?_, ?_, ?_, ?_⟩, rfl⟩
    · dsimp only
      split <;> simp [length]
    · rw [added, List.length_append, ← h.write, List.length_singleton]
    · rw [added, ← h.front]
      dsimp only
      split
      case isTrue differ =>
        rw [List.take_set_of_le (by omega), List.take_add_one, List.getElem?_set_self (by omega),
          Option.toList_some, List.take_set_of_le (Nat.le_refl _)]
      case isFalse same =>
        have same : s.filter.write = s.filter.read := Classical.not_not.mp same
        rw [List.take_add_one, same, h.value, here, Option.toList_some]
    · dsimp only
      split
      case isTrue differ =>
        rw [List.drop_set_of_lt (by omega), List.drop_set_of_lt (by omega)]
        exact back
      case isFalse => exact back
    · rw [more, h.tested]

/-- A call tests as many elements as it may, and reports completion if those are all. -/
theorem advanceLoop_cases (permit : Nat → Bool) {left : Nat} (asked : Nat)
    (h : Suspended remove original s) (unread : s.filter.read + left = original.length) :
    grants permit asked left = left ∧ advanceLoop remove moved permit asked left s =
        ({ values := kept remove original, tested := original }, true) ∨
    grants permit asked left < left ∧
      ∃ s', advanceLoop remove moved permit asked left s = (s', false) ∧
      Suspended remove original s' ∧
      s'.filter.read = s.filter.read + grants permit asked left := by
  induction left generalizing asked s with
  | zero =>
      left
      have all : original.take s.filter.read = original := by
        rw [List.take_of_length_le (by omega)]
      have front := h.front
      have tested := h.tested
      rw [all] at front tested
      exact ⟨rfl, by rw [advanceLoop, front, tested]⟩
  | succ left ih =>
      simp only [grants, advanceLoop]
      cases may : permit asked with
      | false => exact .inr ⟨Nat.zero_lt_succ left, s, rfl, h, rfl⟩
      | true =>
          have inside : s.filter.read < original.length := by omega
          have here := List.getElem?_eq_getElem inside
          obtain ⟨next, read⟩ := h.testValue moved here
          simp only [if_true, h.value, here]
          rcases ih (asked + 1) next
            (by omega) with ⟨all, done⟩ | ⟨few, s', stopped, suspended, read'⟩
          · exact .inl ⟨by rw [all], done⟩
          · exact .inr ⟨Nat.succ_lt_succ few, s', stopped, suspended, by omega⟩

/-- For every schedule of calls: completion is reported as soon as as many elements as there are
may be tested; then the vector has what is kept, in order, and each element was tested once. Until
then nothing that is kept is lost or there twice. -/
theorem advances_filters (remove : α → Bool) (moved : α → α) (original : List α)
    (schedule : List (Nat → Bool)) :
    ((advances remove moved schedule { values := original }).2 = true ↔
      schedule ≠ [] ∧ original.length ≤
        (schedule.map fun permit => grants permit 0 original.length).sum) ∧
    ((advances remove moved schedule { values := original }).2 = true →
      (advances remove moved schedule { values := original }).1 =
        { values := kept remove original, tested := original }) ∧
    ((advances remove moved schedule { values := original }).2 = false →
      ∃ s, (advances remove moved schedule { values := original }).1 = s ∧
        Suspended remove original s ∧
        s.values.take s.filter.write ++ kept remove (s.values.drop s.filter.read) =
          kept remove original) := by
  have from_suspension : ∀ (schedule : List (Nat → Bool)) (s : Filtering α),
      Suspended remove original s →
      ((advances remove moved schedule s).2 = true ↔ schedule ≠ [] ∧ original.length ≤
        s.filter.read + (schedule.map fun permit => grants permit 0 original.length).sum) ∧
      ((advances remove moved schedule s).2 = true →
        (advances remove moved schedule s).1 =
          { values := kept remove original, tested := original }) ∧
      ((advances remove moved schedule s).2 = false →
        Suspended remove original (advances remove moved schedule s).1) := by
    intro schedule
    induction schedule with
    | nil => exact fun s h => ⟨by simp [advances], nofun, fun _ => h⟩
    | cons permit rest ih =>
        intro s h
        have unread : s.filter.read + (s.values.length - s.filter.read) = original.length := by
          have := h.read
          rw [h.length]
          omega
        have few : grants permit 0 (s.values.length - s.filter.read) =
            min (s.values.length - s.filter.read) (grants permit 0 original.length) :=
          grants_min permit 0 (by omega)
        simp only [advances, advance, List.map_cons, List.sum_cons]
        rcases advanceLoop_cases moved permit 0 h unread with
          ⟨all, done⟩ | ⟨less, s', stopped, suspended, read⟩
        · rw [done]
          exact ⟨iff_of_true rfl ⟨List.cons_ne_nil _ _, by omega⟩, fun _ => rfl, nofun⟩
        · rw [stopped]
          have later := ih s' suspended
          rw [read] at later
          refine ⟨later.1.trans ?_, later.2⟩
          cases rest with
          | nil => simp; omega
          | cons _ _ => simp; omega
  obtain ⟨done, result, suspended⟩ := from_suspension schedule _ (suspended_start original)
  refine ⟨?_, result, fun notDone => ⟨_, rfl, suspended notDone, (suspended notDone).kept_eq⟩⟩
  rw [done, Nat.zero_add]

end Cursors

end TortoiseWow.Shared
