import Mathlib
import TortoiseWow.Lib.FixedWidth
import TortoiseWow.Reputation.ReputationMgr

/-!
The flags of a faction in three changeable bits and a rest that stays as the
faction table has it. Whatever the calls, the changeable bits keep some relation
to the table, and from it follows what the load makes of a row: it repeats every
flag but those that its own guards refuse or its own rules add.
-/

namespace TortoiseWow.Reputation

open Lib

def fixedMask : UInt32 := ~~~(factionFlagVisible ||| factionFlagAtWar ||| factionFlagInactive)

section Bits

variable {flags bit mask : UInt32}

theorem hasAny_or_self (nonzero : bit ≠ 0) : hasAny (flags ||| bit) bit = true := by
  rw [hasAny, or_and_uint32, UInt32.and_self, bne_iff_ne]
  exact fun none => nonzero (UInt32.or_eq_zero_iff.mp none).2

theorem hasAny_or_of_apart (apart : bit &&& mask = 0) :
    hasAny (flags ||| bit) mask = hasAny flags mask := by
  rw [hasAny, or_and_uint32, apart, UInt32.or_zero, hasAny]

theorem hasAny_without_self (gone : ~~~bit &&& bit = 0) :
    hasAny (flags &&& ~~~bit) bit = false := by
  rw [hasAny, UInt32.and_assoc, gone, UInt32.and_zero]
  rfl

theorem hasAny_without_of_apart (outside : ~~~bit &&& mask = mask) :
    hasAny (flags &&& ~~~bit) mask = hasAny flags mask := by
  rw [hasAny, UInt32.and_assoc, outside, hasAny]

theorem fixed_or (apart : bit &&& fixedMask = 0) :
    (flags ||| bit) &&& fixedMask = flags &&& fixedMask := by
  rw [or_and_uint32, apart, UInt32.or_zero]

theorem fixed_without (outside : ~~~bit &&& fixedMask = fixedMask) :
    (flags &&& ~~~bit) &&& fixedMask = flags &&& fixedMask := by
  rw [UInt32.and_assoc, outside]

/-- A guard on bits that do not change sees the same in both. -/
theorem hasAny_of_fixed {other : UInt32} (inside : fixedMask &&& mask = mask)
    (same : flags &&& fixedMask = other &&& fixedMask) : hasAny flags mask = hasAny other mask := by
  rw [hasAny, ← inside, ← UInt32.and_assoc, same, UInt32.and_assoc, inside, hasAny]

theorem and_eq_of_hasAny {other : UInt32} {i : Nat} (single : bit.toNat = 2 ^ i)
    (same : hasAny flags bit = hasAny other bit) : flags &&& bit = other &&& bit := by
  have nonzero : bit ≠ 0 := by
    rintro rfl
    exact absurd single (Nat.two_pow_pos i).ne
  rcases and_bit_uint32 flags single with left | left <;>
    rcases and_bit_uint32 other single with right | right
  · rw [left, right]
  · rw [hasAny, left, hasAny, right] at same
    exact absurd same (by simpa using nonzero)
  · rw [hasAny, left, hasAny, right] at same
    exact absurd same (by simpa using nonzero)
  · rw [left, right]

theorem flags_ext {other : UInt32} (fixed : flags &&& fixedMask = other &&& fixedMask)
    (visible : hasAny flags factionFlagVisible = hasAny other factionFlagVisible)
    (atWar : hasAny flags factionFlagAtWar = hasAny other factionFlagAtWar)
    (inactive : hasAny flags factionFlagInactive = hasAny other factionFlagInactive) :
    flags = other := by
  have whole (a : UInt32) : a = a &&& fixedMask ||| a &&& factionFlagVisible |||
      a &&& factionFlagAtWar ||| a &&& factionFlagInactive := by
    rw [← and_or_uint32, ← and_or_uint32, ← and_or_uint32]
    exact UInt32.and_neg_one.symm
  rw [whole flags, whole other, fixed,
    and_eq_of_hasAny (i := 0) rfl visible, and_eq_of_hasAny (i := 1) rfl atWar,
    and_eq_of_hasAny (i := 5) rfl inactive]

end Bits

/-- What the rest of the source sees of the flags. -/
structure FlagView where
  fixed : UInt32
  visible : Bool
  atWar : Bool
  inactive : Bool

def viewOf (flags : UInt32) : FlagView :=
  ⟨flags &&& fixedMask, hasAny flags factionFlagVisible, hasAny flags factionFlagAtWar,
    hasAny flags factionFlagInactive⟩

theorem viewOf_inj {flags other : UInt32} (same : viewOf flags = viewOf other) : flags = other :=
  flags_ext (congrArg FlagView.fixed same) (congrArg FlagView.visible same)
    (congrArg FlagView.atWar same) (congrArg FlagView.inactive same)

section Views

variable (flags : UInt32)

theorem viewOf_or_visible :
    viewOf (flags ||| factionFlagVisible) = { viewOf flags with visible := true } := by
  rw [viewOf, fixed_or (by decide), hasAny_or_self (by decide), hasAny_or_of_apart (by decide),
    hasAny_or_of_apart (by decide), viewOf]

theorem viewOf_or_atWar :
    viewOf (flags ||| factionFlagAtWar) = { viewOf flags with atWar := true } := by
  rw [viewOf, fixed_or (by decide), hasAny_or_self (by decide), hasAny_or_of_apart (by decide),
    hasAny_or_of_apart (by decide), viewOf]

theorem viewOf_or_inactive :
    viewOf (flags ||| factionFlagInactive) = { viewOf flags with inactive := true } := by
  rw [viewOf, fixed_or (by decide), hasAny_or_self (by decide), hasAny_or_of_apart (by decide),
    hasAny_or_of_apart (by decide), viewOf]

theorem viewOf_without_atWar :
    viewOf (flags &&& ~~~factionFlagAtWar) = { viewOf flags with atWar := false } := by
  rw [viewOf, fixed_without (by decide), hasAny_without_self (by decide),
    hasAny_without_of_apart (by decide), hasAny_without_of_apart (by decide), viewOf]

theorem viewOf_without_inactive :
    viewOf (flags &&& ~~~factionFlagInactive) = { viewOf flags with inactive := false } := by
  rw [viewOf, fixed_without (by decide), hasAny_without_self (by decide),
    hasAny_without_of_apart (by decide), hasAny_without_of_apart (by decide), viewOf]

end Views

section Setters

variable (faction : FactionState)

theorem viewOf_setVisible :
    viewOf faction.setVisible.flags =
      { viewOf faction.flags with
        visible := (viewOf faction.flags).visible || !concealed faction.flags } := by
  rw [FactionState.setVisible]
  cases hidden : concealed faction.flags with
  | true => rw [if_pos rfl, Bool.not_true, Bool.or_false]
  | false =>
      rw [if_neg Bool.false_ne_true, Bool.not_false, Bool.or_true]
      cases seen : hasAny faction.flags factionFlagVisible with
      | true =>
          rw [if_pos rfl]
          simp only [viewOf, seen]
      | false => exact viewOf_or_visible faction.flags

/-- `SetAtWar` declares war unless a forced peace forbids it. -/
def mayFight (flags : UInt32) (standing : Int) : Bool :=
  !(hasAny flags factionFlagPeaceForced &&
    decide ((reputationToRank standing).value > ReputationRank.hated.value))

theorem viewOf_setAtWar (atWar : Bool) :
    viewOf (faction.setAtWar atWar).flags =
      { viewOf faction.flags with
        atWar :=
          atWar && ((viewOf faction.flags).atWar || mayFight faction.flags faction.standing) } := by
  rw [FactionState.setAtWar]
  cases atWar with
  | false =>
      rw [Bool.and_false, if_neg Bool.false_ne_true]
      exact viewOf_without_atWar faction.flags
  | true =>
      cases fights : hasAny faction.flags factionFlagAtWar with
      | true =>
          rw [Bool.and_self, if_pos rfl]
          simp only [viewOf, fights, Bool.true_or, Bool.and_self]
      | false =>
          rw [Bool.false_and, if_neg Bool.false_ne_true, Bool.true_and]
          cases peace : hasAny faction.flags factionFlagPeaceForced &&
              decide ((reputationToRank faction.standing).value > ReputationRank.hated.value) with
          | true =>
              rw [if_pos rfl, mayFight, peace]
              simp only [viewOf, fights, Bool.not_true, Bool.or_self, Bool.and_false]
          | false =>
              rw [if_neg Bool.false_ne_true, mayFight, peace, Bool.not_false, Bool.or_true,
                Bool.and_self]
              exact viewOf_or_atWar faction.flags

theorem viewOf_setInactive (inactive : Bool) :
    viewOf (faction.setInactive inactive).flags =
      { viewOf faction.flags with
        inactive := inactive && ((viewOf faction.flags).inactive ||
          (!concealed faction.flags && (viewOf faction.flags).visible)) } := by
  rw [FactionState.setInactive]
  cases inactive with
  | false =>
      rw [Bool.false_and, if_neg Bool.false_ne_true]
      cases set : hasAny faction.flags factionFlagInactive with
      | true => exact viewOf_without_inactive faction.flags
      | false =>
          rw [if_pos (show (false == false) = true from rfl)]
          simp only [viewOf, set, Bool.false_and]
  | true =>
      cases refused : concealed faction.flags || !hasAny faction.flags factionFlagVisible with
      | true =>
          have refused :
            (!concealed faction.flags && hasAny faction.flags factionFlagVisible) = false := by
            rw [← Bool.not_eq_true', Bool.not_and, Bool.not_not]
            exact refused
          rw [Bool.and_self, if_pos rfl]
          simp only [viewOf, refused, Bool.or_false, Bool.true_and]
      | false =>
          have allowed :
            (!concealed faction.flags && hasAny faction.flags factionFlagVisible) = true := by
            rw [← Bool.not_eq_false', Bool.not_and, Bool.not_not]
            exact refused
          have shown : (!concealed faction.flags && (viewOf faction.flags).visible) =
            true := allowed
          rw [Bool.and_false, if_neg Bool.false_ne_true, shown, Bool.or_true, Bool.and_self]
          cases set : hasAny faction.flags factionFlagInactive with
          | true =>
              rw [if_pos (show (true == true) = true from rfl)]
              simp only [viewOf, set]
          | false => exact viewOf_or_inactive faction.flags

@[simp] theorem setVisible_id : faction.setVisible.id = faction.id := by
  rw [FactionState.setVisible]
  split
  · rfl
  · split <;> rfl

@[simp] theorem setVisible_standing : faction.setVisible.standing = faction.standing := by
  rw [FactionState.setVisible]
  split
  · rfl
  · split <;> rfl

@[simp] theorem setAtWar_id (on : Bool) : (faction.setAtWar on).id = faction.id := by
  rw [FactionState.setAtWar]
  split
  · rfl
  · split <;> rfl

@[simp] theorem setAtWar_standing (on : Bool) :
    (faction.setAtWar on).standing = faction.standing := by
  rw [FactionState.setAtWar]
  split
  · rfl
  · split <;> rfl

@[simp] theorem setInactive_id (on : Bool) : (faction.setInactive on).id = faction.id := by
  rw [FactionState.setInactive]
  split
  · rfl
  · split <;> rfl

@[simp] theorem setInactive_standing (on : Bool) :
    (faction.setInactive on).standing = faction.standing := by
  rw [FactionState.setInactive]
  split
  · rfl
  · split <;> rfl

end Setters

structure Grown (table flags : UInt32) : Prop where
  fixed : (viewOf flags).fixed = (viewOf table).fixed
  visible : (viewOf table).visible = true → (viewOf flags).visible = true
  shown : (viewOf flags).visible = true → (viewOf table).visible = true ∨ concealed table = false
  inactive : (viewOf flags).inactive = true →
    (viewOf table).inactive = true ∨ ((viewOf flags).visible = true ∧ concealed table = false)

theorem Grown.refl (table : UInt32) : Grown table table :=
  ⟨rfl, id, Or.inl, Or.inl⟩

theorem concealed_of_fixed {flags other : UInt32}
    (fixed : (viewOf flags).fixed = (viewOf other).fixed) :
    concealed flags = concealed other :=
  hasAny_of_fixed (by decide) fixed

theorem mayFight_of_fixed {flags other : UInt32}
    (fixed : (viewOf flags).fixed = (viewOf other).fixed)
    (standing : Int) : mayFight flags standing = mayFight other standing := by
  rw [mayFight, mayFight, hasAny_of_fixed (by decide) fixed]

section Growth

variable {table : UInt32} {faction : FactionState}

theorem Grown.setVisible (h : Grown table faction.flags) :
    Grown table faction.setVisible.flags := by
  have view := viewOf_setVisible faction
  have hidden := concealed_of_fixed h.fixed
  constructor
  · rw [view]
    exact h.fixed
  · intro seen
    rw [view]
    exact Bool.or_eq_true_iff.mpr (Or.inl (h.visible seen))
  · intro seen
    rw [view] at seen
    rcases Bool.or_eq_true_iff.mp seen with before | shown
    · exact h.shown before
    · rw [hidden] at shown
      exact Or.inr ((Bool.not_eq_true' _).mp shown)
  · intro inactive
    rw [view] at inactive
    refine (h.inactive inactive).imp id fun ⟨seen, shown⟩ => ⟨?_, shown⟩
    rw [view]
    exact Bool.or_eq_true_iff.mpr (Or.inl seen)

theorem Grown.setAtWar (h : Grown table faction.flags) (atWar : Bool) :
    Grown table (faction.setAtWar atWar).flags := by
  have view := viewOf_setAtWar faction atWar
  constructor
  · rw [view]
    exact h.fixed
  · rw [view]
    exact h.visible
  · rw [view]
    exact h.shown
  · rw [view]
    exact h.inactive

theorem Grown.setInactive (h : Grown table faction.flags) (inactive : Bool) :
    Grown table (faction.setInactive inactive).flags := by
  have view := viewOf_setInactive faction inactive
  have hidden := concealed_of_fixed h.fixed
  constructor
  · rw [view]
    exact h.fixed
  · rw [view]
    exact h.visible
  · rw [view]
    exact h.shown
  · intro set
    rw [view] at set ⊢
    rcases Bool.or_eq_true_iff.mp (Bool.and_eq_true_iff.mp set).2 with before | shown
    · exact h.inactive before
    · rw [hidden] at shown
      obtain ⟨shown, seen⟩ := Bool.and_eq_true_iff.mp shown
      exact Or.inr ⟨seen, (Bool.not_eq_true' _).mp shown⟩

end Growth

section Replay

open ReputationMgr

variable (world : World) (forced : UInt32 → Option ReputationRank) (id : UInt32)
  (entry : FactionEntry) (standing : Int) (db : UInt32) (faction : FactionState)

theorem viewOf_setVisible_if (on : Bool) :
    viewOf (if on then faction.setVisible else faction).flags =
      { viewOf faction.flags with
        visible := (viewOf faction.flags).visible || (on && !concealed faction.flags) } := by
  cases on with
  | true => exact viewOf_setVisible faction
  | false => rw [if_neg Bool.false_ne_true, Bool.false_and, Bool.or_false]

theorem viewOf_setInactive_if (on : Bool) :
    viewOf (if on then faction.setInactive true else faction).flags =
      { viewOf faction.flags with
        inactive := (viewOf faction.flags).inactive ||
          (on && (!concealed faction.flags && (viewOf faction.flags).visible)) } := by
  cases on with
  | true =>
      rw [if_pos rfl, viewOf_setInactive, Bool.true_and, Bool.true_and]
  | false => rw [if_neg Bool.false_ne_true, Bool.false_and, Bool.or_false]

theorem viewOf_setAtWar_if (on : Bool) :
    viewOf (if on then faction.setAtWar true else faction).flags =
      { viewOf faction.flags with
        atWar := (viewOf faction.flags).atWar ||
          (on && mayFight faction.flags faction.standing) } := by
  cases on with
  | true => rw [if_pos rfl, viewOf_setAtWar, Bool.true_and, Bool.true_and]
  | false => rw [if_neg Bool.false_ne_true, Bool.false_and, Bool.or_false]

theorem viewOf_war_if (on : Bool) :
    viewOf (if on then faction.setAtWar true
        else if hasAny faction.flags factionFlagVisible then faction.setAtWar false
        else faction).flags =
      { viewOf faction.flags with
        atWar := if on then (viewOf faction.flags).atWar || mayFight faction.flags faction.standing
          else (viewOf faction.flags).atWar && !(viewOf faction.flags).visible } := by
  cases on with
  | true => rw [if_pos rfl, if_pos rfl, viewOf_setAtWar, Bool.true_and]
  | false =>
      rw [if_neg Bool.false_ne_true, if_neg Bool.false_ne_true]
      cases seen : hasAny faction.flags factionFlagVisible with
      | true =>
          have visible : (viewOf faction.flags).visible = true := seen
          rw [if_pos rfl, viewOf_setAtWar, visible, Bool.false_and, Bool.not_true, Bool.and_false]
      | false =>
          have visible : (viewOf faction.flags).visible = false := seen
          rw [if_neg Bool.false_ne_true, visible, Bool.not_false, Bool.and_true]

def replayedView (table db : UInt32) (standing : Int) (hostile : Bool) : FlagView where
  fixed := (viewOf table).fixed
  visible := (viewOf table).visible || ((viewOf db).visible && !concealed table)
  atWar :=
    (if (viewOf db).atWar then (viewOf table).atWar || mayFight table standing
      else (viewOf table).atWar &&
        !((viewOf table).visible || ((viewOf db).visible && !concealed table))) ||
    (hostile && mayFight table standing)
  inactive :=
    (viewOf table).inactive || ((viewOf db).inactive && (!concealed table &&
      ((viewOf table).visible || ((viewOf db).visible && !concealed table))))

theorem replay_id : (replay world forced id entry standing db faction).id = faction.id := by
  simp only [replay, apply_ite FactionState.id, setVisible_id, setAtWar_id,
    setInactive_id, ite_self]

theorem replay_standing :
    (replay world forced id entry standing db faction).standing = standing := by
  simp only [replay, apply_ite FactionState.standing, setVisible_standing, setAtWar_standing,
    setInactive_standing, ite_self]

theorem viewOf_replay :
    viewOf (replay world forced id entry standing db faction).flags =
      replayedView faction.flags db standing
        (isHostile forced id (world.getBaseReputation entry + standing)) := by
  simp only [replay]
  have clean (f : FactionState) : (if f.flags = db then { f with needSave := false } else f).flags =
      f.flags := by
    split <;> rfl
  rw [clean]
  obtain ⟨hostile, hhostile⟩ :
      ∃ hostile, isHostile forced id (world.getBaseReputation entry + standing) =
        hostile := ⟨_, rfl⟩
  rw [hhostile]
  obtain ⟨f₁, h₁⟩ : ∃ f, (if hasAny db factionFlagVisible then
      FactionState.setVisible { faction with standing := standing }
    else { faction with standing := standing }) = f := ⟨_, rfl⟩
  have v₁ :=
    viewOf_setVisible_if { faction with standing := standing } (hasAny db factionFlagVisible)
  have s₁ : f₁.standing = standing := by
    rw [← h₁]
    split
    · exact setVisible_standing _
    · rfl
  rw [h₁] at v₁ ⊢
  obtain ⟨f₂, h₂⟩ : ∃ f, (if hasAny db factionFlagInactive then f₁.setInactive true else f₁) = f :=
    ⟨_, rfl⟩
  have v₂ := viewOf_setInactive_if f₁ (hasAny db factionFlagInactive)
  have s₂ : f₂.standing = standing := by
    rw [← h₂]
    split
    · exact (setInactive_standing f₁ true).trans s₁
    · exact s₁
  rw [h₂] at v₂ ⊢
  obtain ⟨f₃, h₃⟩ : ∃ f, (if hasAny db factionFlagAtWar then f₂.setAtWar true
      else if hasAny f₂.flags factionFlagVisible then f₂.setAtWar false else f₂) = f := ⟨_, rfl⟩
  have v₃ := viewOf_war_if f₂ (hasAny db factionFlagAtWar)
  have s₃ : f₃.standing = standing := by
    rw [← h₃]
    split
    · exact (setAtWar_standing f₂ true).trans s₂
    · split
      · exact (setAtWar_standing f₂ false).trans s₂
      · exact s₂
  rw [h₃] at v₃ ⊢
  have fixed₁ : (viewOf f₁.flags).fixed = (viewOf faction.flags).fixed := by rw [v₁]
  have fixed₂ : (viewOf f₂.flags).fixed = (viewOf faction.flags).fixed := by
    rw [v₂]
    exact fixed₁
  have fixed₃ : (viewOf f₃.flags).fixed = (viewOf faction.flags).fixed := by
    rw [v₃]
    exact fixed₂
  rw [viewOf_setAtWar_if, v₃, v₂, v₁, s₃, s₂, mayFight_of_fixed fixed₃, mayFight_of_fixed fixed₂,
    concealed_of_fixed fixed₁]
  rfl

/-- The flags of a reachable state that a load gives back: none of the guards of the load
refuses a flag that is set, and none of its rules sets one that is not. -/
structure Replays (table flags : UInt32) (standing : Int) (hostile : Bool) : Prop where
  inactive : hasAny table factionFlagInactive = true → hasAny flags factionFlagInactive = true
  atWar : hasAny flags factionFlagAtWar = true →
    hasAny table factionFlagAtWar = true ∨ mayFight flags standing = true
  atPeace : hasAny flags factionFlagAtWar = false →
    (hasAny table factionFlagAtWar = true → hasAny flags factionFlagVisible = true) ∧
      (hostile = true → mayFight flags standing = false)

theorem replayedView_iff {table flags : UInt32} (h : Grown table flags) (standing : Int)
    (hostile : Bool) :
    replayedView table flags standing hostile = viewOf flags ↔
      Replays table flags standing hostile := by
  have visible : ((viewOf table).visible || ((viewOf flags).visible && !concealed table)) =
      (viewOf flags).visible := by
    have grows := h.visible
    have shown := h.shown
    cases before : (viewOf table).visible with
    | true => rw [grows before, Bool.true_or]
    | false =>
        cases after : (viewOf flags).visible with
        | false => rfl
        | true =>
            rcases shown after with there | open_
            · rw [before] at there
              exact absurd there Bool.false_ne_true
            · rw [open_]
              rfl
  have inactive : ((viewOf flags).inactive && (!concealed table && (viewOf flags).visible)) = true ∨
      (viewOf flags).inactive = false ∨ (viewOf table).inactive = true := by
    cases set : (viewOf flags).inactive with
    | false => exact Or.inr (Or.inl rfl)
    | true =>
        rcases h.inactive set with there | ⟨seen, open_⟩
        · exact Or.inr (Or.inr there)
        · refine Or.inl ?_
          rw [seen, open_]
          rfl
  have fight := mayFight_of_fixed h.fixed standing
  constructor
  · intro same
    have war := congrArg FlagView.atWar same
    have rest := congrArg FlagView.inactive same
    simp only [replayedView, visible] at war rest
    constructor
    · intro set
      have set : (viewOf table).inactive = true := set
      rw [set, Bool.true_or] at rest
      exact rest.symm
    · intro set
      have set : (viewOf flags).atWar = true := set
      rw [set, if_pos rfl, ← fight] at war
      rcases Bool.or_eq_true_iff.mp war with war | war
      · exact Bool.or_eq_true_iff.mp war
      · exact Or.inr (Bool.and_eq_true_iff.mp war).2
    · intro clear
      have clear : (viewOf flags).atWar = false := clear
      rw [clear, if_neg Bool.false_ne_true, ← fight] at war
      obtain ⟨kept, forced⟩ := Bool.or_eq_false_iff.mp war
      constructor
      · intro set
        have set : (viewOf table).atWar = true := set
        rw [set, Bool.true_and] at kept
        exact (Bool.not_eq_false' _).mp kept
      · intro hostile
        rw [hostile, Bool.true_and] at forced
        exact forced
  · intro replays
    have war : (replayedView table flags standing hostile).atWar = (viewOf flags).atWar := by
      simp only [replayedView, visible]
      rw [← fight]
      cases set : (viewOf flags).atWar with
      | true =>
          rw [if_pos rfl]
          have kept : ((viewOf table).atWar || mayFight flags standing) = true :=
            Bool.or_eq_true_iff.mpr (replays.atWar set)
          rw [kept, Bool.true_or]
      | false =>
          rw [if_neg Bool.false_ne_true]
          obtain ⟨shown, peaceful⟩ := replays.atPeace set
          have kept : ((viewOf table).atWar && !(viewOf flags).visible) = false := by
            cases before : (viewOf table).atWar with
            | false => rfl
            | true =>
                have seen : (viewOf flags).visible = true := shown before
                rw [seen]
                rfl
          have calm : (hostile && mayFight flags standing) = false := by
            cases hh : hostile with
            | false => rfl
            | true => rw [peaceful hh, Bool.and_false]
          rw [kept, calm]
          rfl
    have rest : (replayedView table flags standing hostile).inactive = (viewOf flags).inactive := by
      simp only [replayedView, visible]
      cases before : (viewOf table).inactive with
      | true =>
          have set : (viewOf flags).inactive = true := replays.inactive before
          rw [set, Bool.true_or]
      | false =>
          rcases inactive with set | clear | there
          · rw [set, Bool.false_or]
            exact (Bool.and_eq_true_iff.mp set).1.symm
          · rw [clear]
            rfl
          · rw [before] at there
            exact absurd there Bool.false_ne_true
    have shape (v : FlagView) : v = ⟨v.fixed, v.visible, v.atWar, v.inactive⟩ := rfl
    rw [shape (replayedView table flags standing hostile), war, rest, shape (viewOf flags)]
    simp only [replayedView, visible, h.fixed]

/-- A row that repeats the flags of a state gives them back when they replay. -/
theorem replay_flags_iff {flags : UInt32} (h : Grown faction.flags flags) :
    (replay world forced id entry standing flags faction).flags = flags ↔
      Replays faction.flags flags standing
        (isHostile forced id (world.getBaseReputation entry + standing)) := by
  rw [← replayedView_iff h, ← viewOf_replay]
  exact ⟨fun same => congrArg viewOf same, viewOf_inj⟩

end Replay

end TortoiseWow.Reputation
