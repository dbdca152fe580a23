import Mathlib
import TortoiseWow.Chat.WhisperTargetLimits
import TortoiseWow.Lib.SlidingWindow

/-!
The limit over the life of an account. Within a session the targets that were
added in the last `decay` seconds are all in memory with their times, so an
added target finds room only when the period has room. Across sessions this
holds as long as each new session loads those targets.
-/

namespace TortoiseWow.Chat

open Lib

/-- Added less than `decay` seconds ago. -/
def Recent (limits : WhisperTargetLimits) (now time : UInt64) : Prop :=
  now.toNat < time.toNat + limits.decay.toNat

instance (limits : WhisperTargetLimits) (now time : UInt64) : Decidable (Recent limits now time) :=
  inferInstanceAs (Decidable (_ < _))

section Decay

variable {limits : WhisperTargetLimits} {targets : Targets} {targetGuid level : UInt32}
  {now time : UInt64}

theorem kept_iff (past : time ≤ now) :
    (!decide (now - time ≥ limits.decay.toUInt64)) = true ↔ Recent limits now time := by
  rw [Bool.not_eq_true', decide_eq_false_iff_not, ge_iff_le, UInt64.le_iff_toNat_le,
    UInt64.toNat_sub_of_le now time past, UInt32.toNat_toUInt64, Recent]
  rw [UInt64.le_iff_toNat_le] at past
  omega

theorem find?_targetDecay (past : time ≤ now) (recent : Recent limits now time)
    (found : targets.find? targetGuid = some time) :
    (limits.targetDecay now targets).find? targetGuid = some time := by
  rw [UnorderedMap.find?_eq_some_iff] at found ⊢
  exact List.mem_filter.mpr ⟨found, (kept_iff past).mpr recent⟩

/-- What a call does: nothing that is remembered goes but what has decayed, and a target is
added only when there is room. -/
theorem canWhisper_cases (limits : WhisperTargetLimits) (now : UInt64) (targets : Targets)
    (targetGuid level : UInt32) :
    ∃ left : Targets, (left = targets ∨ left = limits.targetDecay now targets) ∧
      ((limits.canWhisper now targets targetGuid level).2 = left ∨
        (WhisperTargetLimits.size left < limits.maxTargets.toNat ∧
          targets.find? targetGuid = none ∧
          (limits.canWhisper now targets targetGuid level).2 = left.assign targetGuid now)) := by
  simp only [WhisperTargetLimits.canWhisper]
  split
  · exact ⟨targets, Or.inl rfl, Or.inl rfl⟩
  · split
    · exact ⟨targets, Or.inl rfl, Or.inl rfl⟩
    · rename_i unknown
      have unknown : targets.find? targetGuid = none := by simpa using unknown
      by_cases full : WhisperTargetLimits.size targets ≥ limits.maxTargets.toNat
      · rw [if_pos full]
        refine ⟨limits.targetDecay now targets, Or.inr rfl, ?_⟩
        split
        · exact Or.inl rfl
        · rename_i room
          exact Or.inr ⟨not_le.mp room, unknown, rfl⟩
      · rw [if_neg full, if_neg full]
        exact ⟨targets, Or.inl rfl, Or.inr ⟨not_le.mp full, unknown, rfl⟩⟩

end Decay

section Loading

theorem find?_foldl {rows : List TargetRow} (distinct : (rows.map (·.1)).Nodup)
    (targets : Targets) :
    (∀ row ∈ rows,
      (rows.foldl (fun targets row => targets.assign row.1 row.2.toUInt64) targets).find?
        row.1 = some row.2.toUInt64) ∧
      ∀ targetGuid, targetGuid ∉ rows.map (·.1) →
        (rows.foldl (fun targets row => targets.assign row.1 row.2.toUInt64) targets).find?
          targetGuid = targets.find? targetGuid := by
  induction rows generalizing targets with
  | nil => exact ⟨fun _ mem => absurd mem List.not_mem_nil, fun _ _ => rfl⟩
  | cons first rows ih =>
      rw [List.map_cons, List.nodup_cons] at distinct
      obtain ⟨loaded, others⟩ := ih distinct.2 (targets.assign first.1 first.2.toUInt64)
      rw [List.foldl_cons]
      constructor
      · intro row mem
        rcases List.mem_cons.mp mem with rfl | mem
        · rw [others _ distinct.1, UnorderedMap.find?_assign_self]
        · exact loaded row mem
      · intro targetGuid absent
        rw [List.map_cons, List.mem_cons, not_or] at absent
        rw [others _ absent.2, UnorderedMap.find?_assign_of_ne _ absent.1]

theorem find?_loadTargets {rows : List TargetRow} (distinct : (rows.map (·.1)).Nodup)
    {row : TargetRow} (mem : row ∈ rows) :
    (loadTargets rows).find? row.1 = some row.2.toUInt64 :=
  (find?_foldl distinct _).1 row mem

end Loading

section Runs

variable (limits : WhisperTargetLimits)

/-- The targets added less than `decay` seconds ago. -/
def recentlyAdded (w : World) : List (UInt32 × UInt64) :=
  w.added.filter fun add => decide (Recent limits w.now add.2)

structure Remembered (w : World) : Prop where
  past : ∀ add ∈ w.added, add.2 ≤ w.now
  distinct : ((recentlyAdded limits w).map (·.1)).Nodup
  known : ∀ targets, w.session = some targets →
    ∀ add ∈ recentlyAdded limits w, targets.find? add.1 = some add.2
  limited : Limited limits.maxTargets.toNat limits.decay.toNat (w.added.map (·.2.toNat))
  unique : (w.table.map (·.1)).Nodup

/-- A session is constructed when the rows of the account hold every target that was added
less than `decay` seconds ago, with the time at which it was added. -/
def RowsHoldRecent (w : World) : Event → Prop
  | .login =>
      w.session = none → ∀ add ∈ w.added, Recent limits w.now add.2 →
        ∃ row ∈ w.table, row.1 = add.1 ∧ row.2.toUInt64 = add.2
  | _ => True

variable {limits}

theorem mem_recentlyAdded {w : World} {add : UInt32 × UInt64} :
    add ∈ recentlyAdded limits w ↔ add ∈ w.added ∧ Recent limits w.now add.2 := by
  rw [recentlyAdded, List.mem_filter, decide_eq_true_iff]

/-- As time goes on targets only leave the period. -/
theorem recentlyAdded_clock (w : World) {time : UInt64} (later : w.now ≤ time) :
    (recentlyAdded limits { w with now := time }).Sublist (recentlyAdded limits w) := by
  apply List.monotone_filter_right
  intro add still
  have still : Recent limits time add.2 := of_decide_eq_true still
  have recent : Recent limits w.now add.2 :=
    lt_of_le_of_lt (UInt64.le_iff_toNat_le.mp later) still
  exact decide_eq_true recent

theorem Remembered.count_le {w : World} (h : Remembered limits w) {left : Targets}
    (known : ∀ add ∈ recentlyAdded limits w, left.find? add.1 = some add.2) :
    (recentlyAdded limits w).length ≤ WhisperTargetLimits.size left := by
  have inside : ((recentlyAdded limits w).map (·.1)) ⊆ left.keys := by
    intro targetGuid mem
    obtain ⟨add, added, rfl⟩ := List.mem_map.mp mem
    exact List.mem_map.mpr ⟨_, UnorderedMap.find?_eq_some_iff.mp (known add added), rfl⟩
  have fewer := (List.subperm_of_subset h.distinct inside).length_le
  simpa [UnorderedMap.keys, WhisperTargetLimits.size] using fewer

theorem Remembered.add {w : World} (h : Remembered limits w) {left : Targets} {targetGuid : UInt32}
    (known : ∀ add ∈ recentlyAdded limits w, left.find? add.1 = some add.2)
    (fresh : ∀ add ∈ recentlyAdded limits w, add.1 ≠ targetGuid)
    (room : WhisperTargetLimits.size left < limits.maxTargets.toNat) :
    Remembered limits
      { w with
        session := some (left.assign targetGuid w.now)
        added := (targetGuid, w.now) :: w.added } := by
  have few := h.count_le known
  have recent : recentlyAdded limits
      { w with
        session := some (left.assign targetGuid w.now)
        added := (targetGuid, w.now) :: w.added } =
      if Recent limits w.now w.now then (targetGuid, w.now) :: recentlyAdded limits w
      else recentlyAdded limits w := by
    rw [recentlyAdded, List.filter_cons]
    by_cases now : Recent limits w.now w.now
    · rw [if_pos (decide_eq_true now), if_pos now]
      rfl
    · rw [if_neg (by simpa using now), if_neg now]
      rfl
  constructor
  · intro add mem
    rcases List.mem_cons.mp mem with rfl | mem
    · exact UInt64.le_refl _
    · exact h.past add mem
  · rw [recent]
    split
    · rw [List.map_cons, List.nodup_cons]
      refine ⟨fun mem => ?_, h.distinct⟩
      obtain ⟨add, mem, same⟩ := List.mem_map.mp mem
      exact fresh add mem same
    · exact h.distinct
  · rintro targets ⟨⟩ add mem
    rw [recent] at mem
    have cases : add = (targetGuid, w.now) ∨ add ∈ recentlyAdded limits w := by
      split at mem
      · exact List.mem_cons.mp mem
      · exact Or.inr mem
    rcases cases with rfl | mem
    · exact UnorderedMap.find?_assign_self _ _ _
    · rw [UnorderedMap.find?_assign_of_ne _ (fresh add mem)]
      exact known add mem
  · rw [List.map_cons]
    apply h.limited.cons
    · intro time mem
      obtain ⟨add, added, rfl⟩ := List.mem_map.mp mem
      exact UInt64.le_iff_toNat_le.mp (h.past add added)
    · rw [List.countP_map, List.countP_eq_length_filter]
      exact lt_of_le_of_lt few room
  · exact h.unique

theorem Remembered.canWhisper {w : World} (h : Remembered limits w) (targetGuid level : UInt32) :
    Remembered limits (w.step limits (.canWhisper targetGuid level)) := by
  simp only [World.step]
  split
  · exact h
  · rename_i targets online
    have found := h.known targets online
    obtain ⟨left, kept, done⟩ := canWhisper_cases limits w.now targets targetGuid level
    have known : ∀ add ∈ recentlyAdded limits w, left.find? add.1 = some add.2 := by
      intro add mem
      obtain ⟨added, recent⟩ := mem_recentlyAdded.mp mem
      rcases kept with rfl | rfl
      · exact found add mem
      · exact find?_targetDecay (h.past add added) recent (found add mem)
    rcases done with done | ⟨room, unknown, done⟩
    · rw [done]
      have none : ¬ (targets.find? targetGuid = none ∧ (left.find? targetGuid).isSome) := by
        rintro ⟨before, after⟩
        rcases kept with rfl | rfl
        · rw [before] at after
          exact absurd after (by decide)
        · obtain ⟨time, after⟩ := Option.isSome_iff_exists.mp after
          have mem := List.mem_of_mem_filter (UnorderedMap.find?_eq_some_iff.mp after)
          rw [UnorderedMap.find?_eq_some_iff.mpr mem] at before
          cases before
      rw [if_neg none]
      refine ⟨h.past, h.distinct, ?_, h.limited, h.unique⟩
      rintro _ ⟨⟩
      exact known
    · rw [done, if_pos ⟨unknown, by rw [UnorderedMap.find?_assign_self]; rfl⟩]
      apply h.add known ?_ room
      intro add mem same
      have there := found add mem
      rw [same, unknown] at there
      cases there

theorem Remembered.step {w : World} (h : Remembered limits w) {event : Event}
    (loads : RowsHoldRecent limits w event) : Remembered limits (w.step limits event) := by
  cases event with
  | clock time =>
      simp only [World.step]
      split
      · rename_i later
        have fewer := @recentlyAdded_clock limits w _ later
        refine ⟨?_, h.distinct.sublist (fewer.map _), ?_, h.limited, h.unique⟩
        · exact fun add mem => UInt64.le_trans (h.past add mem) later
        · exact fun targets online add mem => h.known targets online add (fewer.subset mem)
      · exact h
  | canWhisper targetGuid level => exact h.canWhisper targetGuid level
  | login =>
      simp only [World.step]
      split
      · exact h
      · rename_i offline
        refine ⟨h.past, h.distinct, ?_, h.limited, h.unique⟩
        rintro targets ⟨⟩ add mem
        obtain ⟨added, recent⟩ := mem_recentlyAdded.mp mem
        obtain ⟨row, mem, target, time⟩ := loads offline add added recent
        rw [← target, ← time]
        exact find?_loadTargets h.unique mem
  | logout =>
      simp only [World.step]
      split
      · exact h
      · exact ⟨h.past, h.distinct, fun _ online => (nomatch online), h.limited, h.unique⟩
  | executeStatement =>
      simp only [World.step, World.executeStatement]
      split
      · exact h
      · exact ⟨h.past, h.distinct, h.known, h.limited, List.nodup_nil⟩
      · refine ⟨h.past, h.distinct, h.known, h.limited, ?_⟩
        rename_i targetGuid time rest _
        cases inserted : insertRow Prod.fst (targetGuid, time) w.table with
        | none => exact h.unique
        | some table => exact nodup_insertRow Prod.fst h.unique inserted
  | runCallback =>
      simp only [World.step, World.runCallback]
      split
      · exact h
      · exact ⟨h.past, h.distinct, h.known, h.limited, h.unique⟩

theorem remembered_initial (limits : WhisperTargetLimits) : Remembered limits .initial where
  past _ mem := absurd mem List.not_mem_nil
  distinct := List.nodup_nil
  known _ online := nomatch online
  limited := limited_nil _ _
  unique := List.nodup_nil

/-- As long as each new session finds the recent targets in the rows, no period of `decay`
seconds sees more than `max_targets` targets added. -/
theorem targets_limited (limits : WhisperTargetLimits) (events : List Event)
    (loads : Along (World.step limits) (RowsHoldRecent limits) .initial events) :
    Limited limits.maxTargets.toNat limits.decay.toNat
      ((run (World.step limits) .initial events).added.map (·.2.toNat)) := by
  have remembered : Remembered limits (run (World.step limits) .initial events) :=
    run_invariant (fun _ _ h => h.step) (remembered_initial limits) loads
  exact remembered.limited

/-- The callback of the first session saves the target of the second, and the third session loads
it: there is room for one more target until the first decays. -/
theorem targets_limited_over_sessions :
    ∃ w, w = run (World.step ⟨2, 60, 100⟩) .initial
        [.login, .logout, .login, .canWhisper 7 1, .executeStatement, .runCallback,
          .executeStatement, .logout, .clock 50, .login, .canWhisper 8 1, .canWhisper 9 1,
          .clock 120, .canWhisper 9 1] ∧
      w.added = [(9, 120), (8, 50), (7, 0)] ∧ Limited 2 100 (w.added.map (·.2.toNat)) := by
  refine ⟨_, rfl, by decide, targets_limited ⟨2, 60, 100⟩ _ ?_⟩
  refine ⟨?_, trivial, ?_, trivial, trivial, trivial, trivial, trivial, trivial, ?_, trivial,
    trivial, trivial, trivial, trivial⟩
  · exact fun _ _ mem => absurd mem List.not_mem_nil
  · exact fun _ _ mem => absurd mem List.not_mem_nil
  · intro _ add mem _
    cases List.mem_singleton.mp mem
    exact ⟨(7, 0), List.mem_singleton.mpr rfl, rfl, rfl⟩

/-- The targets of a session that ended are not saved: the callback looks for a session of
the account, and the next session starts with none. -/
theorem limit_passed_by_relog :
    ¬ Limited 1 100 ((run (World.step ⟨1, 60, 100⟩) .initial
      [.login, .canWhisper 7 1, .logout, .executeStatement, .runCallback, .login,
        .canWhisper 8 1]).added.map (·.2.toNat)) := by
  intro limited
  exact absurd (limited 0) (by decide)

end Runs

end TortoiseWow.Chat
