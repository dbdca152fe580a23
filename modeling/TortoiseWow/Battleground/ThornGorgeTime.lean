import TortoiseWow.Battleground.ThornGorge

/-!
A match in Thorn Gorge depends on the time that has passed and not on how the updates cut it.
A tick only adds to the resource timer, and the loop that takes it off again and the timer of the
flag do not read each other's fields.
-/

namespace TortoiseWow.ThornGorge.Rules

def withFlag (s : Rules) (flag : Flag) (flagTimer : UInt32) : Rules := { s with flag, flagTimer }

def later (s : Rules) (milliseconds : UInt32) : Rules :=
  { s with resourceTimer := s.resourceTimer + milliseconds }

theorem tickFlag_eq (s : Rules) (milliseconds : UInt32) :
    s.tickFlag milliseconds =
      s.withFlag (s.tickFlag milliseconds).flag (s.tickFlag milliseconds).flagTimer := by
  simp only [tickFlag]
  split
  · split <;> rfl
  · rfl

theorem tickFlag_withFlag (s : Rules) (flag : Flag) (flagTimer milliseconds : UInt32) :
    (s.withFlag flag flagTimer).tickFlag milliseconds =
      s.withFlag (({ flag, flagTimer } : Rules).tickFlag milliseconds).flag
        (({ flag, flagTimer } : Rules).tickFlag milliseconds).flagTimer := by
  by_cases waiting : flag = .dropped ∨ flag = .respawning
  · by_cases returns : flagTimer ≤ milliseconds <;> simp [tickFlag, withFlag, waiting, returns]
  · simp [tickFlag, withFlag, waiting]

theorem addPoints_withFlag (s : Rules) (flag : Flag) (flagTimer : UInt32) (team : Team)
    (points : UInt32) :
    (s.withFlag flag flagTimer).addPoints team points =
      (s.addPoints team points).withFlag flag flagTimer := by
  cases ended : s.ended with
  | true => simp [addPoints, withFlag, ended]
  | false => cases team <;> simp [addPoints, withFlag, ended]

theorem addPoints_later (s : Rules) (milliseconds : UInt32) (team : Team) (points : UInt32) :
    (s.later milliseconds).addPoints team points =
    (s.addPoints team points).later milliseconds := by
  cases ended : s.ended with
  | true => simp [addPoints, later, ended]
  | false => cases team <;> simp [addPoints, later, ended]

theorem earn_withFlag (s : Rules) (flag : Flag) (flagTimer : UInt32) :
    (s.withFlag flag flagTimer).earn = s.earn.withFlag flag flagTimer := by
  have start : ({ s.withFlag flag flagTimer with
      resourceTimer := (s.withFlag flag flagTimer).resourceTimer - 2000 } : Rules) =
      ({ s with resourceTimer := s.resourceTimer - 2000 } : Rules).withFlag flag flagTimer := rfl
  simp only [earn]
  rw [start, addPoints_withFlag, addPoints_withFlag]
  rfl

theorem earn_later (s : Rules) (milliseconds : UInt32) :
    (s.later milliseconds).earn = s.earn.later milliseconds := by
  have start : ({ s.later milliseconds with
      resourceTimer := (s.later milliseconds).resourceTimer - 2000 } : Rules) =
      ({ s with resourceTimer := s.resourceTimer - 2000 } : Rules).later milliseconds := by
    simp only [later]
    congr 1
    simp only [UInt32.sub_eq_add_neg, UInt32.add_assoc, UInt32.add_comm milliseconds]
  simp only [earn]
  rw [start, addPoints_later, addPoints_later]
  rfl

theorem resourceTimer_earn (s : Rules) : s.earn.resourceTimer = s.resourceTimer - 2000 := by
  simp only [earn, addPoints]
  split <;> rfl

theorem earnAll_withFlag (fuel : Nat) (s : Rules) (flag : Flag) (flagTimer : UInt32) :
    earnAll fuel (s.withFlag flag flagTimer) = (earnAll fuel s).withFlag flag flagTimer := by
  induction fuel generalizing s with
  | zero => rfl
  | succ fuel ih =>
      have same : (s.withFlag flag flagTimer).resourceTimer = s.resourceTimer ∧
          (s.withFlag flag flagTimer).hasWinner = s.hasWinner := ⟨rfl, rfl⟩
      rw [earnAll, earnAll, same.1, same.2, earn_withFlag, ih]
      split <;> rfl

/-- The loop may go on. -/
def Earning (s : Rules) : Prop := 2000 ≤ s.resourceTimer ∧ s.hasWinner = false

instance (s : Rules) : Decidable s.Earning := inferInstanceAs (Decidable (_ ∧ _))

theorem earnAll_succ (fuel : Nat) (s : Rules) :
    earnAll (fuel + 1) s = if s.Earning then earnAll fuel s.earn else s := rfl

theorem Earning.timer {s : Rules} (h : s.Earning) :
    2000 ≤ s.resourceTimer.toNat ∧ s.earn.resourceTimer.toNat = s.resourceTimer.toNat - 2000 := by
  refine ⟨UInt32.le_iff_toNat_le.mp h.1, ?_⟩
  rw [resourceTimer_earn, UInt32.toNat_sub_of_le _ _ h.1]
  rfl

/-- The loop with as many rounds as the timer may need. -/
def settle (s : Rules) : Rules := earnAll (s.resourceTimer.toNat / 2000) s

/-- More rounds than needed change nothing. -/
theorem earnAll_eq_settle {fuel : Nat} {s : Rules} (enough : s.resourceTimer.toNat / 2000 ≤ fuel) :
    earnAll fuel s = s.settle := by
  have same : ∀ (fuel fuel' : Nat) (s : Rules), s.resourceTimer.toNat / 2000 ≤ fuel →
      s.resourceTimer.toNat / 2000 ≤ fuel' → earnAll fuel s = earnAll fuel' s := by
    intro fuel
    induction fuel with
    | zero =>
        intro fuel' s none _
        have idle : ¬ s.Earning := fun h => by
          have := h.timer.1
          omega
        cases fuel' with
        | zero => rfl
        | succ fuel' => rw [earnAll_succ, earnAll, if_neg idle]
    | succ fuel ih =>
        intro fuel' s enough enough'
        by_cases more : s.Earning
        · obtain ⟨full, earned⟩ := more.timer
          cases fuel' with
          | zero => omega
          | succ fuel' =>
              rw [earnAll_succ, earnAll_succ, if_pos more, if_pos more]
              exact ih fuel' s.earn (by omega) (by omega)
        · cases fuel' with
          | zero => rw [earnAll_succ, earnAll, if_neg more]
          | succ fuel' => rw [earnAll_succ, earnAll_succ, if_neg more, if_neg more]
  exact same fuel _ s enough (Nat.le_refl _)

theorem settle_of_earning {s : Rules} (more : s.Earning) : s.settle = s.earn.settle := by
  obtain ⟨full, earned⟩ := more.timer
  rw [settle]
  cases rounds : s.resourceTimer.toNat / 2000 with
  | zero => omega
  | succ fuel =>
      rw [earnAll_succ, if_pos more]
      exact earnAll_eq_settle (by omega)

theorem settle_of_idle {s : Rules} (idle : ¬ s.Earning) : s.settle = s := by
  rw [settle]
  cases s.resourceTimer.toNat / 2000 with
  | zero => rfl
  | succ fuel => rw [earnAll_succ, if_neg idle]

theorem toNat_later {s : Rules} {milliseconds : UInt32}
    (fits : s.resourceTimer.toNat + milliseconds.toNat < 2 ^ 32) :
    (s.later milliseconds).resourceTimer.toNat = s.resourceTimer.toNat + milliseconds.toNat := by
  rw [later, UInt32.toNat_add, Nat.mod_eq_of_lt fits]

theorem Earning.later {s : Rules} (h : s.Earning) {milliseconds : UInt32}
    (fits : s.resourceTimer.toNat + milliseconds.toNat < 2 ^ 32) :
    (s.later milliseconds).Earning := by
  refine ⟨?_, h.2⟩
  have full := h.timer.1
  rw [UInt32.le_iff_toNat_le, toNat_later fits]
  exact Nat.le_add_right_of_le full

theorem settle_later {s : Rules} {milliseconds : UInt32}
    (fits : s.resourceTimer.toNat + milliseconds.toNat < 2 ^ 32) :
    (s.settle.later milliseconds).settle = (s.later milliseconds).settle := by
  generalize time : s.resourceTimer.toNat = total
  induction total using Nat.strong_induction_on generalizing s with
  | _ total ih =>
      by_cases more : s.Earning
      · obtain ⟨full, earned⟩ := more.timer
        rw [settle_of_earning more, settle_of_earning (more.later fits), earn_later]
        exact ih _ (by omega) (by omega) rfl
      · rw [settle_of_idle more]

theorem settle_withFlag (s : Rules) (flag : Flag) (flagTimer : UInt32) :
    (s.withFlag flag flagTimer).settle = s.settle.withFlag flag flagTimer :=
  earnAll_withFlag _ s flag flagTimer

theorem not_earning_settle (s : Rules) : ¬ s.settle.Earning :=
  earnAll_done _ s (Nat.le_refl _)

/-- The loop takes time off and keeps what is not its own. -/
theorem settle_frame (s : Rules) :
    s.settle.ended = s.ended ∧ s.settle.flag = s.flag ∧ s.settle.flagTimer = s.flagTimer ∧
      s.settle.resourceTimer.toNat ≤ s.resourceTimer.toNat := by
  generalize time : s.resourceTimer.toNat = total
  induction total using Nat.strong_induction_on generalizing s with
  | _ total ih =>
      by_cases more : s.Earning
      · obtain ⟨full, earned⟩ := more.timer
        have same : s.earn.ended = s.ended ∧ s.earn.flag = s.flag ∧ s.earn.flagTimer =
          s.flagTimer := by
          simp only [earn, addPoints]
          split <;> exact ⟨rfl, rfl, rfl⟩
        obtain ⟨ended, flag, flagTimer, less⟩ := ih _ (by omega) s.earn rfl
        rw [settle_of_earning more, ended, flag, flagTimer, same.1, same.2.1, same.2.2]
        exact ⟨rfl, rfl, rfl, by omega⟩
      · rw [settle_of_idle more, time]
        exact ⟨rfl, rfl, rfl, Nat.le_refl _⟩

theorem tick_eq {s : Rules} (running : s.ended = false) (milliseconds : UInt32) :
    s.tick milliseconds = ((s.tickFlag milliseconds).later milliseconds).settle := by
  rw [tick, if_neg (by rw [running]; exact Bool.false_ne_true)]
  rfl

theorem tick_of_ended {s : Rules} (ended : s.ended = true) (milliseconds : UInt32) :
    s.tick milliseconds = s := by
  rw [tick, if_pos ended]

theorem tickFlag_tickFlag (s : Rules) {a b : UInt32} (fits : a.toNat + b.toNat < 2 ^ 32) :
    (s.tickFlag a).tickFlag b = s.tickFlag (a + b) := by
  have sum : (a + b).toNat = a.toNat + b.toNat := by
    rw [UInt32.toNat_add, Nat.mod_eq_of_lt fits]
  by_cases waiting : s.flag = .dropped ∨ s.flag = .respawning
  · by_cases over_a : s.flagTimer ≤ a
    · have over_sum : s.flagTimer ≤ a + b := by
        rw [UInt32.le_iff_toNat_le] at over_a ⊢
        omega
      simp [tickFlag, waiting, over_a, over_sum]
    · have left : (s.flagTimer - a).toNat = s.flagTimer.toNat - a.toNat := by
        refine UInt32.toNat_sub_of_le _ _ (UInt32.le_of_lt (UInt32.not_le.mp over_a))
      have same : s.flagTimer - a ≤ b ↔ s.flagTimer ≤ a + b := by
        rw [UInt32.le_iff_toNat_le] at over_a ⊢
        rw [UInt32.le_iff_toNat_le, left, sum]
        omega
      have rest : s.flagTimer - a - b = s.flagTimer - (a + b) := by
        rw [UInt32.sub_eq_add_neg, UInt32.sub_eq_add_neg, UInt32.sub_eq_add_neg, UInt32.neg_add,
          UInt32.add_assoc, UInt32.sub_eq_add_neg]
      simp only [tickFlag, waiting, over_a, if_true, if_false, same, rest]
  · simp only [tickFlag, waiting, if_false]

theorem tick_tick (s : Rules) {a b : UInt32}
    (fits : s.resourceTimer.toNat + a.toNat + b.toNat < 2 ^ 32) :
    (s.tick a).tick b = s.tick (a + b) := by
  cases ended : s.ended with
  | true => rw [tick_of_ended ended, tick_of_ended ended, tick_of_ended ended]
  | false =>
      have timer : ∀ milliseconds, (s.tickFlag milliseconds).resourceTimer = s.resourceTimer := by
        intro milliseconds
        rw [tickFlag_eq]
        rfl
      have running : (s.tick a).ended = false := by
        rw [tick_eq ended, (settle_frame _).1]
        exact (tickFlag_frame s a).2.trans ended
      -- the flag of both ticks can be moved before the time of the first
      have flags : ((s.tickFlag a).later a).settle.tickFlag b =
          ((s.tickFlag (a + b)).later a).settle := by
        have both := tickFlag_tickFlag s (a := a) (b := b) (by omega)
        rw [tickFlag_eq s a, tickFlag_withFlag] at both
        rw [← both, tickFlag_eq s a]
        change ((s.later a).withFlag _ _).settle.tickFlag b = ((s.later a).withFlag _ _).settle
        rw [settle_withFlag, settle_withFlag, tickFlag_withFlag]
        rfl
      have times : ((s.tickFlag (a + b)).later a).later b = (s.tickFlag (a + b)).later (a + b) := by
        simp only [later, UInt32.add_assoc]
      rw [tick_eq running, tick_eq ended, tick_eq ended, flags, settle_later, times]
      have start := @toNat_later (s.tickFlag (a + b)) a (by rw [timer]; omega)
      rw [start, timer]
      exact fits

/-- No resources are left to earn, and a flag that will return has time left. -/
structure Settled (s : Rules) : Prop where
  idle : s.ended = false → ¬ s.Earning
  waiting : s.ended = false → s.flag = .dropped ∨ s.flag = .respawning → s.flagTimer ≠ 0

theorem Settled.tick_zero {s : Rules} (h : s.Settled) : s.tick 0 = s := by
  cases ended : s.ended with
  | true => exact tick_of_ended ended 0
  | false =>
      have flag : s.tickFlag 0 = s := by
        by_cases waiting : s.flag = .dropped ∨ s.flag = .respawning
        · have some : ¬ s.flagTimer ≤ 0 := by
            intro none
            rw [UInt32.le_iff_toNat_le] at none
            exact h.waiting ended waiting (UInt32.toNat_inj.mp (Nat.le_zero.mp none))
          simp only [tickFlag, waiting, some, if_true, if_false, UInt32.sub_zero]
        · simp only [tickFlag, waiting, if_false]
      have same : s.later 0 = s := by
        simp only [later, UInt32.add_zero]
      rw [tick_eq ended, flag, same, settle_of_idle (h.idle ended)]

theorem settled_tick {s : Rules} (h : s.Settled) (milliseconds : UInt32) :
    (s.tick milliseconds).Settled := by
  cases ended : s.ended with
  | true =>
      rw [tick_of_ended ended]
      exact h
  | false =>
      rw [tick_eq ended]
      refine ⟨fun _ => not_earning_settle _, fun _ waiting => ?_⟩
      obtain ⟨-, flag, flagTimer, -⟩ := settle_frame ((s.tickFlag milliseconds).later milliseconds)
      rw [flag] at waiting
      rw [flagTimer]
      change (s.tickFlag milliseconds).flag = _ ∨ (s.tickFlag milliseconds).flag = _ at waiting
      change (s.tickFlag milliseconds).flagTimer ≠ 0
      by_cases before : s.flag = .dropped ∨ s.flag = .respawning
      · by_cases over_now : s.flagTimer ≤ milliseconds
        · simp [tickFlag, before, over_now] at waiting
        · simp only [tickFlag, before, over_now, if_true, if_false]
          intro none
          have left := congrArg UInt32.toNat none
          rw [UInt32.toNat_sub_of_le _ _ (UInt32.le_of_lt (UInt32.not_le.mp over_now))] at left
          rw [UInt32.le_iff_toNat_le] at over_now
          change _ = 0 at left
          omega
      · simp only [tickFlag, before, if_false] at waiting

theorem Earning.of_fair {s s' : Rules} (h : s'.Earning) (fair : Fair s s')
    (timer : s'.resourceTimer = s.resourceTimer) : s.Earning := by
  refine ⟨timer ▸ h.1, ?_⟩
  have open_ := h.2
  simp only [hasWinner, Bool.or_eq_false_iff, decide_eq_false_iff_not] at open_ ⊢
  exact ⟨fun won => open_.1 (UInt32.le_trans won (fair.scores 0 (by decide))),
    fun won => open_.2 (UInt32.le_trans won (fair.scores 1 (by decide)))⟩

theorem Settled.of_fair {s s' : Rules} (h : s.Settled) (fair : Fair s s')
    (timer : s'.resourceTimer = s.resourceTimer) (running : s'.ended = false → s.ended = false)
    (waiting : s'.ended = false → s'.flag = .dropped ∨ s'.flag = .respawning → s'.flagTimer ≠ 0) :
    s'.Settled :=
  ⟨fun ended more => h.idle (running ended) (more.of_fair fair timer), waiting⟩

theorem addPoints_frame (s : Rules) (team : Team) (points : UInt32) :
    (s.addPoints team points).resourceTimer = s.resourceTimer ∧
      (s.addPoints team points).ended = s.ended ∧ (s.addPoints team points).flag = s.flag ∧
      (s.addPoints team points).flagTimer = s.flagTimer := by
  obtain same | ⟨-, i, _, raised⟩ := addPoints_cases s team points
  · rw [same]
    exact ⟨rfl, rfl, rfl, rfl⟩
  · rw [raised]
    exact ⟨rfl, rfl, rfl, rfl⟩

theorem Settled.step {s : Rules} (h : s.Settled) (legal : s.Legal) (e : MatchEvent) :
    (s.step e).Settled := by
  have fair := (legal.step e).2
  cases e with
  | configureCapture advantage => exact h.of_fair fair rfl id h.waiting
  | capture node allies horde =>
      have frame : (s.capture node allies horde).resourceTimer = s.resourceTimer ∧
          (s.capture node allies horde).ended = s.ended ∧
          (s.capture node allies horde).flag = s.flag ∧
          (s.capture node allies horde).flagTimer = s.flagTimer := by
        simp only [capture]
        split <;> exact ⟨rfl, rfl, rfl, rfl⟩
      obtain ⟨timer, ended, flag, flagTimer⟩ := frame
      refine h.of_fair fair timer (fun running => ended ▸ running) ?_
      simp only [Rules.step, ended, flag, flagTimer]
      exact h.waiting
  | addPoints team points =>
      obtain ⟨timer, ended, flag, flagTimer⟩ := addPoints_frame s team points
      refine h.of_fair fair timer (fun running => ended ▸ running) ?_
      simp only [Rules.step, ended, flag, flagTimer]
      exact h.waiting
  | tick milliseconds => exact settled_tick h milliseconds
  | pickUp guid =>
      simp only [Rules.step, pickUp] at fair ⊢
      split at fair
      case isTrue refused => rwa [if_pos refused]
      case isFalse may =>
        rw [if_neg may]
        exact h.of_fair fair rfl id fun _ waiting => by simp at waiting
  | drop guid =>
      simp only [Rules.step, drop] at fair ⊢
      split at fair
      case isTrue refused => rwa [if_pos refused]
      case isFalse may =>
        rw [if_neg may]
        exact h.of_fair fair rfl id fun _ _ => (by decide : droppedFlagReturnMs ≠ 0)
  | deliver guid team node =>
      obtain ⟨timer, ended, -, -⟩ := addPoints_frame s team (deliveryPoints.getD (s.bases team) 0)
      simp only [Rules.step, deliver] at fair ⊢
      split at fair
      case isTrue refused => rwa [if_pos refused]
      case isFalse may =>
        rw [if_neg may]
        exact h.of_fair fair timer (fun running => ended ▸ running)
          fun _ _ => (by decide : flagRespawnMs ≠ 0)
  | finish =>
      constructor
      · intro running
        cases running
      · intro running
        cases running

theorem settled_run (events : List MatchEvent) : (run {} events).Settled := by
  have keep : ∀ (s : Rules) (e : MatchEvent), s.Legal ∧ s.Settled →
    (s.step e).Legal ∧ (s.step e).Settled :=
    fun s e h => ⟨(h.1.step e).1, h.2.step h.1 e⟩
  refine (Lib.run_always keep ⟨Legal.start, ?_⟩ events).2
  exact ⟨fun _ more => absurd more (by decide), fun _ waiting => by simp at waiting⟩

theorem run_ticks {s : Rules} (h : s.Settled) {schedule : List UInt32}
    (fits : s.resourceTimer.toNat + (schedule.map UInt32.toNat).sum < 2 ^ 32) :
    s.run (schedule.map .tick) = s.tick (UInt32.ofNat (schedule.map UInt32.toNat).sum) := by
  induction schedule generalizing s with
  | nil => exact h.tick_zero.symm
  | cons milliseconds schedule ih =>
      rw [List.map_cons, List.sum_cons] at fits
      have value : (UInt32.ofNat (schedule.map UInt32.toNat).sum).toNat =
          (schedule.map UInt32.toNat).sum :=
        UInt32.toNat_ofNat_of_lt' (Nat.lt_of_le_of_lt (by omega) fits)
      have sum : milliseconds + UInt32.ofNat (schedule.map UInt32.toNat).sum =
          UInt32.ofNat (milliseconds.toNat + (schedule.map UInt32.toNat).sum) := by
        rw [UInt32.ofNat_add, UInt32.ofNat_toNat]
      have timer : (s.tick milliseconds).resourceTimer.toNat ≤
          s.resourceTimer.toNat + milliseconds.toNat := by
        cases ended : s.ended with
        | true =>
            rw [tick_of_ended ended]
            exact Nat.le_add_right _ _
        | false =>
            rw [tick_eq ended]
            refine (settle_frame _).2.2.2.trans (Nat.le_of_eq ?_)
            rw [tickFlag_eq, toNat_later (s := s.withFlag _ _)]
            · rfl
            · change s.resourceTimer.toNat + _ < _
              omega
      rw [List.map_cons, List.map_cons, List.sum_cons, ← sum, ← tick_tick s (by rw [value]; omega)]
      exact ih (s := s.tick milliseconds) (settled_tick h milliseconds) (by omega)

/-- In every state of a match two ticks are one of both times, and what a schedule of updates
leaves depends only on the time that has passed. -/
theorem tick_of_elapsed (events : List MatchEvent) (a b : UInt32) (schedule schedule' : List UInt32)
    (fits : (run {} events).resourceTimer.toNat + a.toNat + b.toNat < 2 ^ 32)
    (same : (schedule.map UInt32.toNat).sum = (schedule'.map UInt32.toNat).sum)
    (fits' : (run {} events).resourceTimer.toNat + (schedule.map UInt32.toNat).sum < 2 ^ 32) :
    ((run {} events).tick a).tick b = (run {} events).tick (a + b) ∧
      (run {} events).run (schedule.map .tick) = (run {} events).run (schedule'.map .tick) := by
  refine ⟨tick_tick _ fits, ?_⟩
  rw [run_ticks (settled_run events) fits', run_ticks (settled_run events) (same ▸ fits'), same]

def droppedFlag : List MatchEvent :=
  List.replicate 13 (.capture 0 15 0) ++ [.pickUp 7, .drop 7]

/-- The flag returns between two updates, and the node earns points. -/
theorem droppedFlag_elapsed :
    ((run {} droppedFlag).tick 29999).tick 2001 = (run {} droppedFlag).tick (29999 + 2001) ∧
      (run {} droppedFlag).run ([1000, 1999, 30001].map .tick) =
        (run {} droppedFlag).run ([16500, 16500].map .tick) :=
  tick_of_elapsed droppedFlag 29999 2001 [1000, 1999, 30001] [16500, 16500] (by decide +kernel)
    (by decide +kernel) (by decide +kernel)

end TortoiseWow.ThornGorge.Rules
