import TortoiseWow.Battleground.ThornGorge

/-!
A match in Thorn Gorge and its mirror image, in which the teams have changed places. Every
operation commutes with the mirror, but for a capture whose counts of players are 2^31 apart:
their difference is the least integer in both orders.
-/

namespace TortoiseWow.ThornGorge

def Team.mirror : Team → Team
  | alliance => horde
  | horde => alliance
  | neutral => neutral

theorem Team.mirror_mirror (team : Team) : team.mirror.mirror = team := by
  cases team <;> rfl

theorem Team.mirror_injective : Function.Injective Team.mirror :=
  Function.LeftInverse.injective Team.mirror_mirror

def MatchEvent.mirror : MatchEvent → MatchEvent
  | capture node allies horde => capture node horde allies
  | addPoints team points => addPoints team.mirror points
  | deliver guid team node => deliver guid team.mirror node
  | e => e

/-- The counts of a capture can be subtracted in both orders. -/
def MatchEvent.Fits : MatchEvent → Prop
  | capture _ allies horde => allies - horde ≠ 2147483648
  | _ => True

instance MatchEvent.decidableFits : DecidablePred Fits := fun e =>
  match e with
  | capture _ allies horde => inferInstanceAs (Decidable (allies - horde ≠ 2147483648))
  | configureCapture _ | addPoints _ _ | tick _ | pickUp _ | drop _ | deliver _ _ _ | finish =>
      inferInstanceAs (Decidable True)

namespace Rules

def mirror (s : Rules) : Rules :=
  { s with
    progress := s.progress.map (100 - ·)
    owner := s.owner.map Team.mirror
    score := #v[s.score.get 1, s.score.get 0] }

variable (s : Rules)

theorem get_score (score : Vector UInt32 2) (i : Fin 2) : score.get i = score[i] := rfl

theorem bases_mirror (team : Team) : s.mirror.bases team.mirror = s.bases team := by
  simp only [bases, mirror, Vector.toList_map]
  exact List.count_map_of_injective _ _ Team.mirror_injective team

theorem hasWinner_mirror : s.mirror.hasWinner = s.hasWinner := by
  simp only [hasWinner, mirror]
  exact Bool.or_comm _ _

theorem leader_mirror : s.mirror.leader = s.leader.mirror := by
  simp only [leader, mirror]
  change (if s.score[1] = s.score[0] then Team.neutral
    else if s.score[0] < s.score[1] then .alliance else .horde) = _
  by_cases same : s.score[0] = s.score[1]
  · rw [if_pos same.symm, if_pos same]
    rfl
  rw [if_neg (Ne.symm same), if_neg same]
  by_cases less : s.score[0] < s.score[1]
  · rw [if_pos less, if_neg (UInt32.lt_asymm less)]
    rfl
  · have more : s.score[1] < s.score[0] :=
      UInt32.lt_of_le_of_ne (UInt32.not_lt.mp less) (Ne.symm same)
    rw [if_neg less, if_pos more]
    rfl

theorem toInt_sub_mirror {allies horde : UInt32} (fits : allies - horde ≠ 2147483648) :
    (horde.toInt32 - allies.toInt32).toInt = -(allies.toInt32 - horde.toInt32).toInt := by
  have least : (allies.toInt32 - horde.toInt32).toInt ≠ -2 ^ 31 := by
    intro least
    have difference : allies.toInt32 - horde.toInt32 = (2147483648 : UInt32).toInt32 :=
      Int32.toInt_inj.mp (least.trans (by decide))
    exact fits (congrArg Int32.toUInt32 difference)
  have low := Int32.le_toInt (allies.toInt32 - horde.toInt32)
  have high := Int32.toInt_lt (allies.toInt32 - horde.toInt32)
  rw [← Int32.neg_sub, Int32.toInt_neg, Int.bmod_eq_of_le (by omega) (by omega)]

theorem clamp_neg (value : Int) (bound : Nat) :
    clamp (-value) (-bound) bound = -clamp value (-bound) bound := by
  simp only [clamp]
  omega

theorem ownerAfter_mirror (progress : Int) (owner : Team) :
    ownerAfter (100 - progress) owner.mirror = (ownerAfter progress owner).mirror := by
  by_cases full : progress = 100
  · subst full
    rfl
  by_cases empty : progress = 0
  · subst empty
    rfl
  have notFull : ¬ 100 - progress = 100 := by omega
  have notEmpty : ¬ 100 - progress = 0 := by omega
  have below : (100 - progress < 70) = (30 < progress) := propext (by omega)
  have above : (30 < 100 - progress) = (progress < 70) := propext (by omega)
  simp only [ownerAfter, full, empty, notFull, notEmpty, if_false, below, above]
  cases owner with
  | alliance => by_cases lost : progress < 70 <;> simp [Team.mirror, lost]
  | horde => by_cases lost : 30 < progress <;> simp [Team.mirror, lost]
  | neutral => rfl

theorem capture_mirror (node : UInt32) {allies horde : UInt32}
    (fits : allies - horde ≠ 2147483648) :
    s.mirror.capture node horde allies = (s.capture node allies horde).mirror := by
  by_cases closed : s.ended = true ∨ nodeCount ≤ node.toNat
  · have closed' : s.mirror.ended = true ∨ nodeCount ≤ node.toNat := closed
    rw [capture, dif_pos closed', capture, dif_pos closed]
  · have delta := clamp_neg (allies.toInt32 - horde.toInt32).toInt s.maxCaptureAdvantage.toNat
    rw [← toInt_sub_mirror fits] at delta
    simp only [capture, mirror, closed, dif_neg, not_false_eq_true, Vector.getElem_map, delta,
      Vector.map_set, ← ownerAfter_mirror]
    have progress : ∀ p d : Int, max 0 (min 100 (100 - p + 2 * -d)) =
      100 - max 0 (min 100 (p + 2 * d)) := by
      omega
    simp only [progress]

theorem addPoints_mirror (team : Team) (points : UInt32) :
    s.mirror.addPoints team.mirror points = (s.addPoints team points).mirror := by
  cases ended : s.ended with
  | true => simp only [addPoints, mirror, ended, if_true]
  | false =>
      cases team with
      | neutral => simp only [addPoints, mirror, ended, Team.mirror, Bool.false_eq_true, if_false]
      | alliance => simp [addPoints, mirror, ended, Team.mirror, get_score]
      | horde => simp [addPoints, mirror, ended, Team.mirror, get_score]

/-- The points of the two teams do not depend on each other. -/
theorem addPoints_comm (points points' : UInt32) :
    (s.addPoints .alliance points).addPoints .horde points' =
      (s.addPoints .horde points').addPoints .alliance points := by
  cases ended : s.ended with
  | true => simp [addPoints, ended]
  | false =>
      simp only [addPoints, ended, Bool.false_eq_true, if_false]
      have scores : ∀ a b : UInt32, (s.score.set 0 a).set 1 b = (s.score.set 1 b).set 0 a :=
        fun a b => Vector.set_comm a b (by decide)
      simp [scores]

theorem bases_addPoints (team team' : Team) (points : UInt32) :
    (s.addPoints team points).bases team' = s.bases team' := by
  rcases addPoints_cases s team points with same | ⟨-, i, bound, raised⟩
  · rw [same]
  · rw [raised]
    rfl

/-- What the resource timer pays for 2000 milliseconds. -/
def income (team : Team) : UInt32 := resourcePoints.getD (s.bases team) 0

theorem income_mirror (team : Team) : s.mirror.income team.mirror = s.income team := by
  rw [income, bases_mirror, income]

def payTimer : Rules := { s with resourceTimer := s.resourceTimer - 2000 }

theorem earn_eq : s.earn =
    (s.payTimer.addPoints .alliance (s.income .alliance)).addPoints .horde (s.income .horde) := by
  have horde := bases_addPoints s.payTimer .alliance .horde (s.income .alliance)
  have paid : (s.payTimer.addPoints .alliance (s.income .alliance)).income .horde =
    s.income .horde :=
    congrArg (resourcePoints.getD · 0) horde
  rw [← paid]
  rfl

/-- Alliance is paid first, which makes no difference. -/
theorem earn_mirror : s.mirror.earn = s.earn.mirror := by
  have alliance := addPoints_mirror s.payTimer .alliance (s.income .alliance)
  have horde := addPoints_mirror (s.payTimer.addPoints .alliance (s.income .alliance)) .horde
    (s.income .horde)
  calc s.mirror.earn
      = (s.payTimer.mirror.addPoints .alliance (s.mirror.income .alliance)).addPoints .horde
          (s.mirror.income .horde) := earn_eq s.mirror
    _ = (s.payTimer.mirror.addPoints .alliance (s.income .horde)).addPoints .horde
          (s.income .alliance) := by
        rw [← income_mirror s .horde, ← income_mirror s .alliance]
        rfl
    _ = (s.payTimer.mirror.addPoints .horde (s.income .alliance)).addPoints .alliance
          (s.income .horde) := addPoints_comm _ _ _
    _ = s.earn.mirror := by
        rw [earn_eq, ← horde, ← alliance]
        rfl

theorem earnAll_mirror (fuel : Nat) : earnAll fuel s.mirror = (earnAll fuel s).mirror := by
  induction fuel generalizing s with
  | zero => rfl
  | succ fuel ih =>
      rw [earnAll, earnAll, hasWinner_mirror, earn_mirror, ih]
      exact (apply_ite mirror _ _ _).symm

theorem tickFlag_mirror (milliseconds : UInt32) :
    s.mirror.tickFlag milliseconds = (s.tickFlag milliseconds).mirror := by
  simp only [tickFlag, apply_ite mirror]
  rfl

theorem tick_mirror (milliseconds : UInt32) :
    s.mirror.tick milliseconds = (s.tick milliseconds).mirror := by
  simp only [tick, apply_ite mirror, tickFlag_mirror]
  rw [← earnAll_mirror]
  rfl

theorem pickUp_mirror (guid : UInt64) : (s.mirror.pickUp guid).2 = (s.pickUp guid).2.mirror := by
  simp only [pickUp, apply_ite Prod.snd, apply_ite mirror]
  rfl

theorem drop_mirror (guid : UInt64) : (s.mirror.drop guid).2 = (s.drop guid).2.mirror := by
  simp only [drop, apply_ite Prod.snd, apply_ite mirror]
  rfl

theorem owner_mirror (node : Nat) (team : Team) :
    s.mirror.owner[node]? = some team.mirror ↔ s.owner[node]? = some team := by
  simp only [mirror, Vector.getElem?_map]
  rw [Option.map_eq_some_iff]
  constructor
  · rintro ⟨owner, held, same⟩
    rw [held, Team.mirror_injective same]
  · intro held
    exact ⟨team, held, rfl⟩

theorem deliver_mirror (guid : UInt64) (team : Team) (node : UInt32) :
    (s.mirror.deliver guid team.mirror node).2 = (s.deliver guid team node).2.mirror := by
  have neutral : team.mirror = .neutral ↔ team = .neutral := by
    cases team <;> simp [Team.mirror]
  simp only [deliver, apply_ite Prod.snd, apply_ite mirror, ne_eq, owner_mirror,
    neutral, bases_mirror,
    addPoints_mirror]
  rfl

theorem step_mirror {e : MatchEvent} (fits : e.Fits) :
    s.mirror.step e.mirror = (s.step e).mirror := by
  cases e with
  | configureCapture advantage => rfl
  | capture node allies horde => exact capture_mirror s node fits
  | addPoints team points => exact addPoints_mirror s team points
  | tick milliseconds => exact tick_mirror s milliseconds
  | pickUp guid => exact pickUp_mirror s guid
  | drop guid => exact drop_mirror s guid
  | deliver guid team node => exact deliver_mirror s guid team node
  | finish => rfl

theorem run_mirror {events : List MatchEvent} (fits : ∀ e ∈ events, e.Fits) :
    s.mirror.run (events.map MatchEvent.mirror) = (s.run events).mirror ∧
      (s.mirror.run (events.map MatchEvent.mirror)).leader = (s.run events).leader.mirror := by
  have mirrored : s.mirror.run (events.map MatchEvent.mirror) = (s.run events).mirror := by
    induction events generalizing s with
    | nil => rfl
    | cons e rest ih =>
        change run (s.mirror.step e.mirror) (rest.map MatchEvent.mirror) =
          ((s.step e).run rest).mirror
        rw [step_mirror s (fits e List.mem_cons_self)]
        exact ih (s.step e) fun e' later => fits e' (List.mem_cons_of_mem e later)
  refine ⟨mirrored, ?_⟩
  rw [mirrored]
  exact leader_mirror (s.run events)

/-- Five against two at the first node, and points for Alliance. -/
theorem run_mirror_capture :
    (mirror {}).run [.capture 0 2 5, .addPoints .horde 10] =
        (run {} [.capture 0 5 2, .addPoints .alliance 10]).mirror ∧
      ((mirror {}).run [.capture 0 2 5, .addPoints .horde 10]).leader = .horde :=
  @run_mirror {} [.capture 0 5 2, .addPoints .alliance 10] (by decide)

/-- Both orders of the counts 0 and 2^31 take progress away. -/
theorem capture_least :
    (mirror {}).run ([.capture 0 0 2147483648].map MatchEvent.mirror) ≠
      (run {} [.capture 0 0 2147483648]).mirror := by
  decide +kernel

end Rules

end TortoiseWow.ThornGorge
