import TortoiseWow.Lib.Run

/-!
The rules of a match in Thorn Gorge: four nodes with their progress and owner, two scores
and one flag. Numbers wrap as the source's do. The difference of the two counts of players
is taken modulo 2^32 before it is clamped.
-/

namespace TortoiseWow.ThornGorge

def nodeCount : Nat := 4

def maxScore : UInt32 := 1600

def droppedFlagReturnMs : UInt32 := 30000

def flagRespawnMs : UInt32 := 23000

inductive Team where
  | alliance
  | horde
  | neutral
  deriving Repr, DecidableEq

inductive Flag where
  | center
  | carried
  | dropped
  | respawning
  deriving Repr, DecidableEq

structure Rules where
  progress : Vector Int nodeCount := Vector.replicate nodeCount 50
  owner : Vector Team nodeCount := Vector.replicate nodeCount .neutral
  score : Vector UInt32 2 := Vector.replicate 2 0
  flag : Flag := .center
  carrier : UInt64 := 0
  flagTimer : UInt32 := 0
  resourceTimer : UInt32 := 0
  ended : Bool := false
  maxCaptureAdvantage : UInt32 := 2
  deriving Repr, DecidableEq

namespace Rules

def clamp (value low high : Int) : Int := max low (min high value)

def configureCapture (s : Rules) (advantage : Int32) : Rules :=
  { s with maxCaptureAdvantage := UInt32.ofNat (clamp advantage.toInt 1 5).toNat }

def bases (s : Rules) (team : Team) : Nat := s.owner.toList.count team

def ownerAfter (progress : Int) (owner : Team) : Team :=
  if progress = 100 then .alliance
  else if progress = 0 then .horde
  else if owner = .alliance ∧ progress < 70 ∨ owner = .horde ∧ 30 < progress then .neutral
  else owner

def capture (s : Rules) (node allies horde : UInt32) : Rules :=
  if h : s.ended = true ∨ nodeCount ≤ node.toNat then s
  else
    have bound : node.toNat < nodeCount := Nat.lt_of_not_le fun hle => h (Or.inr hle)
    let delta := clamp (allies.toInt32 - horde.toInt32).toInt (-s.maxCaptureAdvantage.toNat)
      s.maxCaptureAdvantage.toNat
    let progress := max 0 (min 100 (s.progress[node.toNat] + 2 * delta))
    { s with
      progress := s.progress.set node.toNat progress
      owner := s.owner.set node.toNat (ownerAfter progress s.owner[node.toNat]) }

def raise (score points : UInt32) : UInt32 := score + min points (maxScore - score)

def addPoints (s : Rules) (team : Team) (points : UInt32) : Rules :=
  if s.ended then s
  else
    match team with
    | .neutral => s
    | .alliance => { s with score := s.score.set 0 (raise s.score[0] points) }
    | .horde => { s with score := s.score.set 1 (raise s.score[1] points) }

def leader (s : Rules) : Team :=
  if s.score[0] = s.score[1] then .neutral else if s.score[1] < s.score[0]
    then .alliance else .horde

def hasWinner (s : Rules) : Bool := maxScore ≤ s.score[0] || maxScore ≤ s.score[1]

def resourcePoints : List UInt32 := [0, 1, 2, 5, 10]

def deliveryPoints : List UInt32 := [0, 75, 85, 100, 500]

/-- A round of the loop of Tick. -/
def earn (s : Rules) : Rules :=
  let s := { s with resourceTimer := s.resourceTimer - 2000 }
  let s := s.addPoints .alliance (resourcePoints.getD (s.bases .alliance) 0)
  s.addPoints .horde (resourcePoints.getD (s.bases .horde) 0)

def earnAll : Nat → Rules → Rules
  | 0, s => s
  | fuel + 1, s =>
      if 2000 ≤ s.resourceTimer ∧ s.hasWinner = false then earnAll fuel s.earn else s

def tickFlag (s : Rules) (milliseconds : UInt32) : Rules :=
  if s.flag = .dropped ∨ s.flag = .respawning then
    if s.flagTimer ≤ milliseconds then { s with flag := .center, flagTimer := 0 }
    else { s with flagTimer := s.flagTimer - milliseconds }
  else s

def tick (s : Rules) (milliseconds : UInt32) : Rules :=
  if s.ended then s
  else
    let s := s.tickFlag milliseconds
    let s := { s with resourceTimer := s.resourceTimer + milliseconds }
    earnAll (s.resourceTimer.toNat / 2000) s

def pickUp (s : Rules) (guid : UInt64) : Bool × Rules :=
  if s.ended ∨ guid = 0 ∨ s.flag ≠ .center ∧ s.flag ≠ .dropped then (false, s)
  else (true, { s with flag := .carried, carrier := guid, flagTimer := 0 })

def drop (s : Rules) (guid : UInt64) : Bool × Rules :=
  if s.flag ≠ .carried ∨ s.carrier ≠ guid then (false, s)
  else (true, { s with carrier := 0, flag := .dropped, flagTimer := droppedFlagReturnMs })

def deliver (s : Rules) (guid : UInt64) (team : Team) (node : UInt32) : Bool × Rules :=
  if s.ended ∨ team = .neutral ∨ s.owner[node.toNat]? ≠ some team ∨ s.flag ≠ .carried ∨
      s.carrier ≠ guid then (false, s)
  else
    (true, { s.addPoints team (deliveryPoints.getD (s.bases team) 0) with
      carrier := 0
      flag := .respawning
      flagTimer := flagRespawnMs })

def finish (s : Rules) : Rules :=
  { s with ended := true, carrier := 0, flag := .respawning, flagTimer := 0 }

end Rules

inductive MatchEvent where
  | configureCapture (advantage : Int32)
  | capture (node allies horde : UInt32)
  | addPoints (team : Team) (points : UInt32)
  | tick (milliseconds : UInt32)
  | pickUp (guid : UInt64)
  | drop (guid : UInt64)
  | deliver (guid : UInt64) (team : Team) (node : UInt32)
  | finish
  deriving Repr, DecidableEq

namespace Rules

def step (s : Rules) : MatchEvent → Rules
  | .configureCapture advantage => s.configureCapture advantage
  | .capture node allies horde => s.capture node allies horde
  | .addPoints team points => s.addPoints team points
  | .tick milliseconds => s.tick milliseconds
  | .pickUp guid => (s.pickUp guid).2
  | .drop guid => (s.drop guid).2
  | .deliver guid team node => (s.deliver guid team node).2
  | .finish => s.finish

def run (s : Rules) (events : List MatchEvent) : Rules := Lib.run step s events

/-- The loop of Tick is left because there is nothing more to earn. -/
theorem earnAll_done (fuel : Nat) (s : Rules) (h : s.resourceTimer.toNat / 2000 ≤ fuel) :
    ¬(2000 ≤ (earnAll fuel s).resourceTimer ∧ (earnAll fuel s).hasWinner = false) := by
  induction fuel generalizing s with
  | zero =>
      rintro ⟨hle, -⟩
      have hle : 2000 ≤ s.resourceTimer.toNat := UInt32.le_iff_toNat_le.mp hle
      omega
  | succ fuel ih =>
      rw [earnAll]
      split
      · rename_i hmore
        have htimer : s.earn.resourceTimer = s.resourceTimer - 2000 := by
          simp only [earn, addPoints]
          split <;> rfl
        refine ih s.earn ?_
        have hle : 2000 ≤ s.resourceTimer.toNat := UInt32.le_iff_toNat_le.mp hmore.1
        rw [htimer, UInt32.toNat_sub_of_le _ _ hmore.1]
        change (s.resourceTimer.toNat - 2000) / 2000 ≤ fuel
        omega
      · rename_i hdone
        exact hdone

/-- What holds of every match. -/
structure Legal (s : Rules) : Prop where
  scores : ∀ i (h : i < 2), s.score[i] ≤ maxScore
  progress : ∀ i (h : i < nodeCount), 0 ≤ s.progress[i] ∧ s.progress[i] ≤ 100
  alliance : ∀ i (h : i < nodeCount), s.owner[i] = .alliance → 70 ≤ s.progress[i]
  horde : ∀ i (h : i < nodeCount), s.owner[i] = .horde → s.progress[i] ≤ 30
  carrier : s.carrier ≠ 0 ↔ s.flag = .carried
  timer : s.flagTimer ≠ 0 → s.flag = .dropped ∨ s.flag = .respawning
  closed : s.ended = true → s.flag = .respawning

/-- The scores do not go down, and nothing that counts changes once the match has ended. -/
structure Fair (s s' : Rules) : Prop where
  scores : ∀ i (h : i < 2), s.score[i] ≤ s'.score[i]
  inert : s.ended = true → s'.ended = true ∧ s'.score = s.score ∧ s'.owner = s.owner ∧
    s'.progress = s.progress ∧ s'.flag = s.flag ∧ s'.carrier = s.carrier

theorem Fair.refl (s : Rules) : Fair s s where
  scores := fun _ _ => UInt32.le_refl _
  inert := fun h => ⟨h, rfl, rfl, rfl, rfl, rfl⟩

theorem Fair.trans {s s' s'' : Rules} (h : Fair s s') (h' : Fair s' s'') : Fair s s'' where
  scores := fun i hi => UInt32.le_trans (h.scores i hi) (h'.scores i hi)
  inert := by
    intro hended
    obtain ⟨hended', hscore, howner, hprogress, hflag, hcarrier⟩ := h.inert hended
    obtain ⟨hended'', hscore', howner', hprogress', hflag', hcarrier'⟩ := h'.inert hended'
    exact ⟨hended'', hscore'.trans hscore, howner'.trans howner, hprogress'.trans hprogress,
      hflag'.trans hflag, hcarrier'.trans hcarrier⟩

/-- A step that leaves the scores alone and does nothing after the end. -/
theorem Fair.of_score {s s' : Rules} (hscore : s'.score = s.score)
    (hended : s.ended = true → s' = s) : Fair s s' where
  scores := fun i _ => by simp only [hscore, UInt32.le_refl]
  inert := fun h => by
    rw [hended h]
    exact (Fair.refl s).inert h

section Steps

variable {s : Rules}

theorem toNat_raise {score : UInt32} (points : UInt32) (h : score ≤ maxScore) :
    (raise score points).toNat = score.toNat + min points.toNat (1600 - score.toNat) := by
  have hle : score.toNat ≤ 1600 := UInt32.le_iff_toNat_le.mp h
  have hroom : (maxScore - score).toNat = 1600 - score.toNat := UInt32.toNat_sub_of_le _ _ h
  have hmin : (min points (maxScore - score)).toNat = min points.toNat (1600 - score.toNat) := by
    have hmin : min points (maxScore - score) =
        if points ≤ maxScore - score then points else maxScore - score := rfl
    rw [hmin, ← hroom]
    split
    · rename_i hfew
      exact (Nat.min_eq_left (UInt32.le_iff_toNat_le.mp hfew)).symm
    · rename_i hmany
      rw [UInt32.le_iff_toNat_le] at hmany
      exact (Nat.min_eq_right (Nat.le_of_not_le hmany)).symm
  rw [raise, UInt32.toNat_add, hmin]
  omega

theorem le_raise {score : UInt32} (points : UInt32) (h : score ≤ maxScore) :
    score ≤ raise score points := by
  rw [UInt32.le_iff_toNat_le, toNat_raise points h]
  exact Nat.le_add_right _ _

theorem raise_le {score : UInt32} (points : UInt32) (h : score ≤ maxScore) :
    raise score points ≤ maxScore := by
  have hle : score.toNat ≤ 1600 := UInt32.le_iff_toNat_le.mp h
  rw [UInt32.le_iff_toNat_le, toNat_raise points h]
  change _ ≤ 1600
  omega

theorem addPoints_cases (s : Rules) (team : Team) (points : UInt32) :
    s.addPoints team points = s ∨ s.ended = false ∧ ∃ i, ∃ h : i < 2,
      s.addPoints team points = { s with score := s.score.set i (raise s.score[i] points) } := by
  cases hended : s.ended with
  | true => exact Or.inl (by simp only [addPoints, hended, if_true])
  | false =>
      cases team with
      | neutral => exact Or.inl (by simp [addPoints])
      | alliance => exact Or.inr ⟨rfl, 0, by decide, by simp [addPoints, hended]⟩
      | horde => exact Or.inr ⟨rfl, 1, by decide, by simp [addPoints, hended]⟩

theorem Legal.addPoints (h : s.Legal) (team : Team) (points : UInt32) :
    (s.addPoints team points).Legal := by
  rcases addPoints_cases s team points with hsame | ⟨-, i, hi, hraise⟩
  · rw [hsame]
    exact h
  · rw [hraise]
    refine ⟨fun k hk => ?_, h.progress, h.alliance, h.horde, h.carrier, h.timer, h.closed⟩
    simp only [Vector.getElem_set]
    split
    · exact raise_le points (h.scores i hi)
    · exact h.scores k hk

theorem Fair.addPoints (h : s.Legal) (team : Team) (points : UInt32) :
    Fair s (s.addPoints team points) := by
  rcases addPoints_cases s team points with hsame | ⟨hended, i, hi, hraise⟩
  · rw [hsame]
    exact Fair.refl s
  · rw [hraise]
    refine ⟨fun k hk => ?_, fun htrue => ?_⟩
    · simp only [Vector.getElem_set]
      split
      · rename_i heq
        subst heq
        exact le_raise points (h.scores i hi)
      · exact UInt32.le_refl _
    · rw [hended] at htrue
      cases htrue

/-- What a node's progress says about its owner. -/
def Held (progress : Int) (owner : Team) : Prop :=
  (owner = .alliance → 70 ≤ progress) ∧ (owner = .horde → progress ≤ 30)

theorem held_ownerAfter (progress : Int) (owner : Team) :
    Held progress (ownerAfter progress owner) := by
  simp only [ownerAfter, Held]
  split
  · rename_i hfull
    exact ⟨fun _ => by omega, by simp⟩
  · split
    · rename_i hempty
      exact ⟨by simp, fun _ => by omega⟩
    · split
      · exact ⟨by simp, by simp⟩
      · rename_i hkept
        refine ⟨fun halliance => ?_, fun hhorde => ?_⟩
        · exact Int.not_lt.mp fun hlt => hkept (Or.inl ⟨halliance, hlt⟩)
        · exact Int.not_lt.mp fun hlt => hkept (Or.inr ⟨hhorde, hlt⟩)

theorem Legal.held (h : s.Legal) (i : Nat) (hi : i < nodeCount) :
    Held s.progress[i] s.owner[i] :=
  ⟨h.alliance i hi, h.horde i hi⟩

theorem Legal.capture (h : s.Legal) (node allies horde : UInt32) :
    (s.capture node allies horde).Legal := by
  simp only [Rules.capture]
  split
  · exact h
  · rename_i hopen
    generalize clamp _ _ _ = delta
    generalize hprogress : max 0 (min 100 (s.progress[node.toNat] + 2 * delta)) = progress
    have hrange : 0 ≤ progress ∧ progress ≤ 100 := by omega
    have hheld : ∀ i (hi : i < nodeCount),
        Held (s.progress.set node.toNat progress)[i]
          (s.owner.set node.toNat (ownerAfter progress s.owner[node.toNat]))[i] := by
      intro i hi
      simp only [Vector.getElem_set]
      split
      · exact held_ownerAfter _ _
      · exact h.held i hi
    refine ⟨h.scores, fun i hi => ?_, fun i hi => (hheld i hi).1, fun i hi => (hheld i hi).2,
      h.carrier, h.timer, h.closed⟩
    simp only [Vector.getElem_set]
    split
    · exact hrange
    · exact h.progress i hi

theorem Fair.capture (s : Rules) (node allies horde : UInt32) :
    Fair s (s.capture node allies horde) := by
  refine Fair.of_score ?_ fun hended => ?_
  · simp only [Rules.capture]
    split <;> rfl
  · simp only [Rules.capture, hended, true_or, dif_pos]

theorem Legal.earnAll (fuel : Nat) (h : s.Legal) :
    (earnAll fuel s).Legal ∧ Fair s (earnAll fuel s) := by
  induction fuel generalizing s with
  | zero => exact ⟨h, Fair.refl s⟩
  | succ fuel ih =>
      rw [Rules.earnAll]
      split
      · have htimer : { s with resourceTimer := s.resourceTimer - 2000 }.Legal :=
          ⟨h.scores, h.progress, h.alliance, h.horde, h.carrier, h.timer, h.closed⟩
        have hfirst := htimer.addPoints .alliance (resourcePoints.getD (s.bases .alliance) 0)
        have hearn : s.earn.Legal := hfirst.addPoints .horde _
        have hfair : Fair s s.earn := by
          have hsame : Fair s { s with resourceTimer := s.resourceTimer - 2000 } :=
            ⟨fun _ _ => UInt32.le_refl _, fun hended => ⟨hended, rfl, rfl, rfl, rfl, rfl⟩⟩
          have halliance := Fair.addPoints htimer .alliance
            (resourcePoints.getD (s.bases .alliance) 0)
          exact (hsame.trans halliance).trans (Fair.addPoints hfirst .horde _)
        exact ⟨(ih hearn).1, hfair.trans (ih hearn).2⟩
      · exact ⟨h, Fair.refl s⟩

theorem Legal.tickFlag (h : s.Legal) (milliseconds : UInt32) (hopen : s.ended = false) :
    (s.tickFlag milliseconds).Legal := by
  simp only [Rules.tickFlag]
  split
  · rename_i hflag
    have hfree : s.carrier = 0 := by
      refine Decidable.byContradiction fun hcarrier => ?_
      have hcarried := h.carrier.mp hcarrier
      rcases hflag with hflag | hflag <;> rw [hcarried] at hflag <;> cases hflag
    split
    · refine ⟨h.scores, h.progress, h.alliance, h.horde, ?_, by simp, ?_⟩
      · simp [hfree]
      · intro hended
        change s.ended = true at hended
        rw [hopen] at hended
        cases hended
    · exact ⟨h.scores, h.progress, h.alliance, h.horde, h.carrier, fun _ => hflag, h.closed⟩
  · exact h

theorem tickFlag_frame (s : Rules) (milliseconds : UInt32) :
    (s.tickFlag milliseconds).score = s.score ∧ (s.tickFlag milliseconds).ended = s.ended := by
  simp only [Rules.tickFlag]
  split
  · split <;> exact ⟨rfl, rfl⟩
  · exact ⟨rfl, rfl⟩

theorem Legal.tick (h : s.Legal) (milliseconds : UInt32) :
    (s.tick milliseconds).Legal ∧ Fair s (s.tick milliseconds) := by
  cases hended : s.ended with
  | true =>
      simp only [Rules.tick, hended, if_true]
      exact ⟨h, Fair.refl s⟩
  | false =>
      simp only [Rules.tick, hended, Bool.false_eq_true, if_false]
      obtain ⟨hscore, hopen⟩ := tickFlag_frame s milliseconds
      have hflag := h.tickFlag milliseconds hended
      generalize s.tickFlag milliseconds = s₁ at hscore hopen hflag ⊢
      have htimed : { s₁ with resourceTimer := s₁.resourceTimer + milliseconds }.Legal :=
        ⟨hflag.scores, hflag.progress, hflag.alliance, hflag.horde, hflag.carrier, hflag.timer,
          hflag.closed⟩
      obtain ⟨hlegal, hfair⟩ := htimed.earnAll
        ({ s₁ with resourceTimer := s₁.resourceTimer + milliseconds }.resourceTimer.toNat / 2000)
      have hstart : Fair s { s₁ with resourceTimer := s₁.resourceTimer + milliseconds } := by
        refine Fair.of_score hscore fun htrue => ?_
        rw [hended] at htrue
        cases htrue
      exact ⟨hlegal, hstart.trans hfair⟩

theorem Legal.pickUp (h : s.Legal) (guid : UInt64) :
    (s.pickUp guid).2.Legal ∧ Fair s (s.pickUp guid).2 := by
  simp only [Rules.pickUp]
  split
  · exact ⟨h, Fair.refl s⟩
  · rename_i hopen
    simp only [not_or] at hopen
    refine ⟨⟨h.scores, h.progress, h.alliance, h.horde, ?_, by simp, ?_⟩, Fair.of_score rfl ?_⟩
    · simp [hopen.2.1]
    · exact fun hended => absurd hended hopen.1
    · exact fun hended => absurd hended hopen.1

theorem Legal.not_carried (h : s.Legal) (hended : s.ended = true) : s.flag ≠ .carried := by
  rw [h.closed hended]
  simp

theorem Legal.drop (h : s.Legal) (guid : UInt64) :
    (s.drop guid).2.Legal ∧ Fair s (s.drop guid).2 := by
  simp only [Rules.drop]
  split
  · exact ⟨h, Fair.refl s⟩
  · rename_i hcarried
    simp only [not_or, Decidable.not_not] at hcarried
    have hopen : ¬s.ended = true := fun hended => h.not_carried hended hcarried.1
    refine ⟨⟨h.scores, h.progress, h.alliance, h.horde, by simp, by simp, ?_⟩, Fair.of_score rfl ?_⟩
    · exact fun hended => absurd hended hopen
    · exact fun hended => absurd hended hopen

theorem Legal.deliver (h : s.Legal) (guid : UInt64) (team : Team) (node : UInt32) :
    (s.deliver guid team node).2.Legal ∧ Fair s (s.deliver guid team node).2 := by
  simp only [Rules.deliver]
  split
  · exact ⟨h, Fair.refl s⟩
  · rename_i hopen
    simp only [not_or] at hopen
    have hscored := h.addPoints team (deliveryPoints.getD (s.bases team) 0)
    have hfair := Fair.addPoints h team (deliveryPoints.getD (s.bases team) 0)
    refine ⟨⟨hscored.scores, hscored.progress, hscored.alliance, hscored.horde, by simp, by simp,
      fun _ => rfl⟩, hfair.scores, fun hended => absurd hended hopen.1⟩

theorem Legal.finish (h : s.Legal) : s.finish.Legal ∧ Fair s s.finish := by
  refine ⟨⟨h.scores, h.progress, h.alliance, h.horde, by simp [Rules.finish],
    by simp [Rules.finish], fun _ => rfl⟩, fun _ _ => UInt32.le_refl _, fun hended => ?_⟩
  have hflag := h.closed hended
  have hcarrier : s.carrier = 0 := by
    refine Decidable.byContradiction fun hcarrier => ?_
    exact h.not_carried hended (h.carrier.mp hcarrier)
  exact ⟨rfl, rfl, rfl, rfl, hflag.symm, hcarrier.symm⟩

theorem Legal.step (h : s.Legal) (e : MatchEvent) : (s.step e).Legal ∧ Fair s (s.step e) := by
  cases e with
  | configureCapture advantage =>
      exact ⟨⟨h.scores, h.progress, h.alliance, h.horde, h.carrier, h.timer, h.closed⟩,
        fun _ _ => UInt32.le_refl _, fun hended => ⟨hended, rfl, rfl, rfl, rfl, rfl⟩⟩
  | capture node allies horde =>
      exact ⟨h.capture node allies horde, Fair.capture s node allies horde⟩
  | addPoints team points => exact ⟨h.addPoints team points, Fair.addPoints h team points⟩
  | tick milliseconds => exact h.tick milliseconds
  | pickUp guid => exact h.pickUp guid
  | drop guid => exact h.drop guid
  | deliver guid team node => exact h.deliver guid team node
  | finish => exact h.finish

theorem Legal.start : ({} : Rules).Legal := by
  refine ⟨fun i hi => ?_, fun i hi => ?_, fun i hi => ?_, fun i hi => ?_, by simp, by simp, by simp⟩
  · simp [maxScore]
  · simp
  · simp
  · simp

/-- The last event of `before` may be the end of the match. -/
theorem fair_run (h : s.Legal) (events : List MatchEvent) : Fair s (s.run events) := by
  induction events generalizing s with
  | nil => exact Fair.refl s
  | cons e events ih => exact (h.step e).2.trans (ih (h.step e).1)

end Steps

/-- Every match is legal, its scores never go down, and it is inert once Finish was called. -/
theorem rules_kept (events : List MatchEvent) :
    (run {} events).Legal ∧
      (∀ before after, events = before ++ after → Fair (run {} before) (run {} events)) ∧
      ∀ before, (run {} (before ++ [.finish])).ended = true := by
  have hlegal : ∀ es, (run {} es).Legal := fun es =>
    Lib.run_always (fun s e h => (h.step e).1) Legal.start es
  refine ⟨hlegal events, fun before after heq => ?_, fun before => ?_⟩
  · subst heq
    have hfair := fair_run (hlegal before) after
    simpa only [run, Lib.run_append] using hfair
  · simp only [run, Lib.run_append, Lib.run_cons, Lib.run_nil, step, finish]

end Rules

end TortoiseWow.ThornGorge
