import TortoiseWow.Battleground.Selection

/-!
Filling a running battleground: the balancing loop ends, since every round kicks a
group or looks at a further one, and leaves balanced pools or an empty one.
-/

namespace TortoiseWow.Battleground.State

theorem PoolsOnly.size {s s' : State} (only : PoolsOnly s s') : s'.size = s.size := by
  obtain ⟨pools, observed, ended, rfl⟩ := only
  rfl

theorem PoolsOnly.isInvited {s s' : State} (only : PoolsOnly s s') :
    s'.isInvited = s.isInvited := by
  obtain ⟨pools, observed, ended, rfl⟩ := only
  rfl

/-- One side while the battleground is filled: the groups of the pool, then those not
yet looked at, stand in the queue in this order; those of the pool are uninvited,
counted and fit. -/
structure Side (s : State) (team : Team) (queue list : List Ptr) (free : Int) : Prop where
  sublist : ((s.selectionPools team).selectedGroups ++ list).Sublist queue
  uninvited : ∀ ptr ∈ (s.selectionPools team).selectedGroups, s.isInvited ptr = false
  count : s.playerCount team = ((s.selectionPools team).selectedGroups.map s.size).sum
  fits : s.playerCount team ≤ free

section Sides

variable {find : Guid → Option PlayerState} {s s' : State} {team : Team}
  {queue list rest : List Ptr}
  {free : Int} {maxPlayers : Nat}

theorem Side.congr (side : s.Side team queue list free) (only : PoolsOnly s s')
    (same : s'.selectionPools team = s.selectionPools team) : s'.Side team queue list free where
  sublist := by simpa only [same] using side.sublist
  uninvited := by simpa only [same, only.isInvited] using side.uninvited
  count := by simpa only [playerCount, same, only.size] using side.count
  fits := by simpa only [playerCount, same] using side.fits

/-- A group that is looked at and not taken. -/
theorem Side.tail {ptr : Ptr} (side : s.Side team queue (ptr :: list) free) :
    s.Side team queue list free where
  sublist := by
    apply List.Sublist.trans _ side.sublist
    exact (List.sublist_cons_self ptr list).append_left _
  uninvited := side.uninvited
  count := side.count
  fits := side.fits

theorem Side.withGroup {ptr : Ptr} {bgInstanceId : Nat}
    (side : s.Side team queue (ptr :: list) free)
    (chosen : s.selectable find ptr bgInstanceId = true)
    (room : ((s.playerCount team + s.size ptr : Nat) : Int) ≤ free) :
    (s.withGroup team ptr).Side team queue list free where
  sublist := by
    simpa [State.withGroup, setPool] using side.sublist
  uninvited := by
    intro ptr' taken
    cases mem_withGroup.mp taken with
    | inl before => exact side.uninvited ptr' before
    | inr new =>
        obtain ⟨ginfo, entry, uninvited⟩ := selectable_uninvited chosen
        rw [new]
        show s.isInvited ptr = false
        simp [State.isInvited, entry, uninvited]
  count := by
    have counted := side.count
    simp only [playerCount, State.withGroup, setPool, Function.update_self, List.map_append,
      List.map_cons, List.map_nil, List.sum_append, List.sum_cons, List.sum_nil] at counted ⊢
    rw [counted]
    rfl
  fits := by
    simpa [playerCount, State.withGroup, setPool] using room

theorem Side.offers (offers : Offers find team maxPlayers s list s' rest)
    (room : (maxPlayers : Int) ≤ free) (side : s.Side team queue list free) :
    s'.Side team queue rest free := by
  induction offers with
  | done => exact side
  | skip _ ih => exact ih side.tail
  | take chosen fits _ ih => exact ih (side.withGroup chosen (by omega))

theorem Offers.lengths (offers : Offers find team maxPlayers s list s' rest) :
    (s'.selectionPools team).selectedGroups.length + rest.length ≤
        (s.selectionPools team).selectedGroups.length + list.length ∧
      rest.length ≤ list.length := by
  induction offers with
  | done => exact ⟨Nat.le_refl _, Nat.le_refl _⟩
  | skip _ ih =>
      simp only [List.length_cons]
      omega
  | take _ _ _ ih =>
      simp only [State.withGroup, setPool, Function.update_self, List.length_append,
        List.length_cons, List.length_nil] at ih ⊢
      omega

theorem Offers.progress (offers : Offers find team maxPlayers s list s' rest) :
    s'.playerCount team = s.playerCount team ∨ rest.length < list.length := by
  cases offers with
  | done => exact .inl rfl
  | skip later =>
      have bound := later.lengths.2
      exact .inr (by simp only [List.length_cons]; omega)
  | take _ _ later =>
      have bound := later.lengths.2
      exact .inr (by simp only [List.length_cons]; omega)

theorem refill_offers (find : Guid → Option PlayerState) (team : Team)
    (desiredCount bgInstanceId : Nat) (again : Bool) (s : State) (list : List Ptr) :
    Offers find team desiredCount s list
      (refill find team desiredCount bgInstanceId again s list).1
      (refill find team desiredCount bgInstanceId again s list).2 := by
  cases again with
  | true => exact Offers.fillFrom ..
  | false => exact Offers.done ..

/-- The position is the one held so far or one in the rest of the pool. -/
theorem groupToKick_range (s : State) (size : Nat) (list : List Ptr) (i : Nat) (found : Bool)
    (best bestSize : Nat) :
    s.groupToKick size list i found best bestSize = best ∨
      i ≤ s.groupToKick size list i found best bestSize ∧
        s.groupToKick size list i found best bestSize < i + list.length := by
  induction list generalizing i found best bestSize with
  | nil => exact .inl rfl
  | cons ptr rest ih =>
      simp only [groupToKick, List.length_cons]
      split
      · have range := ih (i + 1) true i (s.size ptr)
        omega
      · split
        · have range := ih (i + 1) found i (s.size ptr)
          omega
        · have range := ih (i + 1) found best bestSize
          omega

theorem poolKickGroup_of_ne {team' : Team} (other : team' ≠ team) (size : Nat) :
    (s.poolKickGroup team size).2.selectionPools team' = s.selectionPools team' := by
  cases s.poolKickGroup_pools team size with
  | inl same => rw [same]
  | inr kicked =>
      obtain ⟨i, ptr, found, result⟩ := kicked
      rw [result]
      exact Function.update_of_ne other _ _

theorem poolKickGroup_length (side : s.Side team queue list free) (size : Nat)
    (players : 0 < s.playerCount team) :
    ((s.poolKickGroup team size).2.selectionPools team).selectedGroups.length + 1 =
      (s.selectionPools team).selectedGroups.length := by
  have groups : 0 < (s.selectionPools team).selectedGroups.length := by
    apply List.length_pos_of_ne_nil
    intro none
    have counted := side.count
    rw [none] at counted
    exact absurd players (by simp [counted])
  simp only [poolKickGroup]
  split
  case isTrue zero => exact absurd players (by simp [playerCount, zero])
  case isFalse =>
      have range := groupToKick_range s size (s.selectionPools team).selectedGroups 0 false 0
        (((s.selectionPools team).selectedGroups.head?.map s.size).getD 0)
      split
      case h_1 ptr found =>
          have within := (List.getElem?_eq_some_iff.mp found).1
          simp only [setPool, Function.update_self, List.length_eraseIdx_of_lt within]
          omega
      case h_2 missing =>
          have beyond := List.getElem?_eq_none_iff.mp missing
          omega

theorem poolKickGroup_length_le (s : State) (team team' : Team) (size : Nat) :
    ((s.poolKickGroup team size).2.selectionPools team').selectedGroups.length ≤
      (s.selectionPools team').selectedGroups.length := by
  cases s.poolKickGroup_pools team size with
  | inl same => rw [same]
  | inr kicked =>
      obtain ⟨i, ptr, found, result⟩ := kicked
      rw [result]
      by_cases same : team' = team
      · subst same
        simp only [setPool, Function.update_self]
        exact List.length_eraseIdx_le ..
      · simp only [setPool, Function.update_of_ne same]
        exact Nat.le_refl _

theorem Side.poolKickGroup {team' : Team} (side : s.Side team' queue list free) (team : Team)
    (size : Nat) : (s.poolKickGroup team size).2.Side team' queue list free := by
  by_cases same : team' = team
  · subst same
    cases s.poolKickGroup_pools team' size with
    | inl same =>
        rw [same]
        exact side
    | inr kicked =>
        obtain ⟨i, ptr, found, result⟩ := kicked
        obtain ⟨within, atIndex⟩ := List.getElem?_eq_some_iff.mp found
        have total := ((List.getElem_cons_eraseIdx_perm within).map s.size).sum_eq
        rw [List.map_cons, List.sum_cons, atIndex, ← side.count] at total
        rw [result]
        refine ⟨?_, ?_, ?_, ?_⟩
        · simp only [setPool, Function.update_self]
          exact ((List.eraseIdx_sublist _ _).append_right list).trans side.sublist
        · simp only [setPool, Function.update_self]
          exact fun ptr' kept => side.uninvited ptr' (List.mem_of_mem_eraseIdx kept)
        · simp only [playerCount, setPool, Function.update_self] at total ⊢
          exact Nat.sub_eq_of_eq_add (by rw [Nat.add_comm]; exact total.symm)
        · have fits := side.fits
          simp only [playerCount, setPool, Function.update_self] at fits ⊢
          omega
  · exact side.congr (PoolsOnly.poolKickGroup s team size) (poolKickGroup_of_ne same size)

end Sides

def Sides (s : State) (queue : Team → List Ptr) (filling : Filling) : Prop :=
  ∀ team, s.Side team (queue team) (filling.rest team) (filling.free team)

/-- What a round uses up: a group in a pool, and more so one not yet looked at. -/
def work (s : State) (filling : Filling) (team : Team) : Nat :=
  (s.selectionPools team).selectedGroups.length + 2 * (filling.rest team).length

section Rounds

variable (find : Guid → Option PlayerState) {s : State} {queue : Team → List Ptr}
  {filling : Filling}

theorem Sides.diff_nonneg (sides : s.Sides queue filling) (team : Team) :
    0 ≤ filling.diff s team :=
  Int.sub_nonneg_of_le (sides team).fits

theorem Sides.room_le (sides : s.Sides queue filling) (team : Team) :
    ((filling.room (filling.diff s team.other) team : Nat) : Int) ≤ filling.free team := by
  have free : 0 ≤ filling.free team := Int.le_trans (Int.natCast_nonneg _) (sides team).fits
  have diff := sides.diff_nonneg team.other
  simp only [Filling.room]
  split <;> omega

theorem Sides.poolKickGroup (sides : s.Sides queue filling) (team : Team) (size : Nat) :
    (s.poolKickGroup team size).2.Sides queue filling :=
  fun team' => (sides team').poolKickGroup team size

theorem Sides.refill (sides : s.Sides queue filling) (team : Team) {desiredCount : Nat}
    (room : (desiredCount : Int) ≤ filling.free team) (again : Bool) :
    let refilled := State.refill find team desiredCount filling.bgInstanceId again s
      (filling.rest team)
    refilled.1.Sides queue
      { filling with rest := Function.update filling.rest team refilled.2 } := by
  intro refilled team'
  have offers := refill_offers find team desiredCount filling.bgInstanceId again s
    (filling.rest team)
  by_cases same : team' = team
  · subst same
    simpa only [Function.update_self] using (sides team').offers offers room
  · simpa only [Function.update_of_ne same] using
      (sides team').congr offers.poolsOnly (offers.of_ne same)

/-- The first half of a round: a group of the team is kicked and others are added. -/
def kickAndRefill (find : Guid → Option PlayerState) (s : State) (filling : Filling) (team : Team) :
    State × Filling :=
  let kicked := s.poolKickGroup team (filling.diff s team.other - filling.diff s team).toNat
  let refilled := State.refill find team (filling.room (filling.diff s team.other) team)
    filling.bgInstanceId kicked.1 kicked.2 (filling.rest team)
  (refilled.1, { filling with rest := Function.update filling.rest team refilled.2 })

theorem kickRound_eq (s : State) (filling : Filling) (team : Team) :
    s.kickRound find filling team =
      let half := s.kickAndRefill find filling team
      if half.1.playerCount team = 0 then
        if filling.free team ≤ filling.diff s team.other + 1 then (false, half)
        else (true, (half.1.poolKickGroup team.other
          (filling.diff s team.other - filling.diff s team).toNat).2, half.2)
      else (true, half) := rfl

theorem Sides.kickAndRefill (sides : s.Sides queue filling) (team : Team) :
    (s.kickAndRefill find filling team).1.Sides queue (s.kickAndRefill find filling team).2 := by
  have kicked := sides.poolKickGroup team (filling.diff s team.other - filling.diff s team).toNat
  exact Sides.refill find kicked team (sides.room_le team) _

theorem kickAndRefill_other (s : State) (filling : Filling) (team : Team) :
    (s.kickAndRefill find filling team).1.selectionPools team.other =
      s.selectionPools team.other := by
  have other := Team.other_ne team
  exact ((refill_offers ..).of_ne other).trans (poolKickGroup_of_ne other _)

theorem kickAndRefill_work_other (s : State) (filling : Filling) (team : Team) :
    work (s.kickAndRefill find filling team).1 (s.kickAndRefill find filling team).2 team.other =
      work s filling team.other := by
  have other := Team.other_ne team
  simp only [work, kickAndRefill_other]
  simp only [State.kickAndRefill, Function.update_of_ne other]

theorem kickAndRefill_offers (s : State) (filling : Filling) (team : Team) :
    Offers find team (filling.room (filling.diff s team.other) team)
      (s.poolKickGroup team (filling.diff s team.other - filling.diff s team).toNat).2
      (filling.rest team) (s.kickAndRefill find filling team).1
      ((s.kickAndRefill find filling team).2.rest team) := by
  have rest : (s.kickAndRefill find filling team).2.rest team = (State.refill find team
      (filling.room (filling.diff s team.other) team) filling.bgInstanceId
      (s.poolKickGroup team (filling.diff s team.other - filling.diff s team).toNat).1
      (s.poolKickGroup team (filling.diff s team.other - filling.diff s team).toNat).2
      (filling.rest team)).2 := Function.update_self ..
  rw [rest]
  exact refill_offers ..

theorem kickAndRefill_work_le (s : State) (filling : Filling) (team : Team) :
    work (s.kickAndRefill find filling team).1 (s.kickAndRefill find filling team).2 team ≤
      work s filling team := by
  have lengths := (kickAndRefill_offers find s filling team).lengths
  have shrinks := poolKickGroup_length_le s team team
    (filling.diff s team.other - filling.diff s team).toNat
  simp only [work]
  omega

theorem Sides.kickAndRefill_work_lt (sides : s.Sides queue filling) (team : Team)
    (players : 0 < s.playerCount team ∨
      0 < (s.kickAndRefill find filling team).1.playerCount team) :
    work (s.kickAndRefill find filling team).1 (s.kickAndRefill find filling team).2 team <
      work s filling team := by
  have offers := kickAndRefill_offers find s filling team
  have lengths := offers.lengths
  simp only [work]
  by_cases before : 0 < s.playerCount team
  · have kicked := poolKickGroup_length (sides team)
      (filling.diff s team.other - filling.diff s team).toNat before
    omega
  · have zero : (s.selectionPools team).playerCount = 0 := Nat.eq_zero_of_not_pos before
    have unchanged : (s.poolKickGroup team
        (filling.diff s team.other - filling.diff s team).toNat).2 = s := by
      simp only [State.poolKickGroup, zero, if_true]
    rw [unchanged] at offers lengths
    have further : ((s.kickAndRefill find filling team).2.rest team).length <
        (filling.rest team).length := by
      apply offers.progress.resolve_left
      intro same
      exact before (same ▸ players.resolve_left before)
    omega

theorem Sides.kickRound (sides : s.Sides queue filling) (team : Team) :
    (s.kickRound find filling team).2.1.Sides queue (s.kickRound find filling team).2.2 := by
  have half := sides.kickAndRefill find team
  rw [kickRound_eq]
  simp only
  split
  · split
    · exact half
    · exact Sides.poolKickGroup half _ _
  · exact half

theorem kickRound_free (s : State) (filling : Filling) (team : Team) :
    (s.kickRound find filling team).2.2.free = filling.free := by
  rw [kickRound_eq]
  simp only
  split
  · split <;> rfl
  · rfl

/-- A round that does not end the loop uses something up. -/
theorem Sides.kickRound_work (sides : s.Sides queue filling) (team : Team)
    (players : 0 < s.playerCount team ∨ 0 < s.playerCount team.other)
    (again : (s.kickRound find filling team).1 = true) :
    work (s.kickRound find filling team).2.1 (s.kickRound find filling team).2.2 team +
        work (s.kickRound find filling team).2.1 (s.kickRound find filling team).2.2 team.other <
      work s filling team + work s filling team.other := by
  have own := kickAndRefill_work_le find s filling team
  have other := kickAndRefill_work_other find s filling team
  have ownLess := sides.kickAndRefill_work_lt find team
  have half := sides.kickAndRefill find team
  rw [kickRound_eq] at again ⊢
  simp only at again ⊢
  split
  case isFalse some =>
      have less := ownLess (.inr (Nat.pos_of_ne_zero some))
      dsimp only
      omega
  case isTrue none =>
      simp only [none, if_true] at again
      split at again
      case isTrue => cases again
      case isFalse more =>
          rw [if_neg more]
          dsimp only
          have ownSecond := poolKickGroup_of_ne (s := (s.kickAndRefill find filling team).1)
            (Team.other_ne team).symm (filling.diff s team.other - filling.diff s team).toNat
          have otherSecond :=
            poolKickGroup_length_le (s.kickAndRefill find filling team).1 team.other
            team.other (filling.diff s team.other - filling.diff s team).toNat
          by_cases before : 0 < s.playerCount team
          · have less := ownLess (.inl before)
            simp only [work, ownSecond] at own other less ⊢
            omega
          · have otherBefore := players.resolve_left before
            have kicked := poolKickGroup_length (half team.other)
              (filling.diff s team.other - filling.diff s team).toNat
              (by simpa only [playerCount, kickAndRefill_other] using otherBefore)
            simp only [work, ownSecond] at own other ⊢
            omega

end Rounds

/-- The guard of the loop. -/
def Unbalanced (s : State) (filling : Filling) (differential : Int) : Prop :=
  differential < |filling.diff s .alliance - filling.diff s .horde| ∧
    (0 < s.playerCount .horde ∨ 0 < s.playerCount .alliance)

/-- The team with less room, which a round is for. -/
def tighterTeam (s : State) (filling : Filling) : Team :=
  if filling.diff s .alliance < filling.diff s .horde then .alliance else .horde

/-- The loop itself, with the number of its rounds. -/
inductive Balances (find : Guid → Option PlayerState) (differential : Int) :
    Nat → State → Filling → State → Prop
  | done {s : State} {filling : Filling} :
      ¬ s.Unbalanced filling differential → Balances find differential 0 s filling s
  | leave {s s' : State} {filling filling' : Filling} :
      s.Unbalanced filling differential →
      s.kickRound find filling (s.tighterTeam filling) = (false, s', filling') →
      Balances find differential 1 s filling s'
  | round {n : Nat} {s s' s'' : State} {filling filling' : Filling} :
      s.Unbalanced filling differential →
      s.kickRound find filling (s.tighterTeam filling) = (true, s', filling') →
      Balances find differential n s' filling' s'' →
      Balances find differential (n + 1) s filling s''

section Loop

variable {find : Guid → Option PlayerState} {differential : Int} {s s' : State}
  {queue : Team → List Ptr} {filling : Filling}

theorem work_both (s : State) (filling : Filling) (team : Team) :
    work s filling team + work s filling team.other =
      work s filling .alliance + work s filling .horde := by
  cases team with
  | alliance => rfl
  | horde => exact Nat.add_comm _ _

theorem Sides.balances (find : Guid → Option PlayerState) (differential : Int)
    (sides : s.Sides queue filling) {fuel : Nat}
    (enough : work s filling .alliance + work s filling .horde < fuel) :
    ∃ n ≤ fuel, Balances find differential n s filling
      (s.balance find differential fuel filling) := by
  induction fuel generalizing s filling with
  | zero => exact absurd enough (Nat.not_lt_zero _)
  | succ fuel ih =>
      simp only [State.balance]
      split
      case isFalse settled => exact ⟨0, Nat.zero_le _, .done settled⟩
      case isTrue unbalanced =>
          have after := sides.kickRound find (s.tighterTeam filling)
          have less := sides.kickRound_work find (s.tighterTeam filling)
          have players : 0 < s.playerCount (s.tighterTeam filling) ∨
              0 < s.playerCount (s.tighterTeam filling).other := by
            generalize s.tighterTeam filling = team
            cases team with
            | alliance => exact unbalanced.2.symm
            | horde => exact unbalanced.2
          rw [work_both, work_both] at less
          rw [← State.tighterTeam]
          cases ended : s.kickRound find filling (s.tighterTeam filling) with
          | mk again round =>
              rw [ended] at after less
              cases again with
              | false => exact ⟨1, by omega, .leave unbalanced ended⟩
              | true =>
                  have smaller := less players rfl
                  obtain ⟨n, bound, rounds⟩ := ih after (by omega)
                  exact ⟨n + 1, by omega, .round unbalanced ended rounds⟩

theorem tighter_le (s : State) (filling : Filling) :
    filling.diff s (s.tighterTeam filling) ≤ filling.diff s (s.tighterTeam filling).other := by
  simp only [tighterTeam]
  split
  case isTrue less => exact Int.le_of_lt less
  case isFalse notLess => exact Int.not_lt.mp notLess

/-- Where the loop ends, the rooms are balanced, or a side has nobody selected and no
more room than the other, up to one. -/
theorem Balances.settled {n : Nat} (rounds : Balances find differential n s filling s')
    (sides : s.Sides queue filling) :
    ∃ rest, s'.Sides queue { filling with rest } ∧ (|filling.diff s' .alliance -
        filling.diff s' .horde| ≤ differential ∨
      ∃ team, s'.playerCount team = 0 ∧ filling.free team ≤ filling.diff s' team.other + 1) := by
  induction rounds with
  | @done s filling guard =>
      refine ⟨filling.rest, sides, ?_⟩
      by_cases wide : differential < |filling.diff s .alliance - filling.diff s .horde|
      · have nobody : ∀ team, s.playerCount team = 0 := by
          intro team
          have both := not_or.mp fun players => guard ⟨wide, players⟩
          cases team with
          | alliance => exact Nat.eq_zero_of_not_pos both.2
          | horde => exact Nat.eq_zero_of_not_pos both.1
        refine .inr ⟨s.tighterTeam filling, nobody _, ?_⟩
        have tighter := s.tighter_le filling
        have zero := nobody (s.tighterTeam filling)
        simp only [Filling.diff] at tighter ⊢
        omega
      · exact .inl (Int.not_lt.mp wide)
  | @leave s s' filling filling' guard ended =>
      have after := sides.kickRound find (s.tighterTeam filling)
      have free := kickRound_free find s filling (s.tighterTeam filling)
      rw [ended] at after free
      refine ⟨filling'.rest, fun team => ?_, .inr ⟨s.tighterTeam filling, ?_⟩⟩
      · have side := after team
        rw [free] at side
        exact side
      · have same := kickAndRefill_other find s filling (s.tighterTeam filling)
        rw [kickRound_eq] at ended
        simp only at ended
        split at ended
        case isFalse => cases ended
        case isTrue none =>
            split at ended
            case isFalse => cases ended
            case isTrue close =>
                obtain rfl : (s.kickAndRefill find filling (s.tighterTeam filling)).1 = s' :=
                  congrArg (fun round => round.2.1) ended
                refine ⟨none, ?_⟩
                simpa only [Filling.diff, playerCount, same] using close
  | @round n s s' s'' filling filling' guard next rounds ih =>
      have after := sides.kickRound find (s.tighterTeam filling)
      have free : filling'.free = filling.free := by
        have round := kickRound_free find s filling (s.tighterTeam filling)
        rwa [next] at round
      rw [next] at after
      obtain ⟨rest, sides', settled⟩ := ih after
      have diffs : ∀ (t : State) (team : Team), filling'.diff t team = filling.diff t team :=
        fun t team => congrArg (· - (t.playerCount team : Int)) (congrFun free team)
      refine ⟨rest, fun team => ?_, ?_⟩
      · have side := sides' team
        simp only at free side ⊢
        rwa [free] at side
      · simpa only [diffs, free] using settled

end Loop

/-- The two loops before the balancing one: both queues are looked at in order. -/
def offered (find : Guid → Option PlayerState) (s : State) (bg : BattleGround) (bracket : Bracket) :
    State × Filling :=
  let ali := fillFrom find .alliance (bg.getFreeSlotsForTeam .alliance) bg.clientInstanceID s
    (s.queuedGroups bracket .normal .alliance)
  let horde := fillFrom find .horde (bg.getFreeSlotsForTeam .horde) bg.clientInstanceID ali.1
    (s.queuedGroups bracket .normal .horde)
  (horde.1,
    { free := fun team => bg.getFreeSlotsForTeam team
      rest := fun
        | .alliance => ali.2
        | .horde => horde.2
      bgInstanceId := bg.clientInstanceID })

/-- How far the free slots of both sides may differ. -/
def differential (bg : BattleGround) : Int := if bg.typeID = .av then 3 else 0

theorem fillPlayersToBG_eq (config : Config) (find : Guid → Option PlayerState) (s : State)
    (bg : BattleGround) (bracket : Bracket) :
    s.fillPlayersToBG config find bg bracket =
      if bg.isArena then s
      else if config.invitationType = 0 then (offered find s bg bracket).1
      else (offered find s bg bracket).1.balance find (differential bg)
        (2 * ((s.queuedGroups bracket .normal .alliance).length +
          (s.queuedGroups bracket .normal .horde).length) + 1) (offered find s bg bracket).2 := rfl

section Filled

variable (find : Guid → Option PlayerState) {s : State} (bg : BattleGround) (bracket : Bracket)

theorem Side.start (empty : ∀ team, s.selectionPools team = {}) (team : Team)
    (queue : List Ptr) (free : Nat) : s.Side team queue queue free where
  sublist := by simp [empty]
  uninvited := by simp [empty]
  count := by simp [playerCount, empty]
  fits := by simp [playerCount, empty]

theorem offered_sides (empty : ∀ team, s.selectionPools team = {}) :
    (offered find s bg bracket).1.Sides (s.queuedGroups bracket .normal)
      (offered find s bg bracket).2 := by
  have aliOffers := Offers.fillFrom find s .alliance (bg.getFreeSlotsForTeam .alliance)
    bg.clientInstanceID (s.queuedGroups bracket .normal .alliance)
  have hordeOffers := Offers.fillFrom find (fillFrom find .alliance
      (bg.getFreeSlotsForTeam .alliance) bg.clientInstanceID s
      (s.queuedGroups bracket .normal .alliance)).1 .horde (bg.getFreeSlotsForTeam .horde)
    bg.clientInstanceID (s.queuedGroups bracket .normal .horde)
  have ali := (Side.start empty .alliance _ _).offers aliOffers (Int.le_refl _)
  have horde := ((Side.start empty .horde _ _).congr aliOffers.poolsOnly
    (aliOffers.of_ne (by decide))).offers hordeOffers (Int.le_refl _)
  intro team
  cases team with
  | alliance => exact ali.congr hordeOffers.poolsOnly (hordeOffers.of_ne (by decide))
  | horde => exact horde

theorem offered_work (empty : ∀ team, s.selectionPools team = {}) :
    work (offered find s bg bracket).1 (offered find s bg bracket).2 .alliance +
        work (offered find s bg bracket).1 (offered find s bg bracket).2 .horde <
      2 * ((s.queuedGroups bracket .normal .alliance).length +
        (s.queuedGroups bracket .normal .horde).length) + 1 := by
  have sides := offered_sides find bg bracket empty
  have ali := (sides .alliance).sublist.length_le
  have horde := (sides .horde).sublist.length_le
  simp only [List.length_append] at ali horde
  simp only [work]
  omega

end Filled

/-- What filling leaves in the pool of a team: groups of the queue in their order, none
twice, none invited, and no more players than there are free slots. -/
structure Selected (s : State) (team : Team) (queue : List Ptr) (free : Nat) : Prop where
  sublist : (s.selectionPools team).selectedGroups.Sublist queue
  nodup : (s.selectionPools team).selectedGroups.Nodup
  uninvited : ∀ ptr ∈ (s.selectionPools team).selectedGroups, s.isInvited ptr = false
  count : s.playerCount team = ((s.selectionPools team).selectedGroups.map s.size).sum
  fits : s.playerCount team ≤ free

/-- The remaining free slots differ by no more than the differential, or the pool of one
side is empty and it has no more free slots than remain on the other, plus one. -/
def Settled (s : State) (bg : BattleGround) : Prop :=
  let remaining (team : Team) : Int := bg.getFreeSlotsForTeam team - s.playerCount team
  |remaining .alliance - remaining .horde| ≤ differential bg ∨
    ∃ team, (s.selectionPools team).selectedGroups = [] ∧
      (bg.getFreeSlotsForTeam team : Int) ≤ remaining team.other + 1

theorem Side.selected {s : State} {team : Team} {queue list : List Ptr} {free : Nat}
    (side : s.Side team queue list free) (distinct : queue.Nodup) :
    s.Selected team queue free where
  sublist := (List.sublist_append_left _ _).trans side.sublist
  nodup := ((List.sublist_append_left _ _).trans side.sublist).nodup distinct
  uninvited := side.uninvited
  count := side.count
  fits := Int.ofNat_le.mp side.fits

theorem Selected.empty {s : State} {team : Team} {queue : List Ptr} {free : Nat}
    (selected : s.Selected team queue free) (members : ∀ ptr ∈ queue, 0 < s.size ptr)
    (nobody : s.playerCount team = 0) : (s.selectionPools team).selectedGroups = [] := by
  apply List.eq_nil_iff_forall_not_mem.mpr
  intro ptr taken
  have sum := selected.count.symm.trans nobody
  have zero := List.sum_eq_zero_iff.mp sum (s.size ptr) (List.mem_map_of_mem taken)
  exact absurd (members ptr (selected.sublist.subset taken)) (by omega)

/-- Filling a battleground ends and balances: for any two queues of different groups
with players and any battleground, the pools hold what they may, and where the
balancing loop is reached it ends after finitely many rounds, settled. -/
theorem fillPlayersToBG_balances (config : Config) (find : Guid → Option PlayerState) {s : State}
    (bg : BattleGround) (bracket : Bracket) (empty : ∀ team, s.selectionPools team = {})
    (distinct : ∀ team, (s.queuedGroups bracket .normal team).Nodup)
    (members : ∀ team, ∀ ptr ∈ s.queuedGroups bracket .normal team, 0 < s.size ptr) :
    let s' := s.fillPlayersToBG config find bg bracket
    (∀ team, s'.Selected team (s.queuedGroups bracket .normal team) (bg.getFreeSlotsForTeam team)) ∧
      (bg.isArena = false → config.invitationType ≠ 0 →
        (∃ n, Balances find (differential bg) n (offered find s bg bracket).1
          (offered find s bg bracket).2 s') ∧ s'.Settled bg) := by
  intro s'
  have sides := offered_sides find bg bracket empty
  have start : s' = _ := fillPlayersToBG_eq config find s bg bracket
  cases arena : bg.isArena with
  | true =>
      rw [arena, if_pos rfl] at start
      rw [start]
      exact ⟨fun team => (Side.start empty team _ _).selected (distinct team),
        fun impossible => Bool.noConfusion impossible⟩
  | false =>
      rw [arena, if_neg (by decide)] at start
      by_cases plain : config.invitationType = 0
      · rw [if_pos plain] at start
        rw [start]
        exact ⟨fun team => (sides team).selected (distinct team),
          fun _ balanced => absurd plain balanced⟩
      · rw [if_neg plain] at start
        obtain ⟨n, -, rounds⟩ := Sides.balances find (differential bg) sides
          (offered_work find bg bracket empty)
        rw [← start] at rounds
        obtain ⟨rest, sides', settled⟩ := rounds.settled sides
        have selected : ∀ team, s'.Selected team (s.queuedGroups bracket .normal team)
            (bg.getFreeSlotsForTeam team) := fun team => (sides' team).selected (distinct team)
        have only : PoolsOnly s s' := PoolsOnly.fillPlayersToBG find config s bg bracket
        refine ⟨selected, fun _ _ => ⟨⟨n, rounds⟩, settled.imp_right ?_⟩⟩
        intro uneven
        obtain ⟨team, nobody, close⟩ := uneven
        refine ⟨team, (selected team).empty ?_ nobody, close⟩
        simpa only [only.size] using members team

def unevenQueue : State :=
  let request : JoinRequest :=
    { bgTypeId := .ws, bracketId := ⟨4, by decide⟩, isPremade := false, instanceId := 0, now := 0 }
  let pair : Party :=
    { members := [⟨1, .alliance⟩, ⟨2, .alliance⟩], membersCount := 2, distinct := by decide }
  (((({} : State).addGroup 40 ⟨1, .alliance⟩ (some pair) request).addSolo
    ⟨3, .alliance⟩ request).addSolo ⟨11, .horde⟩ request)

/-- Into an empty Warsong Gulch: the one alone is kicked and then the pair, and with no
more room than one beyond that of the horde the alliance stays without a group. -/
theorem unevenQueue_balances :
    let config : Config :=
      { bgTypeId := .ws, template := some ⟨5, 10, 20⟩, premadeQueueGroupMinSize := 5,
        premadeGroupWaitForMatch := 0, invitationType := 1 }
    let bg : BattleGround :=
      { instanceID := 1, clientInstanceID := 1, typeID := .ws, bracketId := 4,
        status := .inProgress,
        maxPlayersPerTeam := 10, maxPlayers := 20 }
    let find : Guid → Option PlayerState := fun _ => some {}
    let s' := unevenQueue.fillPlayersToBG config find bg 4
    s'.selectionPools .alliance = {} ∧ s'.selectionPools .horde = ⟨[2], 1⟩ ∧
      (∀ team, s'.Selected team (unevenQueue.queuedGroups 4 .normal team) 10) ∧ s'.Settled bg := by
  intro config bg find s'
  have queues : unevenQueue.queuedGroups 4 .normal = fun
      | .alliance => [0, 1]
      | .horde => [2] := by
    funext team
    cases team <;> decide +kernel
  have filling := fillPlayersToBG_balances config find bg 4 (s := unevenQueue) (fun _ => rfl)
    (fun team => by rw [queues]; cases team <;> decide)
    (fun team => by rw [queues]; cases team <;> decide +kernel)
  refine ⟨by decide +kernel, by decide +kernel, ?_, (filling.2 rfl (by decide)).2⟩
  intro team
  cases team with
  | alliance => exact filling.1 .alliance
  | horde => exact filling.1 .horde

end TortoiseWow.Battleground.State
