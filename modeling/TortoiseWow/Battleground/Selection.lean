import TortoiseWow.Battleground.Representation

/-!
The selection pools count real players: within an update no pool holds a group
twice and its count is the number of distinct players in it, as long as no check
starts on what a failed one left in the pools.
-/

namespace TortoiseWow.Battleground

def Heap.players (heap : Heap) (ptr : Ptr) : List Guid :=
  match heap.entry ptr with
  | some ginfo => ginfo.players
  | none => []

def SelectionPool.Accurate (heap : Heap) (pool : SelectionPool) : Prop :=
  pool.selectedGroups.Nodup ∧
    (pool.selectedGroups.flatMap heap.players).toFinset.card = pool.playerCount

/-- Both sides have enough players and not too many, none of them invited. -/
def Creation.Genuine (creation : Creation) : Prop :=
  ∀ team, (creation.pools team).Accurate creation.groups ∧
    creation.minPlayersPerTeam ≤ (creation.pools team).playerCount ∧
    (creation.pools team).playerCount ≤ creation.maxPlayersPerTeam ∧
    ∀ ptr ∈ (creation.pools team).selectedGroups, ∃ ginfo,
      creation.groups.entry ptr = some ginfo ∧ ginfo.isInvitedToBGInstanceGUID = 0

namespace State

theorem size_eq (s : State) (ptr : Ptr) : s.size ptr = (s.groups.players ptr).length := by
  unfold size Heap.players
  cases s.groups.entry ptr with
  | none => rfl
  | some ginfo => rfl

def Tally (s : State) (pool : SelectionPool) : Prop :=
  pool.selectedGroups.Nodup ∧ pool.playerCount = (pool.selectedGroups.map s.size).sum

theorem Linked.disjoint_players {s : State} (h : s.Linked none) {a b : Ptr} (hne : a ≠ b) :
    List.Disjoint (s.groups.players a) (s.groups.players b) := by
  intro guid ha hb
  unfold Heap.players at ha hb
  cases hentry : s.groups.entry a with
  | none => simp [hentry] at ha
  | some ginfo =>
      cases hentry' : s.groups.entry b with
      | none => simp [hentry'] at hb
      | some ginfo' =>
          simp only [hentry, hentry'] at ha hb
          obtain ⟨info, hinfo, hptr⟩ := (h.linked a ginfo hentry guid).mp ha
          obtain ⟨info', hinfo', hptr'⟩ := (h.linked b ginfo' hentry' guid).mp hb
          obtain rfl := Option.some.inj (hinfo.symm.trans hinfo')
          exact hne (hptr.symm.trans hptr')

theorem Linked.nodup_players {s : State} (h : s.Linked none) (ptr : Ptr) :
    (s.groups.players ptr).Nodup := by
  unfold Heap.players
  cases hentry : s.groups.entry ptr with
  | none => exact List.nodup_nil
  | some ginfo => exact h.distinct ptr ginfo hentry

theorem Linked.accurate {s : State} (h : s.Linked none) {pool : SelectionPool}
    (htally : s.Tally pool) : pool.Accurate s.groups := by
  refine ⟨htally.1, ?_⟩
  have hnodup : (pool.selectedGroups.flatMap s.groups.players).Nodup := by
    refine List.nodup_flatMap.mpr ⟨fun ptr _ => h.nodup_players ptr, ?_⟩
    exact htally.1.imp fun hne => h.disjoint_players hne
  rw [List.toFinset_card_of_nodup hnodup, htally.2, List.length_flatMap]
  exact congrArg List.sum (List.map_congr_left fun ptr _ => (s.size_eq ptr).symm)

theorem SameLinks.size {s s' : State} (h : SameLinks s s') (ptr : Ptr) :
    s'.size ptr = s.size ptr := by
  have hentries := h.entries ptr
  unfold State.size
  cases hentry : s.groups.entry ptr with
  | none =>
      rw [hentry] at hentries
      rw [Option.map_eq_none_iff.mp hentries]
  | some ginfo =>
      obtain ⟨old, hold, hplayers, -⟩ := h.symm.entry hentry
      rw [hold]
      exact congrArg List.length hplayers

theorem Tally.congr {s s' : State} (hsize : ∀ ptr, s'.size ptr = s.size ptr)
    {pool : SelectionPool} (h : s.Tally pool) : s'.Tally pool := by
  refine ⟨h.1, h.2.trans ?_⟩
  exact congrArg List.sum (List.map_congr_left fun ptr _ => (hsize ptr).symm)

theorem Linked.nodup_list {s : State} (h : s.Linked none) (bracket : Bracket) (kind : Kind)
    (team : Team) : (s.queuedGroups bracket kind team).Nodup := by
  refine List.nodup_iff_count_le_one.mpr ?_
  intro ptr
  by_cases hmem : ptr ∈ s.queuedGroups bracket kind team
  · obtain ⟨ginfo, hentry, hne⟩ := h.listed bracket kind team ptr hmem
    obtain ⟨kind', hcount, honly⟩ := h.placed ptr ginfo hentry hne (by simp)
    obtain ⟨rfl, rfl, rfl⟩ := honly bracket kind team hmem
    exact hcount.le
  · rw [List.count_eq_zero_of_not_mem hmem]
    exact Nat.zero_le 1

/-- Every pool seen so far, and the two in use, are tallied, and no iterator went
past the end. -/
structure Tallied (s : State) : Prop where
  observed : ∀ pool ∈ s.observed, s.Tally pool
  pools : ∀ team, s.Tally (s.selectionPools team)
  ended : s.endIncremented = false

section Pools

variable {s : State} {find : Guid → Option PlayerState}

theorem Tallied.setPool (h : s.Tallied) (team : Team) {pool : SelectionPool}
    (hpool : s.Tally pool) : (s.setPool team pool).Tallied := by
  have hsize : ∀ ptr, (s.setPool team pool).size ptr = s.size ptr := fun _ => rfl
  refine ⟨?_, ?_, h.ended⟩
  · intro pool' hpool'
    rcases List.mem_append.mp hpool' with hpool' | hpool'
    · exact (h.observed pool' hpool').congr hsize
    · obtain rfl := List.mem_singleton.mp hpool'
      exact hpool.congr hsize
  · intro team'
    by_cases hsame : team' = team
    · subst hsame
      simp only [State.setPool, Function.update_self]
      exact hpool.congr hsize
    · simp only [State.setPool, Function.update_of_ne hsame]
      exact (h.pools team').congr hsize

def Apart (s : State) (team : Team) (list : List Ptr) : Prop :=
  list.Nodup ∧ ∀ ptr ∈ list, ptr ∉ (s.selectionPools team).selectedGroups

def Unrepeated (s : State) (team : Team) (maxPlayers : Nat) (list : List Ptr) : Prop :=
  list.Nodup ∧ ∀ ptr ∈ list, ptr ∈ (s.selectionPools team).selectedGroups →
    maxPlayers < s.playerCount team + s.size ptr

def withGroup (s : State) (team : Team) (ptr : Ptr) : State :=
  s.setPool team
    { selectedGroups := (s.selectionPools team).selectedGroups ++ [ptr]
      playerCount := s.playerCount team + s.size ptr }

/-- Groups of a list are offered to a pool in order: some are taken while they are
selectable and fit, and the second list is not looked at. -/
inductive Offers (find : Guid → Option PlayerState) (team : Team) (maxPlayers : Nat) :
    State → List Ptr → State → List Ptr → Prop
  | done (s : State) (list : List Ptr) : Offers find team maxPlayers s list s list
  | skip {s s' : State} {ptr : Ptr} {rest rest' : List Ptr} :
      Offers find team maxPlayers s rest s' rest' →
      Offers find team maxPlayers s (ptr :: rest) s' rest'
  | take {s s' : State} {ptr : Ptr} {rest rest' : List Ptr} {bgInstanceId : Nat} :
      s.selectable find ptr bgInstanceId = true →
      s.playerCount team + s.size ptr ≤ maxPlayers →
      Offers find team maxPlayers (s.withGroup team ptr) rest s' rest' →
      Offers find team maxPlayers s (ptr :: rest) s' rest'

theorem Offers.poolAddGroup {team : Team} {maxPlayers desiredCount bgInstanceId : Nat} {s' : State}
    {ptr : Ptr} {rest rest' : List Ptr} (hmax : desiredCount ≤ maxPlayers)
    (h : Offers find team maxPlayers (s.poolAddGroup find team ptr desiredCount bgInstanceId).2 rest
      s' rest') : Offers find team maxPlayers s (ptr :: rest) s' rest' := by
  simp only [State.poolAddGroup] at h
  split at h
  case isTrue hadded => exact .take hadded.1 (hadded.2.trans hmax) h
  case isFalse => exact .skip h

theorem Tallied.withGroup (h : s.Tallied) {team : Team} {ptr : Ptr}
    (hnew : ptr ∉ (s.selectionPools team).selectedGroups) : (s.withGroup team ptr).Tallied := by
  refine h.setPool team ⟨?_, ?_⟩
  · refine (List.perm_append_singleton _ _).nodup_iff.mpr (List.nodup_cons.mpr ⟨hnew, ?_⟩)
    exact (h.pools team).1
  · rw [List.map_append, List.sum_append, ← (h.pools team).2]
    simp [State.playerCount]

theorem mem_withGroup {team : Team} {ptr ptr' : Ptr} :
    ptr' ∈ ((s.withGroup team ptr).selectionPools team).selectedGroups ↔
      ptr' ∈ (s.selectionPools team).selectedGroups ∨ ptr' = ptr := by
  simp [State.withGroup, State.setPool]

theorem withGroup_of_ne {team team' : Team} (hne : team' ≠ team) (ptr : Ptr) :
    (s.withGroup team ptr).selectionPools team' = s.selectionPools team' :=
  Function.update_of_ne hne _ _

theorem Apart.withGroup {team : Team} {ptr : Ptr} {rest : List Ptr}
    (h : s.Apart team (ptr :: rest)) : (s.withGroup team ptr).Apart team rest := by
  obtain ⟨hout, hrest⟩ := List.nodup_cons.mp h.1
  refine ⟨hrest, ?_⟩
  intro ptr' hptr' hmem
  rcases mem_withGroup.mp hmem with hmem | rfl
  · exact h.2 ptr' (List.mem_cons_of_mem _ hptr') hmem
  · exact hout hptr'

theorem Unrepeated.withGroup {team : Team} {maxPlayers : Nat} {ptr : Ptr} {rest : List Ptr}
    (h : s.Unrepeated team maxPlayers (ptr :: rest)) :
    (s.withGroup team ptr).Unrepeated team maxPlayers rest := by
  obtain ⟨hout, hrest⟩ := List.nodup_cons.mp h.1
  refine ⟨hrest, ?_⟩
  intro ptr' hptr' hmem
  have hcount : (s.withGroup team ptr).playerCount team = s.playerCount team + s.size ptr := by
    simp [State.playerCount, State.withGroup, State.setPool]
  have hsize : (s.withGroup team ptr).size ptr' = s.size ptr' := rfl
  rcases mem_withGroup.mp hmem with hmem | rfl
  · have hfull := h.2 ptr' (List.mem_cons_of_mem _ hptr') hmem
    omega
  · exact absurd hptr' hout

theorem Apart.tail {team : Team} {ptr : Ptr} {rest : List Ptr} (h : s.Apart team (ptr :: rest)) :
    s.Apart team rest :=
  ⟨(List.nodup_cons.mp h.1).2, fun ptr' hptr' => h.2 ptr' (List.mem_cons_of_mem _ hptr')⟩

namespace Offers

variable {team : Team} {maxPlayers : Nat} {s' : State} {list rest : List Ptr}

theorem tallied (h : Offers find team maxPlayers s list s' rest) (hs : s.Tallied)
    (hlist : s.Apart team list) : s'.Tallied ∧ s'.Apart team rest := by
  induction h with
  | done s list => exact ⟨hs, hlist⟩
  | skip _ ih => exact ih hs hlist.tail
  | take _ _ _ ih => exact ih (hs.withGroup (hlist.2 _ List.mem_cons_self)) hlist.withGroup

/-- What does not fit is not taken, and fits the less the more is taken. -/
theorem tallied_unrepeated (h : Offers find team maxPlayers s list s' rest) (hs : s.Tallied)
    (hlist : s.Unrepeated team maxPlayers list) :
    s'.Tallied ∧ s'.Unrepeated team maxPlayers rest := by
  induction h with
  | done s list => exact ⟨hs, hlist⟩
  | skip _ ih =>
      exact ih hs ⟨(List.nodup_cons.mp hlist.1).2,
        fun ptr' hptr' => hlist.2 ptr' (List.mem_cons_of_mem _ hptr')⟩
  | take _ hroom _ ih =>
      have hnew := mt (hlist.2 _ List.mem_cons_self) (Nat.not_lt.mpr hroom)
      exact ih (hs.withGroup hnew) hlist.withGroup

theorem of_ne (h : Offers find team maxPlayers s list s' rest) {team' : Team}
    (hne : team' ≠ team) : s'.selectionPools team' = s.selectionPools team' := by
  induction h with
  | done s list => rfl
  | skip _ ih => exact ih
  | take _ _ _ ih => exact ih.trans (withGroup_of_ne hne _)

theorem mem (h : Offers find team maxPlayers s list s' rest) {ptr : Ptr}
    (hptr : ptr ∈ (s'.selectionPools team).selectedGroups) :
    ptr ∈ (s.selectionPools team).selectedGroups ∨ ptr ∈ list := by
  induction h with
  | done s list => exact Or.inl hptr
  | skip _ ih => exact (ih hptr).imp_right (List.mem_cons_of_mem _)
  | take _ _ _ ih =>
      rcases ih hptr with hmem | hmem
      · rcases mem_withGroup.mp hmem with hmem | rfl
        · exact Or.inl hmem
        · exact Or.inr List.mem_cons_self
      · exact Or.inr (List.mem_cons_of_mem _ hmem)

theorem poolsOnly (h : Offers find team maxPlayers s list s' rest) : PoolsOnly s s' := by
  induction h with
  | done s list => exact PoolsOnly.refl s
  | skip _ ih => exact ih
  | take _ _ _ ih => exact (PoolsOnly.setPool ..).trans ih

theorem fillFrom (find : Guid → Option PlayerState) (s : State) (team : Team)
    (desiredCount bgInstanceId : Nat) (list : List Ptr) :
    Offers find team desiredCount s list
      (fillFrom find team desiredCount bgInstanceId s list).1
      (fillFrom find team desiredCount bgInstanceId s list).2 := by
  induction list generalizing s with
  | nil => exact .done s []
  | cons ptr rest ih =>
      have hfirst : ∀ {s' rest'}, Offers find team desiredCount
          (s.poolAddGroup find team ptr desiredCount bgInstanceId).2 rest s' rest' →
          Offers find team desiredCount s (ptr :: rest) s' rest' :=
        fun h => Offers.poolAddGroup le_rfl h
      simp only [State.fillFrom]
      have hstop : (s.poolAddGroup find team ptr desiredCount bgInstanceId).1 = false →
          (s.poolAddGroup find team ptr desiredCount bgInstanceId).2 = s := by
        simp only [State.poolAddGroup]
        split
        · intro hfalse
          cases hfalse
        · intro _
          rfl
      generalize s.poolAddGroup find team ptr desiredCount bgInstanceId = added at hfirst hstop ⊢
      obtain ⟨again, t⟩ := added
      cases again with
      | true => exact hfirst (ih t)
      | false =>
          obtain rfl : t = s := hstop rfl
          exact .done t (ptr :: rest)

end Offers

theorem poolKickGroup_pools (s : State) (team : Team) (size : Nat) :
    (s.poolKickGroup team size).2 = s ∨
      ∃ i ptr, (s.selectionPools team).selectedGroups[i]? = some ptr ∧
        (s.poolKickGroup team size).2 = s.setPool team
          { selectedGroups := (s.selectionPools team).selectedGroups.eraseIdx i
            playerCount := s.playerCount team - s.size ptr } := by
  simp only [State.poolKickGroup]
  split
  · exact Or.inl rfl
  · split
    case h_1 ptr hptr => exact Or.inr ⟨_, ptr, hptr, rfl⟩
    case h_2 => exact Or.inl rfl

theorem Tallied.poolKickGroup (h : s.Tallied) (team : Team) (size : Nat) :
    (s.poolKickGroup team size).2.Tallied := by
  obtain heq | ⟨i, ptr, hptr, heq⟩ := s.poolKickGroup_pools team size
  · rw [heq]
    exact h
  · rw [heq]
    refine h.setPool team ⟨(h.pools team).1.sublist (List.eraseIdx_sublist ..), ?_⟩
    obtain ⟨hi, rfl⟩ := List.getElem?_eq_some_iff.mp hptr
    have hperm := (List.getElem_cons_eraseIdx_perm hi).map s.size
    have hsum := hperm.sum_eq
    rw [List.map_cons, List.sum_cons, ← (h.pools team).2] at hsum
    simp only [State.playerCount]
    omega

theorem Apart.poolKickGroup {team team' : Team} {list : List Ptr} (h : s.Apart team list)
    (size : Nat) : (s.poolKickGroup team' size).2.Apart team list := by
  refine ⟨h.1, ?_⟩
  intro ptr hptr hmem
  obtain heq | ⟨i, ptr', hptr', heq⟩ := s.poolKickGroup_pools team' size
  · rw [heq] at hmem
    exact h.2 ptr hptr hmem
  · rw [heq] at hmem
    by_cases hsame : team = team'
    · subst hsame
      simp only [State.setPool, Function.update_self] at hmem
      exact h.2 ptr hptr (List.mem_of_mem_eraseIdx hmem)
    · simp only [State.setPool, Function.update_of_ne hsame] at hmem
      exact h.2 ptr hptr hmem

/-- The pools are tallied and the groups not yet looked at are in none of them. -/
structure Filling.Ready (filling : Filling) (s : State) : Prop where
  tallied : s.Tallied
  apart : ∀ team, s.Apart team (filling.rest team)

theorem Apart.congr {s' : State} {team : Team} {list : List Ptr} (h : s.Apart team list)
    (hpools : s'.selectionPools team = s.selectionPools team) : s'.Apart team list :=
  ⟨h.1, fun ptr hptr => hpools ▸ h.2 ptr hptr⟩

theorem Filling.Ready.refill {filling : Filling} (h : filling.Ready s) (team : Team)
    (desiredCount : Nat) (again : Bool) :
    let refilled := refill find team desiredCount filling.bgInstanceId again s (filling.rest team)
    Filling.Ready { filling with rest := Function.update filling.rest team refilled.2 }
      refilled.1 := by
  have hoffers : Offers find team desiredCount s (filling.rest team)
      (State.refill find team desiredCount filling.bgInstanceId again s (filling.rest team)).1
      (State.refill find team desiredCount filling.bgInstanceId again s (filling.rest team)).2 := by
    cases again with
    | true => exact Offers.fillFrom ..
    | false => exact Offers.done ..
  obtain ⟨htallied, hapart⟩ := hoffers.tallied h.tallied (h.apart team)
  refine ⟨htallied, ?_⟩
  intro team'
  by_cases hsame : team' = team
  · subst hsame
    simpa only [Function.update_self] using hapart
  · simpa only [Function.update_of_ne hsame] using (h.apart team').congr (hoffers.of_ne hsame)

theorem Filling.Ready.poolKickGroup {filling : Filling} (h : filling.Ready s) (team : Team)
    (size : Nat) : filling.Ready (s.poolKickGroup team size).2 :=
  ⟨h.tallied.poolKickGroup team size, fun team' => (h.apart team').poolKickGroup size⟩

theorem Filling.Ready.kickRound {filling : Filling} (h : filling.Ready s)
    (find : Guid → Option PlayerState) (team : Team) :
    (s.kickRound find filling team).2.2.Ready (s.kickRound find filling team).2.1 := by
  simp only [State.kickRound]
  split
  · split
    · exact (h.poolKickGroup ..).refill ..
    · exact ((h.poolKickGroup ..).refill ..).poolKickGroup ..
  · exact (h.poolKickGroup ..).refill ..

theorem Filling.Ready.balance {filling : Filling} (differential : Int) (fuel : Nat)
    (h : filling.Ready s) : (s.balance find differential fuel filling).Tallied := by
  induction fuel generalizing s filling with
  | zero => exact h.tallied
  | succ fuel ih =>
      simp only [State.balance]
      split
      · have hround := h.kickRound find
          (if filling.diff s .alliance < filling.diff s .horde then .alliance else .horde)
        generalize s.kickRound find filling _ = round at hround ⊢
        obtain ⟨again, s', filling'⟩ := round
        cases again with
        | true => exact ih hround
        | false => exact hround.tallied
      · exact h.tallied

theorem apart_of_empty {team : Team} {list : List Ptr} (hlist : list.Nodup)
    (hempty : (s.selectionPools team).selectedGroups = []) : s.Apart team list := by
  refine ⟨hlist, ?_⟩
  intro ptr _ hmem
  rw [hempty] at hmem
  cases hmem

theorem Tallied.fillPlayersToBG (find : Guid → Option PlayerState) (config : Config)
    (h : s.Tallied) (hlinked : s.Linked none)
    (hempty : ∀ team, (s.selectionPools team).selectedGroups = []) (bg : BattleGround)
    (bracket : Bracket) : (s.fillPlayersToBG config find bg bracket).Tallied := by
  simp only [State.fillPlayersToBG]
  split
  · exact h
  · have hali := Offers.fillFrom find s .alliance
      ((bg.getFreeSlotsForTeam .alliance : Int)).toNat bg.clientInstanceID
      (s.queuedGroups bracket .normal .alliance)
    obtain ⟨htallied, haliRest⟩ :=
      hali.tallied h (apart_of_empty (hlinked.nodup_list ..) (hempty .alliance))
    generalize State.fillFrom find .alliance _ _ s _ = ali at hali htallied haliRest ⊢
    have hhorde := Offers.fillFrom find ali.1 .horde
      ((bg.getFreeSlotsForTeam .horde : Int)).toNat bg.clientInstanceID
      (s.queuedGroups bracket .normal .horde)
    have hhordeEmpty : (ali.1.selectionPools .horde).selectedGroups = [] := by
      rw [hali.of_ne (by decide)]
      exact hempty .horde
    obtain ⟨htallied', hhordeRest⟩ :=
      hhorde.tallied htallied (apart_of_empty (hlinked.nodup_list ..) hhordeEmpty)
    generalize State.fillFrom find .horde _ _ ali.1 _ = horde at hhorde htallied' hhordeRest ⊢
    split
    · exact htallied'
    · refine Filling.Ready.balance _ _ ⟨htallied', ?_⟩
      intro team
      cases team with
      | alliance => exact haliRest.congr (hhorde.of_ne (by decide))
      | horde => exact hhordeRest

end Pools

structure SamePools (s s' : State) : Prop where
  pools : s'.selectionPools = s.selectionPools
  observed : s'.observed = s.observed
  creations : s'.creations = s.creations
  ended : s'.endIncremented = s.endIncremented
  size : ∀ ptr, s'.size ptr = s.size ptr

namespace SamePools

variable {s s' s'' : State}

theorem refl (s : State) : SamePools s s := ⟨rfl, rfl, rfl, rfl, fun _ => rfl⟩

theorem trans (h : SamePools s s') (h' : SamePools s' s'') : SamePools s s'' :=
  ⟨h'.pools.trans h.pools, h'.observed.trans h.observed, h'.creations.trans h.creations,
    h'.ended.trans h.ended, fun ptr => (h'.size ptr).trans (h.size ptr)⟩

variable (config : Config) (moment : Moment)

theorem inviteGroupToBG (s : State) (ptr : Ptr) (bg : BattleGround) :
    SamePools s (s.inviteGroupToBG moment.find moment.now ptr bg).1 := by
  simp only [State.inviteGroupToBG]
  split
  · exact refl s
  · split
    · exact ⟨rfl, rfl, rfl, rfl, (SameLinks.markInvited s moment.now ptr bg).size⟩
    · exact refl s

theorem inviteAllGroups (s : State) (bg : BattleGround) :
    SamePools s (s.inviteAllGroups moment bg).1 := by
  have hfold : ∀ (list : List Ptr) (sbg : State × BattleGround),
      SamePools sbg.1 (list.foldl (fun sbg ptr =>
        sbg.1.inviteGroupToBG moment.find moment.now ptr sbg.2) sbg).1 := by
    intro list
    induction list with
    | nil => exact fun sbg => refl sbg.1
    | cons ptr rest ih => exact fun sbg => (inviteGroupToBG moment sbg.1 ptr sbg.2).trans (ih _)
  exact hfold _ (s, bg)

theorem reorder (s : State) (bracket : Bracket) (f : List Ptr → List Ptr) :
    SamePools s (s.reorder bracket f) := ⟨rfl, rfl, rfl, rfl, fun _ => rfl⟩

theorem alteracMinimum (s : State) (bracket : Bracket) :
    SamePools s (s.alteracMinimum config moment bracket).2 := by
  simp only [State.alteracMinimum]
  split
  · split
    · exact refl s
    · exact ⟨rfl, rfl, rfl, rfl, fun _ => rfl⟩
  · exact refl s

end SamePools

/-- What an update has recorded is in order between its parts. -/
structure Recorded (config : Config) (s : State) : Prop where
  linked : s.Linked none
  observed : ∀ pool ∈ s.observed, s.Tally pool
  creations : config.isTesting = false → ∀ creation ∈ s.creations, creation.Genuine
  ended : s.endIncremented = false

namespace Recorded

variable {config : Config} {s s' : State}

theorem of_samePools (h : s.Recorded config) (hsame : SamePools s s')
    (hlinked : s'.Linked none) : s'.Recorded config := by
  refine ⟨hlinked, ?_, ?_, hsame.ended.trans h.ended⟩
  · intro pool hpool
    exact (h.observed pool (hsame.observed ▸ hpool)).congr hsame.size
  · rw [hsame.creations]
    exact h.creations

theorem of_tallied (h : s.Recorded config) (hpools : PoolsOnly s s') (htallied : s'.Tallied) :
    s'.Recorded config := by
  refine ⟨hpools.sameLinks.linked h.linked, htallied.observed, ?_, htallied.ended⟩
  obtain ⟨pools, observed, ended, rfl⟩ := hpools
  exact h.creations

theorem tallied (h : s.Recorded config) (hpools : ∀ team, s.Tally (s.selectionPools team)) :
    s.Tallied := ⟨h.observed, hpools, h.ended⟩

theorem initPools (h : s.Recorded config) : s.initPools.Tallied := by
  have hempty : ∀ s : State, s.Tally {} := fun s => ⟨List.nodup_nil, rfl⟩
  refine ⟨?_, ?_, h.ended⟩
  · intro pool hpool
    simp only [State.initPools, State.setPool, List.mem_append, List.mem_singleton] at hpool
    rcases hpool with (hpool | rfl) | rfl
    · exact h.observed pool hpool
    · exact hempty _
    · exact hempty _
  · intro team
    cases team with
    | alliance => exact hempty _
    | horde => exact hempty _

theorem fillBattleGround (h : s.Recorded config) (moment : Moment) (bracket : Bracket)
    (instanceID : UInt32) :
    (s.fillBattleGround config moment bracket instanceID).Recorded config := by
  simp only [State.fillBattleGround]
  split
  · rename_i bg hbg
    split
    case isTrue =>
      have hinit := PoolsOnly.initPools s
      have hfilled := h.initPools.fillPlayersToBG moment.find config
        (hinit.sameLinks.linked h.linked) (fun team => by cases team <;> rfl) bg bracket
      have hrecorded := h.of_tallied (hinit.trans (PoolsOnly.fillPlayersToBG ..)) hfilled
      have hinvited := hrecorded.of_samePools (SamePools.inviteAllGroups moment _ bg)
        ((Keeps.inviteAllGroups moment _ bg).linked hrecorded.linked)
      generalize State.inviteAllGroups moment _ bg = invited at hinvited ⊢
      have hlinks : ∀ battleGrounds freeSlotQueue, SameLinks invited.1
          { invited.1 with battleGrounds := battleGrounds, freeSlotQueue := freeSlotQueue } :=
        fun _ _ => ⟨rfl, fun _ => rfl, rfl, fun _ => rfl⟩
      split
      · exact hinvited.of_samePools ⟨rfl, rfl, rfl, rfl, fun _ => rfl⟩
          ((hlinks _ _).linked hinvited.linked)
      · exact hinvited.of_samePools ⟨rfl, rfl, rfl, rfl, fun _ => rfl⟩
          ((hlinks _ _).linked hinvited.linked)
    case isFalse => exact h
  · exact h

end Recorded

structure Picked (maxPlayers : Nat) (s : State) : Prop where
  bounded : ∀ team, s.playerCount team ≤ maxPlayers
  uninvited : ∀ team, ∀ ptr ∈ (s.selectionPools team).selectedGroups, ∃ ginfo,
    s.groups.entry ptr = some ginfo ∧ ginfo.isInvitedToBGInstanceGUID = 0

section Checks

variable {find : Guid → Option PlayerState} {s s' : State} {team : Team} {maxPlayers : Nat}
  {list rest : List Ptr}

theorem selectable_uninvited {ptr : Ptr} {bgInstanceId : Nat}
    (h : s.selectable find ptr bgInstanceId = true) :
    ∃ ginfo, s.groups.entry ptr = some ginfo ∧ ginfo.isInvitedToBGInstanceGUID = 0 := by
  unfold State.selectable at h
  split at h
  · rename_i ginfo hentry
    simp only [Bool.and_eq_true, beq_iff_eq] at h
    exact ⟨ginfo, hentry, h.1.1⟩
  · cases h

theorem Picked.withGroup (h : s.Picked maxPlayers) {ptr : Ptr} {bgInstanceId : Nat}
    (hselectable : s.selectable find ptr bgInstanceId = true)
    (hroom : s.playerCount team + s.size ptr ≤ maxPlayers) :
    (s.withGroup team ptr).Picked maxPlayers := by
  refine ⟨?_, ?_⟩
  · intro team'
    by_cases hsame : team' = team
    · subst hsame
      simpa [State.playerCount, State.withGroup, State.setPool] using hroom
    · have hother := withGroup_of_ne (s := s) hsame ptr
      unfold State.playerCount
      rw [hother]
      exact h.bounded team'
  · intro team' ptr' hmem
    by_cases hsame : team' = team
    · subst hsame
      rcases mem_withGroup.mp hmem with hmem | rfl
      · exact h.uninvited team' ptr' hmem
      · exact selectable_uninvited hselectable
    · rw [withGroup_of_ne hsame] at hmem
      exact h.uninvited team' ptr' hmem

theorem Picked.offers (hoffers : Offers find team maxPlayers s list s' rest)
    (h : s.Picked maxPlayers) : s'.Picked maxPlayers := by
  induction hoffers with
  | done s list => exact h
  | skip _ ih => exact ih h
  | take hselectable hroom _ ih => exact ih (h.withGroup hselectable hroom)

theorem Picked.congr (h : s.Picked maxPlayers) (hpools : s'.selectionPools = s.selectionPools)
    (hgroups : s'.groups = s.groups) : s'.Picked maxPlayers := by
  refine ⟨?_, ?_⟩
  · intro team
    unfold State.playerCount
    rw [hpools]
    exact h.bounded team
  · rw [hpools, hgroups]
    exact h.uninvited

theorem picked_initPools (maxPlayers : Nat) (s : State) : s.initPools.Picked maxPlayers := by
  refine ⟨?_, ?_⟩
  · intro team
    cases team with
    | alliance => exact Nat.zero_le _
    | horde => exact Nat.zero_le _
  · intro team ptr hmem
    cases team with
    | alliance => cases hmem
    | horde => cases hmem

theorem Offers.scan (find : Guid → Option PlayerState) (team : Team)
    (eligible : State → Ptr → Bool) (minPlayers maxPlayers : Nat) (s : State) (list : List Ptr) :
    Offers find team maxPlayers s list (scan find team eligible minPlayers maxPlayers s list).1
      ((scan find team eligible minPlayers maxPlayers s list).2.getD []) := by
  induction list generalizing s with
  | nil => exact .done s []
  | cons ptr rest ih =>
      simp only [State.scan]
      split
      · split
        · exact Offers.poolAddGroup le_rfl (.done _ rest)
        · exact Offers.poolAddGroup le_rfl (ih _)
      · exact .skip (ih s)

/-- A scan that ran to the end with enough players did not add any. -/
theorem scan_none {eligible : State → Ptr → Bool} {minPlayers : Nat}
    (hnone : (scan find team eligible minPlayers maxPlayers s list).2 = none)
    (hcount : minPlayers ≤
      (scan find team eligible minPlayers maxPlayers s list).1.playerCount team) :
    (scan find team eligible minPlayers maxPlayers s list).1 = s ∧
      ∀ ptr ∈ list, eligible s ptr = false := by
  induction list generalizing s with
  | nil => exact ⟨rfl, fun ptr hmem => nomatch hmem⟩
  | cons ptr rest ih =>
      simp only [State.scan] at hnone hcount ⊢
      split at hnone
      case isTrue heligible =>
        simp only [heligible, if_true] at hcount ⊢
        split at hnone
        case isTrue => cases hnone
        case isFalse hfew =>
          rw [if_neg hfew] at hcount
          rw [(ih hnone hcount).1] at hcount
          exact absurd hcount hfew
      case isFalse heligible =>
        simp only [heligible] at hcount ⊢
        obtain ⟨hsame, hrest⟩ := ih hnone hcount
        refine ⟨hsame, ?_⟩
        intro ptr' hmem
        rcases List.mem_cons.mp hmem with rfl | hmem
        · exact Bool.eq_false_iff.mpr heligible
        · exact hrest ptr' hmem

theorem Team.other_ne (team : Team) : team.other ≠ team := by
  cases team <;> decide

theorem Offers.extend (find : Guid → Option PlayerState) (s : State) (list : List Ptr)
    (hother : s.playerCount team.other ≤ maxPlayers) :
    ∃ rest, Offers find team maxPlayers s list (extend find team s list) rest := by
  induction list generalizing s with
  | nil => exact ⟨[], .done s []⟩
  | cons ptr rest ih =>
      simp only [State.extend]
      split
      · obtain ⟨rest', hrest'⟩ := ih s hother
        exact ⟨rest', .skip hrest'⟩
      · have hfirst : ∀ {s' rest'}, Offers find team maxPlayers
            (s.poolAddGroup find team ptr (s.playerCount team.other) 0).2 rest s' rest' →
            Offers find team maxPlayers s (ptr :: rest) s' rest' :=
          fun h => Offers.poolAddGroup hother h
        generalize hadded : s.poolAddGroup find team ptr (s.playerCount team.other) 0 = added
          at hfirst ⊢
        obtain ⟨again, t⟩ := added
        cases again with
        | true =>
            have hone : Offers find team maxPlayers s (ptr :: rest) t rest := hfirst (.done t rest)
            have hcount : t.playerCount team.other = s.playerCount team.other :=
              congrArg SelectionPool.playerCount (hone.of_ne (Team.other_ne team))
            obtain ⟨rest', hrest'⟩ := ih t (hcount.trans_le hother)
            exact ⟨rest', hfirst hrest'⟩
        | false => exact ⟨rest, hfirst (.done t rest)⟩

end Checks

section Premade

variable {config : Config} (moment : Moment) {s : State} {bracket : Bracket}
  (minPlayers : Nat) {maxPlayers : Nat}

theorem Linked.kind_unique (h : s.Linked none) {ptr : Ptr} {kind kind' : Kind} {team : Team}
    (hmem : ptr ∈ s.queuedGroups bracket kind team)
    (hmem' : ptr ∈ s.queuedGroups bracket kind' team) : kind = kind' := by
  obtain ⟨ginfo, hentry, hne⟩ := h.listed bracket kind team ptr hmem
  obtain ⟨only, -, honly⟩ := h.placed ptr ginfo hentry hne (by simp)
  exact (honly _ _ _ hmem).2.1.trans (honly _ _ _ hmem').2.1.symm

structure Scanned (bracket : Bracket) (maxPlayers : Nat) (places : List (Kind × Team)) (s : State) :
    Prop where
  linked : s.Linked none
  tallied : s.Tallied
  picked : s.Picked maxPlayers
  source : ∀ team, ∀ ptr ∈ (s.selectionPools team).selectedGroups, ∃ kind,
    (kind, team) ∈ places ∧ ptr ∈ s.queuedGroups bracket kind team

theorem Scanned.scanPremade (config : Config) {places : List (Kind × Team)}
    (h : s.Scanned bracket maxPlayers places) {kind : Kind} {team : Team}
    (hnew : (kind, team) ∉ places) :
    (s.scanPremade config moment.find bracket minPlayers maxPlayers kind team).Scanned bracket
      maxPlayers (places ++ [(kind, team)]) := by
  have hoffers := Offers.scan moment.find team (isPremadeSize config) minPlayers maxPlayers s
    (s.queuedGroups bracket kind team)
  have hapart : s.Apart team (s.queuedGroups bracket kind team) := by
    refine ⟨h.linked.nodup_list .., ?_⟩
    intro ptr hptr hmem
    obtain ⟨kind', hplace, hptr'⟩ := h.source team ptr hmem
    obtain rfl := h.linked.kind_unique hptr hptr'
    exact hnew hplace
  have hlists : (s.scanPremade config moment.find bracket minPlayers maxPlayers kind
      team).queuedGroups = s.queuedGroups := hoffers.poolsOnly.sameLinks.queuedGroups
  refine ⟨hoffers.poolsOnly.sameLinks.linked h.linked, (hoffers.tallied h.tallied hapart).1,
    h.picked.offers hoffers, ?_⟩
  intro team' ptr hmem
  rw [hlists]
  by_cases hsame : team' = team
  · subst hsame
    rcases hoffers.mem hmem with hmem | hmem
    · obtain ⟨kind', hplace, hptr⟩ := h.source team' ptr hmem
      exact ⟨kind', List.mem_append_left _ hplace, hptr⟩
    · exact ⟨kind, List.mem_append_right _ List.mem_cons_self, hmem⟩
  · have hpool := hoffers.of_ne hsame
    unfold State.scanPremade at hmem
    rw [hpool] at hmem
    obtain ⟨kind', hplace, hptr⟩ := h.source team' ptr hmem
    exact ⟨kind', List.mem_append_left _ hplace, hptr⟩

theorem Scanned.scans (config : Config) {places : List (Kind × Team)}
    (h : s.Scanned bracket maxPlayers places) (scans : List (Kind × Team))
    (hscans : (places ++ scans).Nodup) :
    (scans.foldl (fun s place =>
      s.scanPremade config moment.find bracket minPlayers maxPlayers place.1 place.2) s).Scanned
      bracket maxPlayers (places ++ scans) := by
  induction scans generalizing s places with
  | nil => simpa using h
  | cons place rest ih =>
      have hnew : place ∉ places := by
        intro hmem
        exact (List.nodup_append.mp hscans).2.2 place hmem place List.mem_cons_self rfl
      have hrest := ih (h.scanPremade moment minPlayers config hnew) (by simpa using hscans)
      simpa using hrest

/-- What is left in the pools after a check is tallied and uninvited, and an
accepting check has enough on both sides. -/
structure Checked (config : Config) (minPlayers maxPlayers : Nat) (checked : Bool × State) :
    Prop where
  recorded : checked.2.Recorded config
  pools : ∀ team, checked.2.Tally (checked.2.selectionPools team)
  picked : checked.2.Picked maxPlayers
  enough : checked.1 = true → config.isTesting = false →
    ∀ team, minPlayers ≤ checked.2.playerCount team

theorem poolsReady_enough {minPlayers : Nat} (h : s.poolsReady config minPlayers = true)
    (htesting : config.isTesting = false) (team : Team) : minPlayers ≤ s.playerCount team := by
  simp only [State.poolsReady, htesting, Bool.false_and, Bool.false_or, Bool.and_eq_true,
    decide_eq_true_eq] at h
  cases team with
  | alliance => exact h.1
  | horde => exact h.2

theorem SamePools.moveToNormal (config : Config) (moment : Moment) (s : State) (bracket : Bracket)
    (minPlayers : Nat) (team : Team) :
    SamePools s (s.moveToNormal config moment bracket minPlayers team) ∧
      (s.moveToNormal config moment bracket minPlayers team).groups = s.groups := by
  simp only [State.moveToNormal]
  split
  · split
    · split
      · exact ⟨⟨rfl, rfl, rfl, rfl, fun _ => rfl⟩, rfl⟩
      · exact ⟨refl s, rfl⟩
    · exact ⟨refl s, rfl⟩
  · exact ⟨refl s, rfl⟩

theorem Checked.moveToNormal {minPlayers : Nat} {found : Bool}
    (h : Checked config minPlayers maxPlayers (found, s))
    (hfound : found = false) (team : Team) :
    Checked config minPlayers maxPlayers
      (found, s.moveToNormal config moment bracket minPlayers team) := by
  obtain ⟨hsame, hgroups⟩ := SamePools.moveToNormal config moment s bracket minPlayers team
  have hlinked := (Keeps.moveToNormal config moment bracket minPlayers s team).linked
    h.recorded.linked
  refine ⟨h.recorded.of_samePools hsame hlinked, ?_, h.picked.congr hsame.pools hgroups, ?_⟩
  · intro team'
    simp only [hsame.pools]
    exact (h.pools team').congr hsame.size
  · intro htrue
    rw [hfound] at htrue
    cases htrue

theorem Recorded.checkPremadeMatch (h : s.Recorded config) :
    Checked config minPlayers maxPlayers
      (s.initPools.checkPremadeMatch config moment bracket minPlayers maxPlayers) := by
  have hinit := PoolsOnly.initPools s
  have hstart : s.initPools.Scanned bracket maxPlayers [] := by
    refine ⟨hinit.sameLinks.linked h.linked, h.initPools, picked_initPools maxPlayers s, ?_⟩
    intro team ptr hmem
    cases team with
    | alliance => cases hmem
    | horde => cases hmem
  have hscanned := hstart.scans moment minPlayers config premadeScans (by decide)
  have hpools : PoolsOnly s.initPools (premadeScans.foldl (fun s place =>
      s.scanPremade config moment.find bracket minPlayers maxPlayers place.1 place.2)
      s.initPools) := by
    simp only [premadeScans, List.foldl]
    exact (((PoolsOnly.scanPremade ..).trans (PoolsOnly.scanPremade ..)).trans
      (PoolsOnly.scanPremade ..)).trans (PoolsOnly.scanPremade ..)
  have hrecorded := h.of_tallied (hinit.trans hpools) hscanned.tallied
  simp only [State.checkPremadeMatch]
  generalize List.foldl _ s.initPools premadeScans = scanned at hscanned hrecorded ⊢
  split
  case isTrue hready =>
    exact ⟨hrecorded, hscanned.tallied.pools, hscanned.picked,
      fun _ htesting => poolsReady_enough hready htesting⟩
  case isFalse =>
    have hfailed : Checked config minPlayers maxPlayers (false, scanned) :=
      ⟨hrecorded, hscanned.tallied.pools, hscanned.picked, fun hfalse =>
        absurd hfalse Bool.false_ne_true⟩
    exact (hfailed.moveToNormal moment rfl .alliance).moveToNormal moment rfl .horde

end Premade

/-- CheckNormalMatch may start here: no group that an earlier check left in a pool is
in the list that is scanned for it and fits again, and where both teams reach enough
players and the smaller one is to be filled up, its pool did not have enough before
while nobody in its list can be offered. -/
def CheckReady (config : Config) (find : Guid → Option PlayerState) (s : State)
    (bracket : Bracket) (minPlayers maxPlayers : Nat) : Prop :=
  let scanned := (s.scanNormal find bracket minPlayers maxPlayers).1
  (∀ team, ∀ ptr ∈ (s.selectionPools team).selectedGroups,
    ptr ∈ s.queuedGroups bracket .normal team → maxPlayers < s.playerCount team + s.size ptr) ∧
  (config.invitationType ≠ 0 → (∀ team, minPlayers ≤ scanned.playerCount team) →
    minPlayers ≤ s.playerCount scanned.smallerTeam →
    ∃ ptr ∈ s.queuedGroups bracket .normal scanned.smallerTeam, s.isInvited ptr = false)

theorem Team.forall_iff {p : Team → Prop} : (∀ team, p team) ↔ p .alliance ∧ p .horde := by
  refine ⟨fun h => ⟨h .alliance, h .horde⟩, ?_⟩
  rintro ⟨halliance, hhorde⟩ team
  cases team with
  | alliance => exact halliance
  | horde => exact hhorde

instance {p : Team → Prop} [DecidablePred p] : Decidable (∀ team, p team) :=
  decidable_of_iff' _ Team.forall_iff

instance (config : Config) (find : Guid → Option PlayerState) (s : State) (bracket : Bracket)
    (minPlayers maxPlayers : Nat) :
    Decidable (s.CheckReady config find bracket minPlayers maxPlayers) :=
  inferInstanceAs (Decidable (_ ∧ _))

theorem Unrepeated.congr {s s' : State} {team : Team} {maxPlayers : Nat} {list : List Ptr}
    (h : s.Unrepeated team maxPlayers list)
    (hpools : s'.selectionPools team = s.selectionPools team)
    (hsize : ∀ ptr, s'.size ptr = s.size ptr) : s'.Unrepeated team maxPlayers list := by
  refine ⟨h.1, ?_⟩
  intro ptr hptr hmem
  rw [hpools] at hmem
  rw [playerCount, hpools, hsize]
  exact h.2 ptr hptr hmem

section Normal

variable {config : Config} (moment : Moment) {s : State} {bracket : Bracket}
  {minPlayers maxPlayers : Nat}

/-- After the scans both pools are in order, and so is what is left of the lists. -/
theorem Checked.scanNormal (h : Checked config minPlayers maxPlayers (false, s))
    (hready : s.CheckReady config moment.find bracket minPlayers maxPlayers) :
    Checked config minPlayers maxPlayers
        (false, (s.scanNormal moment.find bracket minPlayers maxPlayers).1) ∧
      ∀ team rest, (s.scanNormal moment.find bracket minPlayers maxPlayers).2 team = some rest →
        (s.scanNormal moment.find bracket minPlayers maxPlayers).1.Unrepeated team maxPlayers
          rest := by
  have hali := Offers.scan moment.find .alliance (fun s ptr => !s.isInvited ptr) minPlayers
    maxPlayers s (s.queuedGroups bracket .normal .alliance)
  have hlist : ∀ team, s.Unrepeated team maxPlayers (s.queuedGroups bracket .normal team) :=
    fun team => ⟨h.recorded.linked.nodup_list .., fun ptr hptr hmem => hready.1 team ptr hmem hptr⟩
  obtain ⟨haliTallied, haliRest⟩ :=
    hali.tallied_unrepeated (h.recorded.tallied h.pools) (hlist .alliance)
  simp only [State.scanNormal]
  generalize State.scan moment.find .alliance _ minPlayers maxPlayers s _ = ali
    at hali haliTallied haliRest ⊢
  have hhorde := Offers.scan moment.find .horde (fun s ptr => !s.isInvited ptr) minPlayers
    maxPlayers ali.1 (s.queuedGroups bracket .normal .horde)
  obtain ⟨hhordeTallied, hhordeRest⟩ := hhorde.tallied_unrepeated haliTallied
    ((hlist .horde).congr (hali.of_ne (by decide)) hali.poolsOnly.sameLinks.size)
  generalize State.scan moment.find .horde _ minPlayers maxPlayers ali.1 _ = horde
    at hhorde hhordeTallied hhordeRest ⊢
  refine ⟨⟨?_, hhordeTallied.pools, ?_, fun hfalse => absurd hfalse Bool.false_ne_true⟩, ?_⟩
  · exact h.recorded.of_tallied (hali.poolsOnly.trans hhorde.poolsOnly) hhordeTallied
  · exact (h.picked.offers hali).offers hhorde
  · intro team rest hrest
    cases team with
    | alliance =>
        rw [show ali.2 = some rest from hrest] at haliRest
        exact haliRest.congr (hhorde.of_ne (by decide)) hhorde.poolsOnly.sameLinks.size
    | horde =>
        rw [show horde.2 = some rest from hrest] at hhordeRest
        exact hhordeRest

/-- A scan that ends with enough players did not run to the end of the list. -/
theorem scan_some {team : Team} {s' : State}
    (huninvited : minPlayers ≤ s.playerCount team →
      ∃ ptr ∈ s.queuedGroups bracket .normal team, s.isInvited ptr = false)
    (honly : PoolsOnly s s') (hpool : s'.selectionPools team = s.selectionPools team)
    (hcount : minPlayers ≤ (scan moment.find team (fun s ptr => !s.isInvited ptr) minPlayers
      maxPlayers s' (s.queuedGroups bracket .normal team)).1.playerCount team) :
    ∃ rest, (scan moment.find team (fun s ptr => !s.isInvited ptr) minPlayers maxPlayers s'
      (s.queuedGroups bracket .normal team)).2 = some rest := by
  refine Option.ne_none_iff_exists'.mp ?_
  intro hnone
  obtain ⟨hsame, hnobody⟩ := scan_none hnone hcount
  rw [hsame] at hcount
  have hstart : minPlayers ≤ s.playerCount team := by
    unfold State.playerCount at hcount ⊢
    rwa [hpool] at hcount
  obtain ⟨ptr, hptr, huninvited⟩ := huninvited hstart
  have hinvited := hnobody ptr hptr
  obtain ⟨pools, observed, ended, rfl⟩ := honly
  rw [show State.isInvited { s with
    selectionPools := pools, observed := observed, endIncremented := ended } ptr = s.isInvited ptr
    from rfl, huninvited] at hinvited
  cases hinvited

theorem scanNormal_some {team : Team}
    (huninvited : minPlayers ≤ s.playerCount team →
      ∃ ptr ∈ s.queuedGroups bracket .normal team, s.isInvited ptr = false)
    (hcount : minPlayers ≤
      (s.scanNormal moment.find bracket minPlayers maxPlayers).1.playerCount team) :
    ∃ rest, (s.scanNormal moment.find bracket minPlayers maxPlayers).2 team = some rest := by
  have hali := Offers.scan moment.find .alliance (fun s ptr => !s.isInvited ptr) minPlayers
    maxPlayers s (s.queuedGroups bracket .normal .alliance)
  have hhorde := Offers.scan moment.find .horde (fun s ptr => !s.isInvited ptr) minPlayers
    maxPlayers (State.scan moment.find .alliance (fun s ptr => !s.isInvited ptr) minPlayers
      maxPlayers s (s.queuedGroups bracket .normal .alliance)).1
    (s.queuedGroups bracket .normal .horde)
  cases team with
  | alliance =>
      refine scan_some moment huninvited (PoolsOnly.refl s) rfl ?_
      have hpool := hhorde.of_ne (show Team.alliance ≠ .horde by decide)
      unfold State.playerCount State.scanNormal at hcount
      rw [hpool] at hcount
      exact hcount
  | horde =>
      have hpool := hali.of_ne (show Team.horde ≠ .alliance by decide)
      exact scan_some moment huninvited hali.poolsOnly hpool hcount

theorem Checked.balanceNormal (h : Checked config minPlayers maxPlayers (false, s))
    {rest : List Ptr} (hrest : s.Unrepeated s.smallerTeam maxPlayers rest) :
    Checked config minPlayers maxPlayers (s.balanceNormal config moment.find minPlayers rest) := by
  obtain ⟨rest', hoffers⟩ := Offers.extend moment.find s rest
    (h.picked.bounded s.smallerTeam.other)
  have htallied := (hoffers.tallied_unrepeated (h.recorded.tallied h.pools) hrest).1
  have hrecorded := h.recorded.of_tallied hoffers.poolsOnly htallied
  have hpicked := h.picked.offers hoffers
  simp only [State.balanceNormal]
  split
  · exact ⟨hrecorded, htallied.pools, hpicked, fun hfalse => absurd hfalse Bool.false_ne_true⟩
  · exact ⟨hrecorded, htallied.pools, hpicked, fun hfound => poolsReady_enough hfound⟩

theorem Checked.checkNormalMatch (h : Checked config minPlayers maxPlayers (false, s))
    (hready : s.CheckReady config moment.find bracket minPlayers maxPlayers) :
    Checked config minPlayers maxPlayers
      (s.checkNormalMatch config moment bracket minPlayers maxPlayers) := by
  obtain ⟨hscanned, hapart⟩ := h.scanNormal moment hready
  simp only [State.checkNormalMatch]
  split
  case isTrue hboth =>
    have hcounts : ∀ team, minPlayers ≤
        (s.scanNormal moment.find bracket minPlayers maxPlayers).1.playerCount team := by
      intro team
      cases team with
      | alliance => exact hboth.2.2
      | horde => exact hboth.2.1
    obtain ⟨rest, hrest⟩ := scanNormal_some moment (hready.2 hboth.1 hcounts) (hcounts _)
    rw [hrest]
    exact hscanned.balanceNormal moment (hapart _ rest hrest)
  case isFalse =>
    exact ⟨hscanned.recorded, hscanned.pools, hscanned.picked,
      fun hfound => poolsReady_enough hfound⟩

/-- A battleground is created from pools that hold what they count. -/
theorem Checked.recordCreation (h : Checked config minPlayers maxPlayers (true, s)) :
    (s.recordCreation moment minPlayers maxPlayers).Recorded config := by
  have hlinks : SameLinks s (s.recordCreation moment minPlayers maxPlayers) :=
    ⟨rfl, fun _ => rfl, rfl, fun _ => rfl⟩
  refine ⟨hlinks.linked h.recorded.linked, h.recorded.observed, ?_, h.recorded.ended⟩
  intro htesting creation hcreation
  rcases List.mem_append.mp hcreation with hcreation | hcreation
  · exact h.recorded.creations htesting creation hcreation
  · obtain rfl := List.mem_singleton.mp hcreation
    intro team
    exact ⟨h.recorded.linked.accurate (h.pools team), h.enough rfl htesting team,
      h.picked.bounded team, h.picked.uninvited team⟩

theorem Checked.createMatch (h : Checked config minPlayers maxPlayers (true, s))
    (template : Template) :
    Checked config minPlayers maxPlayers
      (false, s.createMatch config moment bracket template minPlayers maxPlayers) := by
  have hrecorded := h.recordCreation moment
  simp only [State.createMatch]
  generalize s.recordCreation moment minPlayers maxPlayers = t at hrecorded ⊢
  have hinvited := hrecorded.of_samePools
    (SamePools.inviteAllGroups moment t (t.createNewBattleGround config bracket template))
    ((Keeps.inviteAllGroups moment t _).linked hrecorded.linked)
  generalize t.inviteAllGroups moment _ = invited at hinvited ⊢
  have hlinks : SameLinks invited.1 (invited.1.startBattleGround invited.2) :=
    ⟨rfl, fun _ => rfl, rfl, fun _ => rfl⟩
  have hstarted : (invited.1.startBattleGround invited.2).Recorded config :=
    hinvited.of_samePools ⟨rfl, rfl, rfl, rfl, fun _ => rfl⟩ (hlinks.linked hinvited.linked)
  have htallied := hstarted.initPools
  exact ⟨hstarted.of_tallied (PoolsOnly.initPools _) htallied, htallied.pools,
    picked_initPools maxPlayers _, fun hfalse => absurd hfalse Bool.false_ne_true⟩

def AttemptsReady (config : Config) (moment : Moment) (bracket : Bracket) (template : Template)
    (minPlayers maxPlayers : Nat) : Nat → State → Prop
  | 0, _ => True
  | attempts + 1, s =>
      s.CheckReady config moment.find bracket minPlayers maxPlayers ∧
      match s.checkNormalMatch config moment bracket minPlayers maxPlayers with
      | (true, s) =>
          AttemptsReady config moment bracket template minPlayers maxPlayers attempts
            (s.createMatch config moment bracket template minPlayers maxPlayers)
      | (false, s) =>
          AttemptsReady config moment bracket template minPlayers maxPlayers attempts s

theorem AttemptsReady.of_le_one {template : Template} {attempts : Nat}
    (h : s.CheckReady config moment.find bracket minPlayers maxPlayers) (hone : attempts ≤ 1) :
    AttemptsReady config moment bracket template minPlayers maxPlayers attempts s := by
  cases attempts with
  | zero => trivial
  | succ attempts =>
      obtain rfl : attempts = 0 := by omega
      refine ⟨h, ?_⟩
      split
      · trivial
      · trivial

theorem Checked.normalMatches (template : Template) (attempts : Nat)
    (h : Checked config minPlayers maxPlayers (false, s))
    (hready : AttemptsReady config moment bracket template minPlayers maxPlayers attempts s) :
    (s.normalMatches config moment bracket template minPlayers maxPlayers attempts).Recorded
      config := by
  induction attempts generalizing s with
  | zero => exact h.recorded
  | succ attempts ih =>
      obtain ⟨hcheck, hrest⟩ := hready
      have hchecked := h.checkNormalMatch moment hcheck
      simp only [State.normalMatches]
      generalize s.checkNormalMatch config moment bracket minPlayers maxPlayers = checked
        at hchecked hrest ⊢
      obtain ⟨found, s'⟩ := checked
      cases found with
      | true => exact ih (hchecked.createMatch moment template) hrest
      | false => exact ih hchecked hrest

end Normal

def afterPremade (config : Config) (moment : Moment) (s : State) (bracket : Bracket)
    (template : Template) (limits : Limits) : State :=
  let checked := s.initPools.checkPremadeMatch config moment bracket limits.minPlayers
    limits.maxPlayers
  if checked.1 then
    checked.2.createMatch config moment bracket template limits.minPlayers limits.maxPlayers
  else checked.2

def purged (moment : Moment) (s : State) : State :=
  s.purge moment.now s.queuedPlayers.entries.length

/-- The state in which Update starts to look for new matches. -/
def filled (config : Config) (moment : Moment) (s : State) (bracket : Bracket) : State :=
  let s := if config.randomize then (s.purged moment).reorder bracket moment.shuffle.apply
    else s.purged moment
  s.freeSlotQueue.foldl (fillBattleGround config moment bracket) s

/-- Every CheckNormalMatch of an update starts ready. -/
def UpdateReady (config : Config) (moment : Moment) (s : State) (bracket : Bracket) : Prop :=
  (s.purged moment).isAllQueuesEmpty bracket moment.strayEmpty = false →
    ∀ template, config.template = some template →
      let minimum := (s.filled config moment bracket).alteracMinimum config moment bracket
      let limits := limits config template minimum.1
      AttemptsReady config moment bracket template limits.minPlayers limits.maxPlayers
        limits.attempts (minimum.2.afterPremade config moment bracket template limits)

section Update

variable {config : Config} {moment : Moment} {s : State} {bracket : Bracket}

theorem Recorded.afterPremade (h : s.Recorded config) (template : Template) (limits : Limits) :
    Checked config limits.minPlayers limits.maxPlayers
      (false, s.afterPremade config moment bracket template limits) := by
  have hchecked : Checked config limits.minPlayers limits.maxPlayers
      (s.initPools.checkPremadeMatch config moment bracket limits.minPlayers limits.maxPlayers) :=
    h.checkPremadeMatch moment limits.minPlayers
  simp only [State.afterPremade]
  generalize s.initPools.checkPremadeMatch config moment bracket limits.minPlayers
    limits.maxPlayers = checked at hchecked ⊢
  obtain ⟨found, s'⟩ := checked
  cases found with
  | true => exact hchecked.createMatch moment template
  | false => exact hchecked

theorem removePlayer_record (s : State) (guid : Guid) (decreaseInvitedCount : Bool) :
    (s.removePlayer guid decreaseInvitedCount).observed = s.observed ∧
      (s.removePlayer guid decreaseInvitedCount).creations = s.creations ∧
      (s.removePlayer guid decreaseInvitedCount).endIncremented = s.endIncremented := by
  simp only [State.removePlayer]
  split
  · exact ⟨rfl, rfl, rfl⟩
  · split
    · exact ⟨rfl, rfl, rfl⟩
    · split
      · split
        · exact ⟨rfl, rfl, rfl⟩
        · exact ⟨rfl, rfl, rfl⟩
      · split
        · split
          · exact ⟨rfl, rfl, rfl⟩
          · exact ⟨rfl, rfl, rfl⟩
        · split
          · exact ⟨rfl, rfl, rfl⟩
          · exact ⟨rfl, rfl, rfl⟩

theorem purge_record (now : UInt32) (fuel : Nat) (s : State) :
    (s.purge now fuel).observed = s.observed ∧ (s.purge now fuel).creations = s.creations ∧
      (s.purge now fuel).endIncremented = s.endIncremented := by
  induction fuel generalizing s with
  | zero => exact ⟨rfl, rfl, rfl⟩
  | succ fuel ih =>
      simp only [State.purge]
      split
      · rename_i entry _
        obtain ⟨hobserved, hcreations, hended⟩ := s.removePlayer_record entry.1 true
        obtain ⟨hobserved', hcreations', hended'⟩ := ih (s.removePlayer entry.1 true)
        exact ⟨hobserved'.trans hobserved, hcreations'.trans hcreations, hended'.trans hended⟩
      · exact ⟨rfl, rfl, rfl⟩

theorem Recorded.purged (hlinked : s.Linked none) (hobserved : s.observed = [])
    (hcreations : s.creations = []) (hended : s.endIncremented = false) :
    (s.purged moment).Recorded config := by
  obtain ⟨hobserved', hcreations', hended'⟩ :=
    s.purge_record moment.now s.queuedPlayers.entries.length
  refine ⟨(Keeps.purge ..).linked hlinked, ?_, ?_, hended'.trans hended⟩
  · intro pool hpool
    rw [State.purged, hobserved', hobserved] at hpool
    cases hpool
  · intro _ creation hcreation
    rw [State.purged, hcreations', hcreations] at hcreation
    cases hcreation

theorem Recorded.filled (h : (s.purged moment).Recorded config) :
    (s.filled config moment bracket).Recorded config := by
  simp only [State.filled]
  have hordered : (if config.randomize = true then
      (s.purged moment).reorder bracket moment.shuffle.apply
      else s.purged moment).Recorded config := by
    split
    · exact h.of_samePools (SamePools.reorder ..)
        ((Keeps.reorder _ bracket moment.shuffle.perm).linked h.linked)
    · exact h
  generalize (if config.randomize = true then
    (s.purged moment).reorder bracket moment.shuffle.apply else s.purged moment) = t
    at hordered ⊢
  have hfold : ∀ (ids : List UInt32) (t : State), t.Recorded config →
      (ids.foldl (State.fillBattleGround config moment bracket) t).Recorded config := by
    intro ids
    induction ids with
    | nil => exact fun t ht => ht
    | cons id rest ih => exact fun t ht => ih _ (ht.fillBattleGround moment bracket id)
  exact hfold _ t hordered

theorem Recorded.update (h : (s.purged moment).Recorded config)
    (hready : s.UpdateReady config moment bracket) :
    (s.update config moment bracket).Recorded config := by
  have hfilled : (s.filled config moment bracket).Recorded config := h.filled
  simp only [State.update]
  split
  case isTrue => exact h
  case isFalse hqueued =>
    split
    · exact hfilled
    · rename_i template htemplate
      have hminimum := hfilled.of_samePools (SamePools.alteracMinimum config moment _ bracket)
        ((Keeps.alteracMinimum config moment _ bracket).linked hfilled.linked)
      exact (hminimum.afterPremade template _).normalMatches moment template _
        (hready (Bool.eq_false_iff.mpr hqueued) template htemplate)

end Update

/-- Throughout an update whose normal checks all start ready, no pool holds a group
twice, every count is the number of distinct players, every new battleground has
its players, and no iterator is moved past the end. -/
theorem selection_throughout_update (config : Config) (moment : Moment) {s : State}
    {bracket : Bracket} (hlinked : s.Linked none) (hobserved : s.observed = [])
    (hcreations : s.creations = []) (hended : s.endIncremented = false)
    (hready : s.UpdateReady config moment bracket) :
    (∀ pool ∈ (s.update config moment bracket).observed,
      pool.Accurate (s.update config moment bracket).groups) ∧
    (config.isTesting = false → ∀ creation ∈ (s.update config moment bracket).creations,
      creation.Genuine) ∧
    (s.update config moment bracket).endIncremented = false := by
  have hpurged : (s.purged moment).Recorded config :=
    Recorded.purged hlinked hobserved hcreations hended
  have h := hpurged.update hready
  exact ⟨fun pool hpool => h.linked.accurate (h.observed pool hpool), h.creations, h.ended⟩

/-- One player on each side, and one is enough. -/
theorem selection_of_two_players :
    let config : Config :=
      { bgTypeId := .ws, template := some ⟨1, 10, 20⟩, premadeQueueGroupMinSize := 6,
        premadeGroupWaitForMatch := 0, invitationType := 1 }
    let request : JoinRequest :=
      { bgTypeId := .ws, bracketId := 4, isPremade := false, instanceId := 0, now := 0 }
    let s := (({} : State).addSolo ⟨1, .alliance⟩ request).addSolo ⟨2, .horde⟩ request
    let s' := s.update config { now := 1, find := fun _ => some {} } 4
    s'.creations.length = 1 ∧ ∀ creation ∈ s'.creations, creation.Genuine := by
  intro config request s s'
  have hlinked : s.Linked none := (linked_empty.addSolo rfl request).addSolo rfl request
  have hready : s.UpdateReady config { now := 1, find := fun _ => some {} } 4 := by
    intro _ template htemplate
    obtain rfl := Option.some.inj htemplate
    exact AttemptsReady.of_le_one _ (by decide +kernel) (by decide +kernel)
  exact ⟨by decide +kernel,
    (selection_throughout_update config _ hlinked rfl rfl rfl hready).2.1 rfl⟩

/-- Six players on each side and a minimum of twelve: the premade check selects the
groups and fails, the normal check selects them again, and a battleground is
created. -/
theorem selection_repeated_by_normal_check :
    let config : Config :=
      { bgTypeId := .ws, template := some ⟨12, 15, 30⟩, premadeQueueGroupMinSize := 6,
        premadeGroupWaitForMatch := 0, invitationType := 0 }
    let request : JoinRequest :=
      { bgTypeId := .ws, bracketId := 4, isPremade := false, instanceId := 0, now := 0 }
    let alliance : Party :=
      { members := [⟨1, .alliance⟩, ⟨2, .alliance⟩, ⟨3, .alliance⟩, ⟨4, .alliance⟩,
          ⟨5, .alliance⟩, ⟨6, .alliance⟩]
        membersCount := 6, distinct := by decide }
    let horde : Party :=
      { members := [⟨11, .horde⟩, ⟨12, .horde⟩, ⟨13, .horde⟩, ⟨14, .horde⟩, ⟨15, .horde⟩,
          ⟨16, .horde⟩]
        membersCount := 6, distinct := by decide }
    let s := run config {} [.addGroup ⟨1, .alliance⟩ (some alliance) request,
      .addGroup ⟨11, .horde⟩ (some horde) request]
    let s' := s.update config { now := 1, find := fun _ => some {} } 4
    ¬ (∀ pool ∈ s'.observed, pool.Accurate s'.groups) ∧
      ¬ (∀ creation ∈ s'.creations, creation.Genuine) := by
  intro config request alliance horde s s'
  refine ⟨?_, ?_⟩
  · intro haccurate
    have hnodup : ∀ pool ∈ s'.observed, pool.selectedGroups.Nodup :=
      fun pool hpool => (haccurate pool hpool).1
    revert hnodup
    decide +kernel
  · intro hgenuine
    have hnodup : ∀ creation ∈ s'.creations, (creation.pools .alliance).selectedGroups.Nodup :=
      fun creation hcreation => (hgenuine creation hcreation .alliance).1.1
    revert hnodup
    decide +kernel

end State

end TortoiseWow.Battleground
