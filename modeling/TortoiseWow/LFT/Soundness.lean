import TortoiseWow.LFT.Matcher

/-!
What the matcher offers: five players who wait for the instance, whole blocks, a role for
each that he can play, and each of them may group with the seed of the walk.
-/

namespace TortoiseWow.LFT

open Lib

def plays (entry : Entry) (role : Role) : Prop := entry.2.roleMask &&& role.bit ≠ 0

instance (entry : Entry) (role : Role) : Decidable (plays entry role) :=
  inferInstanceAs (Decidable (_ ≠ _))

theorem pickRole_some {roleMask : UInt8} {count : Role → Nat} {role : Role}
    (picked : pickRole roleMask (count .tank) (count .healer) (count .damage) = some role) :
    roleMask &&& role.bit ≠ 0 ∧ count role < role.capacity := by
  simp only [pickRole] at picked
  split at picked
  case isTrue found => cases picked; exact found
  split at picked
  case isTrue found => cases picked; exact found
  split at picked
  case isTrue found => cases picked; exact found
  cases picked

theorem pick_mono {alone chosen : Team} {entry : Entry} {role : Role}
    (ahead : ∀ r, alone.count r ≤ chosen.count r) (picked : alone.pick entry = some role)
    (room : chosen.count role < role.capacity) : chosen.pick entry = some role := by
  have never {r : Role} {n : Nat} (no : ¬ (entry.2.roleMask &&& r.bit ≠ 0 ∧ alone.count r < n)) :
      ¬ (entry.2.roleMask &&& r.bit ≠ 0 ∧ chosen.count r < n) :=
    fun both => no ⟨both.1, Nat.lt_of_le_of_lt (ahead r) both.2⟩
  simp only [Team.pick, pickRole] at picked
  split at picked
  case isTrue tank =>
    cases picked
    exact if_pos ⟨tank.1, room⟩
  split at picked
  case isTrue noTank healer =>
    cases picked
    rw [Team.pick, pickRole, if_neg (never noTank)]
    exact if_pos ⟨healer.1, room⟩
  split at picked
  case isTrue noTank noHealer damage =>
    cases picked
    rw [Team.pick, pickRole, if_neg (never noTank), if_neg (never noHealer)]
    exact if_pos ⟨damage.1, room⟩
  cases picked

def countRole (members : List (Entry × Role)) (role : Role) : Nat :=
  members.countP fun member => member.2 = role

theorem countRole_append (members others : List (Entry × Role)) (role : Role) :
    countRole (members ++ others) role = countRole members role + countRole others role :=
  List.countP_append

theorem length_eq_counts (members : List (Entry × Role)) :
    members.length =
      countRole members .tank + countRole members .healer + countRole members .damage := by
  induction members with
  | nil => rfl
  | cons member rest ih =>
      simp only [countRole, List.countP_cons, List.length_cons] at ih ⊢
      cases member.2 <;> simp <;> omega

namespace LFTManager

variable (lfg : LFTManager) (realm : Realm) (inst : String) (seed : Entry)

theorem mem_getQueueOrder {entry : Entry} : entry ∈ lfg.getQueueOrder ↔ entry ∈ lfg.queue.entries :=
  List.mem_insertionSort before

theorem getQueueOrder_nodup : lfg.getQueueOrder.Nodup :=
  (List.perm_insertionSort before _).nodup_iff.mpr (List.Nodup.of_map _ lfg.queue.keys_nodup)

theorem mem_block {entry other : Entry} :
    other ∈ lfg.block entry ↔
      other ∈ lfg.queue.entries ∧ blockLeader other = blockLeader entry := by
  rw [block, List.mem_filter, mem_getQueueOrder, decide_eq_true_eq]

def admits (entry : Entry) : Prop :=
  lfg.waitsFor inst entry = true ∧ realm.canQueuedPlayersGroup seed entry = true

/-- The roles that a block gets in a team: none of it is in the team yet, each may be chosen,
plays his role, and the roles have room. -/
structure Fitting (team fitted : Team) (entries : List Entry) (taken : List (Entry × Role)) :
    Prop where
  block : taken.map (·.1) = entries
  outside : ∀ entry ∈ entries, entry ∉ team.members
  admitted : ∀ entry ∈ entries, lfg.admits realm inst seed entry
  plays : ∀ member ∈ taken, plays member.1 member.2
  room : ∀ role, countRole taken role = 0 ∨
    fitted.count role + countRole taken role ≤ role.capacity

theorem fitBlock_some {team fitted result : Team} {entries : List Entry}
    (found : lfg.fitBlock realm inst seed team entries fitted = some result) :
    ∃ taken, lfg.Fitting realm inst seed team fitted entries taken ∧
      result.roles = fitted.roles ++ taken ∧
      ∀ role, result.count role = fitted.count role + countRole taken role := by
  induction entries generalizing fitted with
  | nil =>
      cases found
      refine ⟨[], ⟨rfl, ?_, ?_, ?_, fun _ => .inl rfl⟩, by simp, fun _ => rfl⟩
      · exact fun _ none => absurd none List.not_mem_nil
      · exact fun _ none => absurd none List.not_mem_nil
      · exact fun _ none => absurd none List.not_mem_nil
  | cons entry rest ih =>
      simp only [fitBlock] at found
      split at found
      case isTrue => cases found
      case isFalse may =>
        simp only [not_or, Classical.not_not] at may
        split at found
        case h_1 => cases found
        case h_2 role picked =>
          have ⟨can, room⟩ := pickRole_some picked
          obtain ⟨taken, fit, roles, count⟩ := ih found
          have added : ∀ r, (fitted.take entry role).count r + countRole taken r =
              fitted.count r + countRole ((entry, role) :: taken) r := by
            intro r
            simp only [Team.take, countRole, List.countP_cons, decide_eq_true_eq]
            by_cases same : role = r
            · subst same
              simp only [if_true]
              omega
            · simp only [same, if_neg (Ne.symm same), if_false, Nat.add_zero]
          refine ⟨(entry, role) :: taken, ⟨?_, ?_, ?_, ?_, fun r => ?_⟩, ?_, fun r => ?_⟩
          · rw [List.map_cons, fit.block]
          · exact List.forall_mem_cons.mpr ⟨may.1, fit.outside⟩
          · exact List.forall_mem_cons.mpr ⟨may.2, fit.admitted⟩
          · exact List.forall_mem_cons.mpr ⟨can, fit.plays⟩
          · have rest := fit.room r
            simp only [Team.take, countRole, List.countP_cons, decide_eq_true_eq] at rest ⊢
            by_cases same : role = r
            · subst same
              simp only [if_true] at rest ⊢
              omega
            · simp only [same, if_neg (Ne.symm same), if_false, Nat.add_zero] at rest ⊢
              exact rest
          · rw [roles, Team.take, List.append_assoc, List.singleton_append]
          · rw [count, added]

theorem consider_cases (team : Team) (candidate : Entry) :
    lfg.consider realm inst seed team candidate = team ∨
      ∃ taken, lfg.Fitting realm inst seed team team (lfg.block candidate) taken ∧
        team.roles.length + taken.length ≤ 5 ∧
        (lfg.consider realm inst seed team candidate).roles = team.roles ++ taken ∧
        ∀ role, (lfg.consider realm inst seed team candidate).count role =
          team.count role + countRole taken role := by
  simp only [consider]
  split
  case isTrue => exact .inl rfl
  split
  case isTrue => exact .inl rfl
  split
  case h_1 => exact .inl rfl
  case h_2 fitted found =>
    split
    case isTrue => exact .inl rfl
    case isFalse room =>
      obtain ⟨taken, fit, roles, count⟩ := lfg.fitBlock_some realm inst seed found
      rw [List.nil_append] at roles
      refine .inr
        ⟨taken, ⟨fit.block, fit.outside, fit.admitted, fit.plays, fit.room⟩, ?_, ?_, count⟩
      · rw [← roles]
        omega
      · rw [roles]

/-- What holds of every team on the walk. -/
structure TeamSound (team : Team) : Prop where
  queued : ∀ entry ∈ team.members, entry ∈ lfg.queue.entries
  admitted : ∀ entry ∈ team.members, lfg.admits realm inst seed entry
  plays : ∀ member ∈ team.roles, plays member.1 member.2
  nodup : team.members.Nodup
  whole : ∀ entry ∈ team.members, ∀ other ∈ lfg.queue.entries,
    blockLeader other = blockLeader entry → other ∈ team.members
  counted : ∀ role, team.count role = countRole team.roles role
  room : ∀ role, team.count role ≤ role.capacity

theorem teamSound_empty : lfg.TeamSound realm inst seed {} where
  queued := fun _ none => absurd none List.not_mem_nil
  admitted := fun _ none => absurd none List.not_mem_nil
  plays := fun _ none => absurd none List.not_mem_nil
  nodup := List.nodup_nil
  whole := fun _ none => absurd none List.not_mem_nil
  counted := fun _ => rfl
  room := fun _ => Nat.zero_le _

theorem consider_sound {team : Team} (sound : lfg.TeamSound realm inst seed team)
    (candidate : Entry) :
    lfg.TeamSound realm inst seed (lfg.consider realm inst seed team candidate) := by
  obtain same | ⟨taken, fit, -, roles, count⟩ := lfg.consider_cases realm inst seed team candidate
  · rw [same]
    exact sound
  · have members : (lfg.consider realm inst seed team candidate).members =
        team.members ++ lfg.block candidate := by
      rw [Team.members, roles, List.map_append, fit.block]
      rfl
    have inBlock : ∀ entry ∈ lfg.block candidate, entry ∈ lfg.queue.entries :=
      fun entry inside => (lfg.mem_block.mp inside).1
    constructor
    · rw [members]
      exact List.forall_mem_append.mpr ⟨sound.queued, inBlock⟩
    · rw [members]
      exact List.forall_mem_append.mpr ⟨sound.admitted, fit.admitted⟩
    · rw [roles]
      exact List.forall_mem_append.mpr ⟨sound.plays, fit.plays⟩
    · rw [members]
      refine List.nodup_append'.mpr ⟨sound.nodup, lfg.getQueueOrder_nodup.filter _, ?_⟩
      exact fun entry inTeam inBlock => fit.outside entry inBlock inTeam
    · rw [members]
      intro entry inside other queued same
      rcases List.mem_append.mp inside with inTeam | inBlock
      · exact List.mem_append_left _ (sound.whole entry inTeam other queued same)
      · have leader := (lfg.mem_block.mp inBlock).2
        exact List.mem_append_right _ (lfg.mem_block.mpr ⟨queued, same.trans leader⟩)
    · intro role
      rw [count, roles, countRole_append, sound.counted]
    · intro role
      have room := sound.room role
      rw [count]
      rcases fit.room role with none | enough
      · rw [none]
        exact room
      · exact enough

theorem buildTeam_sound : lfg.TeamSound realm inst seed (lfg.buildTeam realm inst seed) := by
  have keep : ∀ (order : List Entry) (team : Team), lfg.TeamSound realm inst seed team →
      lfg.TeamSound realm inst seed (order.foldl (lfg.consider realm inst seed) team) := by
    intro order
    induction order with
    | nil => exact fun _ sound => sound
    | cons candidate rest ih =>
        exact fun team sound => ih _ (lfg.consider_sound realm inst seed sound candidate)
  exact keep _ _ (lfg.teamSound_empty realm inst seed)

theorem findTeam_some {team : Team} (found : lfg.findTeam realm inst = some team) :
    ∃ seed ∈ lfg.queue.entries, lfg.waitsFor inst seed = true ∧
      team = lfg.buildTeam realm inst seed ∧ team.complete = true := by
  obtain ⟨seed, queued, here⟩ := List.exists_of_findSome?_eq_some found
  split at here
  case isFalse => cases here
  case isTrue waits =>
    dsimp only at here
    split at here
    case isFalse => cases here
    case isTrue complete =>
      cases here
      exact ⟨seed, lfg.mem_getQueueOrder.mp queued, waits, rfl, complete⟩

theorem complete_iff {team : Team} : team.complete = true ↔
    (∀ role, team.count role = role.capacity) ∧ team.roles.length = 5 := by
  simp only [Team.complete, Bool.and_eq_true, beq_iff_eq]
  constructor
  · rintro ⟨⟨⟨tank, healer⟩, damage⟩, five⟩
    refine ⟨fun role => ?_, five⟩
    cases role with
    | tank => exact tank
    | healer => exact healer
    | damage => exact damage
  · rintro ⟨full, five⟩
    exact ⟨⟨⟨full .tank, full .healer⟩, full .damage⟩, five⟩

theorem TeamSound.guids_nodup {team : Team} (sound : lfg.TeamSound realm inst seed team) :
    (team.roles.map fun member => member.1.1).Nodup := by
  have guids := sound.nodup.map_on fun entry inside other inside' same =>
    List.inj_on_of_nodup_map lfg.queue.keys_nodup (sound.queued entry inside)
      (sound.queued other inside') same
  rw [Team.members, List.map_map] at guids
  exact guids

theorem assignAll_perm (members : List (Entry × Role)) (roles : OrderedMap ObjectGuid Role)
    (distinct : (members.map fun member => member.1.1).Nodup)
    (new : ∀ member ∈ members, roles.find? member.1.1 = none) :
    (members.foldl (fun roles member => roles.assign member.1.1 member.2) roles).entries.Perm
      (roles.entries ++ members.map fun member => (member.1.1, member.2)) := by
  induction members generalizing roles with
  | nil => simp
  | cons member rest ih =>
      obtain ⟨differs, distinct⟩ := List.nodup_cons.mp distinct
      have first := new member List.mem_cons_self
      have still : ∀ other ∈ rest, (roles.assign member.1.1 member.2).find? other.1.1 = none := by
        intro other later
        have ne : other.1.1 ≠ member.1.1 := fun same =>
          differs (List.mem_map.mpr ⟨other, later, same⟩)
        rw [OrderedMap.find?_assign_of_ne _ ne]
        exact new other (List.mem_cons_of_mem _ later)
      have one : (roles.assign member.1.1 member.2).entries.Perm
          (roles.entries ++ [(member.1.1, member.2)]) := by
        refine (roles.perm_assign _ _).trans ?_
        rw [OrderedMap.erase_of_none first]
        exact @List.perm_append_comm _ [(member.1.1, member.2)] roles.entries
      have others := (ih (roles.assign member.1.1 member.2) distinct still).trans
        (one.append_right _)
      rw [List.append_assoc] at others
      exact others

theorem selectedRoles_perm {team : Team} (sound : lfg.TeamSound realm inst seed team) :
    (selectedRoles team).entries.Perm (team.roles.map fun member => (member.1.1, member.2)) :=
  assignAll_perm team.roles .empty (sound.guids_nodup lfg realm inst seed)
    fun _ _ => OrderedMap.find?_empty _

theorem offers_offerTo (offerId : UInt32) (members : List (Entry × Role)) (lfg : LFTManager) :
    (members.foldl (offerTo offerId) lfg).offers = lfg.offers ∧
      (members.foldl (offerTo offerId) lfg).nextOfferId = lfg.nextOfferId := by
  induction members generalizing lfg with
  | nil => exact ⟨rfl, rfl⟩
  | cons member rest ih => exact ih (offerTo offerId lfg member)

theorem playerOffers_offerTo {id : UInt32} (members : List (Entry × Role)) (lfg : LFTManager)
    (guid : ObjectGuid) : (members.foldl (offerTo id) lfg).playerOffers.find? guid =
      if guid ∈ members.map (·.1.1) then some id else lfg.playerOffers.find? guid := by
  induction members generalizing lfg with
  | nil => rfl
  | cons first rest ih =>
      rw [List.foldl_cons, ih, offerTo]
      grind [OrderedMap.find?_assign_self, OrderedMap.find?_assign_of_ne]

theorem offers_makeOffer (team : Team) :
    (lfg.makeOffer inst team).offers =
        lfg.offers.assign lfg.nextOfferId { inst, roles := selectedRoles team } ∧
      (lfg.makeOffer inst team).nextOfferId = lfg.nextOfferId + 1 :=
  offers_offerTo lfg.nextOfferId team.roles _

/-- Both teams may be together, and neither hardcore mode nor ten levels divide them. -/
structure NearlyGroup (player other : Player) : Prop where
  team : realm.allowTwoSideInteractionGroup = true ∨ player.team = other.team
  hardcore : player.isHardcore = other.isHardcore
  level : player.isHardcore = true → ((player.level : Int) - other.level).natAbs ≤ 10

theorem canPlayersGroup_iff (leader member : Player) :
    realm.canPlayersGroup leader member = true ↔
      (realm.allowTwoSideInteractionGroup = true ∨ leader.team = member.team) ∧
      leader.isHardcore = member.isHardcore ∧
      (leader.isHardcore = true → ((leader.level : Int) - member.level).natAbs ≤ 5) := by
  simp only [Realm.canPlayersGroup, Player.handleHardcoreInteraction]
  cases realm.allowTwoSideInteractionGroup <;> cases leader.isHardcore <;>
    cases member.isHardcore <;> by_cases team : leader.team = member.team <;>
    by_cases level : 5 < ((leader.level : Int) - member.level).natAbs <;>
    simp [team, level] <;> omega

theorem nearlyGroup_of_seed {player other seedPlayer : Player}
    (can : realm.canPlayersGroup seedPlayer player = true)
    (can' : realm.canPlayersGroup seedPlayer other = true) : NearlyGroup realm player other := by
  obtain ⟨team, hardcore, level⟩ := (canPlayersGroup_iff realm _ _).mp can
  obtain ⟨team', hardcore', level'⟩ := (canPlayersGroup_iff realm _ _).mp can'
  refine ⟨?_, hardcore.symm.trans hardcore', fun isHardcore => ?_⟩
  · rcases team with both | same
    · exact .inl both
    · exact team'.imp_right fun same' => same.symm.trans same'
  · have near := level (hardcore.trans isHardcore)
    have near' := level' (hardcore.trans isHardcore)
    omega

/-- What an offer of the matcher is made of. -/
structure SoundOffer (roles : OrderedMap ObjectGuid Role) : Prop where
  five : roles.entries.length = 5
  composition : ∀ role, (roles.entries.countP fun member => member.2 = role) = role.capacity
  member : ∀ guid role, roles.find? guid = some role →
    ∃ queued, lfg.queue.find? guid = some queued ∧ lfg.playerOffers.find? guid = none ∧
      inst ∈ queued.instances ∧ plays (guid, queued) role
  whole : ∀ guid queued other otherQueued, roles.find? guid ≠ none →
    lfg.queue.find? guid = some queued → lfg.queue.find? other = some otherQueued →
    blockLeader (other, otherQueued) = blockLeader (guid, queued) → roles.find? other ≠ none
  seed : ∃ seedGuid seed, lfg.queue.find? seedGuid = some seed ∧
    lfg.playerOffers.find? seedGuid = none ∧ inst ∈ seed.instances ∧
    (∀ guid queued, roles.find? guid ≠ none → lfg.queue.find? guid = some queued →
      realm.canQueuedPlayersGroup (seedGuid, seed) (guid, queued) = true) ∧
    (realm.getPlayer seedGuid ≠ none →
      ∀ guid other player otherPlayer, roles.find? guid ≠ none → roles.find? other ≠ none →
        realm.getPlayer guid = some player → realm.getPlayer other = some otherPlayer →
        NearlyGroup realm player otherPlayer)

theorem waitsFor_iff {entry : Entry} : lfg.waitsFor inst entry = true ↔
    lfg.playerOffers.find? entry.1 = none ∧ inst ∈ entry.2.instances := by
  simp [waitsFor]

/-- Every offer that is built is sound. -/
theorem tryBuildOffer_sound {lfg' : LFTManager}
    (built : lfg.tryBuildOfferForInstance realm inst = (lfg', true)) :
    ∃ offer, lfg'.offers.find? lfg.nextOfferId = some offer ∧ offer.inst = inst ∧
      lfg.SoundOffer realm inst offer.roles := by
  simp only [tryBuildOfferForInstance] at built
  split at built
  case h_1 => cases built
  case h_2 team found =>
    cases built
    obtain ⟨seed, queuedSeed, waits, rfl, complete⟩ := lfg.findTeam_some realm inst found
    have sound := lfg.buildTeam_sound realm inst seed
    generalize lfg.buildTeam realm inst seed = team at sound complete
    obtain ⟨full, five⟩ := complete_iff.mp complete
    have perm := lfg.selectedRoles_perm realm inst seed sound
    -- who is in the offer, and who he is in the queue
    have listed : ∀ guid role, (selectedRoles team).find? guid = some role ↔
        ∃ queued, ((guid, queued), role) ∈ team.roles := by
      intro guid role
      rw [OrderedMap.find?_eq_some_iff, perm.mem_iff, List.mem_map]
      constructor
      · rintro ⟨⟨⟨guid', queued⟩, role'⟩, inside, same⟩
        cases same
        exact ⟨queued, inside⟩
      · rintro ⟨queued, inside⟩
        exact ⟨_, inside, rfl⟩
    have chosen : ∀ guid queued, (selectedRoles team).find? guid ≠ none →
        lfg.queue.find? guid = some queued → (guid, queued) ∈ team.members := by
      intro guid queued present found
      obtain ⟨role, has⟩ := Option.ne_none_iff_exists'.mp present
      obtain ⟨queued', inside⟩ := (listed guid role).mp has
      have inTeam : (guid, queued') ∈ team.members := List.mem_map_of_mem inside
      have found' := OrderedMap.find?_of_mem (sound.queued _ inTeam)
      cases found.symm.trans found'
      exact inTeam
    refine ⟨{ inst, roles := selectedRoles team }, ?_, rfl, ?_⟩
    · rw [(lfg.offers_makeOffer inst team).1]
      exact OrderedMap.find?_assign_self _ _ _
    · constructor
      · rw [perm.length_eq, List.length_map, five]
      · intro role
        rw [perm.countP_eq, List.countP_map, ← full role, sound.counted]
        rfl
      · intro guid role has
        obtain ⟨queued, inside⟩ := (listed guid role).mp has
        have inTeam : (guid, queued) ∈ team.members := List.mem_map_of_mem inside
        obtain ⟨free, lists⟩ := (lfg.waitsFor_iff inst).mp (sound.admitted _ inTeam).1
        exact ⟨queued, OrderedMap.find?_of_mem (sound.queued _ inTeam), free, lists,
          sound.plays _ inside⟩
      · intro guid queued other otherQueued present found found' same
        have inTeam := chosen guid queued present found
        have together := sound.whole _ inTeam (other, otherQueued)
          (OrderedMap.find?_eq_some found') same
        obtain ⟨⟨⟨guid', queued'⟩, role⟩, inside, eq⟩ := List.mem_map.mp together
        cases eq
        rw [(listed other role).mpr ⟨_, inside⟩]
        exact Option.some_ne_none _
      · obtain ⟨free, lists⟩ := (lfg.waitsFor_iff inst).mp waits
        have groups : ∀ guid queued, (selectedRoles team).find? guid ≠ none →
            lfg.queue.find? guid = some queued →
            realm.canQueuedPlayersGroup seed (guid, queued) = true :=
          fun guid queued present found => (sound.admitted _ (chosen guid queued present found)).2
        refine ⟨seed.1, seed.2, OrderedMap.find?_of_mem queuedSeed, free, lists, groups, ?_⟩
        intro online guid other player otherPlayer present present' here here'
        obtain ⟨seedPlayer, seedHere⟩ := Option.ne_none_iff_exists'.mp online
        have with_seed : ∀ g p, (selectedRoles team).find? g ≠ none → realm.getPlayer g = some p →
            realm.canPlayersGroup seedPlayer p = true := by
          intro g p present here
          obtain ⟨role, has⟩ := Option.ne_none_iff_exists'.mp present
          obtain ⟨queued, inside⟩ := (listed g role).mp has
          have inTeam : (g, queued) ∈ team.members := List.mem_map_of_mem inside
          have can := (sound.admitted _ inTeam).2
          simp only [Realm.canQueuedPlayersGroup, seedHere, here] at can
          exact can
        exact nearlyGroup_of_seed realm (with_seed guid player present here)
          (with_seed other otherPlayer present' here')

def queuedWith (leader guid : ObjectGuid) (roleMask : UInt8) (isHardcore : Bool) : Entry :=
  (guid, { queueLeaderGuid := leader, team := 469, isHardcore, queueOrder := guid,
           instances := ["The Stockade"], roleMask, assignedRole := pickRole roleMask 0 0 0 })

def solo (guid : ObjectGuid) (roleMask : UInt8) (isHardcore : Bool) : Entry :=
  queuedWith guid guid roleMask isHardcore

def queueOf (entries : List Entry) : LFTManager :=
  { queue := entries.foldl (fun queue entry => queue.assign entry.1 entry.2) .empty }

def hardcoreRealm : Realm :=
  { getPlayer := fun guid =>
      if guid = 2 then some { team := 469, level := 25, isHardcore := true }
      else if guid = 3 then some { team := 469, level := 35, isHardcore := true }
      else some { team := 469, level := 30, isHardcore := true } }

def hardcoreQueue : LFTManager :=
  queueOf [solo 1 1 true, solo 2 2 true, solo 3 4 true, solo 4 4 true, solo 5 4 true]

theorem hardcoreQueue_sound :
    ∃ offer,
      (hardcoreQueue.tryBuildOfferForInstance hardcoreRealm "The Stockade").1.offers.find? 1 =
        some offer ∧ offer.inst = "The Stockade" ∧
      hardcoreQueue.SoundOffer hardcoreRealm "The Stockade" offer.roles :=
  hardcoreQueue.tryBuildOffer_sound hardcoreRealm "The Stockade"
    (Prod.ext rfl (by decide +kernel))

/-- The second and the third are in the offer and may not group with each other. -/
theorem hardcoreQueue_levels :
    (hardcoreQueue.tryBuildOfferForInstance hardcoreRealm "The Stockade").2 = true ∧
      ¬ ∀ offer, (hardcoreQueue.tryBuildOfferForInstance hardcoreRealm
          "The Stockade").1.offers.find? 1 = some offer →
        ∀ guid other player otherPlayer, offer.roles.find? guid ≠ none →
          offer.roles.find? other ≠ none → hardcoreRealm.getPlayer guid = some player →
          hardcoreRealm.getPlayer other = some otherPlayer →
          hardcoreRealm.canPlayersGroup player otherPlayer = true := by
  refine ⟨by decide +kernel, fun pairwise => ?_⟩
  have both : ((hardcoreQueue.tryBuildOfferForInstance hardcoreRealm
      "The Stockade").1.offers.find? 1).map (fun offer =>
        ((offer.roles.find? 2).isSome, (offer.roles.find? 3).isSome)) = some (true, true) := by
    decide +kernel
  obtain ⟨offer, found, listed⟩ := Option.map_eq_some_iff.mp both
  have second : (offer.roles.find? 2).isSome = true := congrArg Prod.fst listed
  have third : (offer.roles.find? 3).isSome = true := congrArg Prod.snd listed
  have can := pairwise offer found 2 3 { team := 469, level := 25, isHardcore := true }
    { team := 469, level := 35, isHardcore := true } (Option.isSome_iff_ne_none.mp second)
    (Option.isSome_iff_ne_none.mp third) rfl rfl
  exact absurd can (by decide)

end LFTManager

end TortoiseWow.LFT
