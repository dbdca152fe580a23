import TortoiseWow.LFT.Soundness

/-!
When the matcher finds a team that there is. It gives every player the first role of his
mask that is free and undoes nothing, so a player who can play several roles may take one
that another needs, and a player who stands before a party may take a role that the party
needs. Without these two obstacles the walk from a member of the team ends with an offer:
who is not of the team can only fill roles earlier than the team alone would.
-/

namespace TortoiseWow.LFT

open Lib

instance : Std.Total before where
  total left right := by
    rcases lt_trichotomy left.2.queueOrder right.2.queueOrder with earlier | same | later
    · exact .inl (.inl earlier)
    · exact (le_total left.1 right.1).imp (fun le => .inr ⟨same, le⟩) fun le => .inr ⟨same.symm, le⟩
    · exact .inr (.inl later)

instance : IsTrans Entry before where
  trans left middle right := by
    rintro (earlier | ⟨same, le⟩) (earlier' | ⟨same', le'⟩)
    · exact .inl (earlier.trans earlier')
    · exact .inl (same' ▸ earlier)
    · exact .inl (same ▸ earlier')
    · exact .inr ⟨same.trans same', le.trans le'⟩

instance lawfulBEqEntry : LawfulBEq Entry := inferInstance

namespace LFTManager

variable (lfg : LFTManager) (realm : Realm) (inst : String)

/-- Five players who could be offered together: whole blocks, not in an offer, who all list
the instance, may group with each other, and can play one tank, one healer and three
damage dealers. -/
structure Feasible (team : List Entry) : Prop where
  queued : ∀ entry ∈ team, entry ∈ lfg.queue.entries
  waits : ∀ entry ∈ team, lfg.waitsFor inst entry = true
  nodup : team.Nodup
  five : team.length = 5
  whole : ∀ entry ∈ team, ∀ other ∈ lfg.queue.entries,
    blockLeader other = blockLeader entry → other ∈ team
  groupable : ∀ entry ∈ team, ∀ other ∈ team, entry ≠ other →
    realm.canQueuedPlayersGroup entry other = true
  playable : ∃ assigned : Entry → Role, (∀ entry ∈ team, plays entry (assigned entry)) ∧
    ∀ role, (team.countP fun entry => assigned entry = role) = role.capacity

/-- Each of the entries in turn takes the first role of his mask with room, if everybody finds
one. -/
def takeAll (chosen : Team) : List Entry → Option Team
  | [] => some chosen
  | entry :: rest =>
      match chosen.pick entry with
      | none => none
      | some role => takeAll (chosen.take entry role) rest

def join (turn : List Entry) (entry : Entry) : List Entry :=
  if entry ∈ turn then turn else turn ++ lfg.block entry

/-- The members of the team in queue order, block by block. -/
def turnOrder (team order : List Entry) : List Entry :=
  (order.filter (· ∈ team)).foldl lfg.join []

/-- On their own, in queue order and block by block, all members of the team find a role. -/
def RolesInTurn (team : List Entry) : Prop :=
  (takeAll {} (lfg.turnOrder team lfg.getQueueOrder)).isSome = true

def PartiesFirst (team : List Entry) (seed : Entry) : Prop :=
  ∀ entry ∈ team, (∃ other ∈ team, other ≠ entry ∧ blockLeader other = blockLeader entry) →
    ∃ first ∈ team, blockLeader first = blockLeader entry ∧
      ∀ candidate ∈ lfg.queue.entries, lfg.admits realm inst seed candidate →
        candidate ∉ team → ¬ before candidate first

theorem getQueueOrder_sorted : lfg.getQueueOrder.Pairwise before :=
  List.pairwise_insertionSort before _

theorem canQueuedPlayersGroup_self (entry : Entry) :
    realm.canQueuedPlayersGroup entry entry = true := by
  simp only [Realm.canQueuedPlayersGroup]
  cases realm.getPlayer entry.1 with
  | none => simp
  | some player =>
      refine (canPlayersGroup_iff realm player player).mpr ⟨.inr rfl, rfl, fun _ => ?_⟩
      rw [Int.sub_self]
      decide

section Walk

variable {lfg realm inst} {team : List Entry} {seed : Entry}
  (feasible : lfg.Feasible realm inst team) (inTeam : seed ∈ team)

theorem Feasible.admitted (feasible : lfg.Feasible realm inst team) (inTeam : seed ∈ team)
    {entry : Entry} (member : entry ∈ team) : lfg.admits realm inst seed entry := by
  refine ⟨feasible.waits entry member, ?_⟩
  by_cases same : seed = entry
  · rw [same]
    exact canQueuedPlayersGroup_self realm entry
  · exact feasible.groupable seed inTeam entry member same

theorem block_nodup (entry : Entry) : (lfg.block entry).Nodup := lfg.getQueueOrder_nodup.filter _

theorem Feasible.block_subset (feasible : lfg.Feasible realm inst team) {entry : Entry}
    (member : entry ∈ team) : ∀ other ∈ lfg.block entry, other ∈ team := by
  intro other inside
  obtain ⟨queued, same⟩ := lfg.mem_block.mp inside
  exact feasible.whole entry member other queued same

def Alone (team : List Entry) (entry : Entry) : Prop :=
  ∀ other ∈ team, blockLeader other = blockLeader entry → other = entry

theorem takeAll_append (chosen : Team) (entries rest : List Entry) :
    takeAll chosen (entries ++ rest) = (takeAll chosen entries).bind fun next =>
      takeAll next rest := by
  induction entries generalizing chosen with
  | nil => rfl
  | cons entry entries ih =>
      simp only [List.cons_append, takeAll]
      cases chosen.pick entry with
      | none => rfl
      | some role => exact ih (chosen.take entry role)

/-- The players before do not matter but for the roles they have. -/
theorem takeAll_roles (roles : List (Entry × Role)) (chosen : Team) (entries : List Entry) :
    takeAll { chosen with roles := roles ++ chosen.roles } entries =
      (takeAll chosen entries).map fun next => { next with roles := roles ++ next.roles } := by
  induction entries generalizing chosen with
  | nil => rfl
  | cons entry entries ih =>
      have same : ({ chosen with roles := roles ++ chosen.roles } : Team).pick entry =
          chosen.pick entry := rfl
      simp only [takeAll, same]
      cases chosen.pick entry with
      | none => rfl
      | some role =>
          rw [← ih (chosen.take entry role)]
          simp only [Team.take, List.append_assoc]

theorem takeAll_some {chosen next : Team} {entries : List Entry}
    (found : takeAll chosen entries = some next) :
    next.members = chosen.members ++ entries ∧
      ((∀ role, chosen.count role ≤ role.capacity) → ∀ role, next.count role ≤ role.capacity) ∧
      ((∀ role, chosen.count role = countRole chosen.roles role) →
        ∀ role, next.count role = countRole next.roles role) := by
  induction entries generalizing chosen with
  | nil =>
      cases found
      exact ⟨(List.append_nil _).symm, id, id⟩
  | cons entry entries ih =>
      simp only [takeAll] at found
      split at found
      case h_1 => cases found
      case h_2 role picked =>
        obtain ⟨members, room, counted⟩ := ih found
        have free := (pickRole_some picked).2
        refine ⟨?_, fun bound => room fun r => ?_, fun same => counted fun r => ?_⟩
        · rw [members, Team.members, Team.take, List.map_append, List.append_assoc]
          rfl
        · simp only [Team.take]
          split
          · rename_i eq
            exact eq ▸ free
          · exact bound r
        · rw [Team.take, countRole_append, ← same]
          by_cases eq : role = r
          · subst eq
            simp [countRole]
          · simp [countRole, eq, Ne.symm eq]

/-- In the loop over a block nothing but the roles decides when all of it may be chosen. -/
theorem fitBlock_eq {base fitted : Team} {entries : List Entry}
    (may : ∀ entry ∈ entries, entry ∉ base.members ∧ lfg.admits realm inst seed entry) :
    lfg.fitBlock realm inst seed base entries fitted = takeAll fitted entries := by
  induction entries generalizing fitted with
  | nil => rfl
  | cons entry entries ih =>
      obtain ⟨⟨outside, waits, groups⟩, may⟩ := List.forall_mem_cons.mp may
      rw [fitBlock, if_neg (by simp [outside, waits, groups]), takeAll]
      cases fitted.pick entry with
      | none => rfl
      | some role => exact ih may

theorem consider_takes {chosen next : Team} {candidate : Entry}
    (may : ∀ entry ∈ lfg.block candidate, entry ∉ chosen.members ∧
      lfg.admits realm inst seed entry)
    (queued : candidate ∈ lfg.queue.entries)
    (small : chosen.roles.length + (lfg.block candidate).length ≤ 5)
    (found : takeAll chosen (lfg.block candidate) = some next) :
    lfg.consider realm inst seed chosen candidate = next := by
  have inBlock : candidate ∈ lfg.block candidate := lfg.mem_block.mpr ⟨queued, rfl⟩
  obtain ⟨outside, waits, groups⟩ := may candidate inBlock
  have split := takeAll_roles chosen.roles { chosen with roles := [] } (lfg.block candidate)
  simp only [List.append_nil] at split
  obtain ⟨fitted, fits, rfl⟩ := Option.map_eq_some_iff.mp (split.symm.trans found)
  have members := (takeAll_some fits).1
  have length : fitted.roles.length = (lfg.block candidate).length := by
    rw [← List.length_map (fun member : Entry × Role => member.1)]
    exact congrArg List.length members
  have some := List.length_pos_of_mem inBlock
  rw [consider, if_neg (by omega), if_neg (by simp [outside, waits, groups]), fitBlock_eq may, fits]
  simp only
  rw [if_neg]
  rintro (none | many)
  · rw [none, List.length_nil] at length
    omega
  · omega

theorem count_mono (chosen : Team) (candidate : Entry) (role : Role) :
    chosen.count role ≤ (lfg.consider realm inst seed chosen candidate).count role := by
  obtain same | ⟨taken, -, -, -, count⟩ := lfg.consider_cases realm inst seed chosen candidate
  · rw [same]
  · rw [count]
    exact Nat.le_add_right _ _

theorem consider_skip {chosen : Team} {candidate : Entry}
    (skip : candidate ∈ chosen.members ∨ ¬ lfg.admits realm inst seed candidate) :
    lfg.consider realm inst seed chosen candidate = chosen := by
  rw [consider]
  split
  case isTrue => rfl
  case isFalse =>
    refine if_pos ?_
    rw [admits, not_and_or] at skip
    exact skip

theorem block_alone (feasible : lfg.Feasible realm inst team) {entry : Entry}
    (member : entry ∈ team) (alone : Alone team entry) : lfg.block entry = [entry] := by
  have same : ∀ other ∈ lfg.block entry, other = entry := fun other inside =>
    alone other (feasible.block_subset member other inside) (lfg.mem_block.mp inside).2
  have nodup : (lfg.block entry).Nodup := block_nodup entry
  have inside : entry ∈ lfg.block entry := lfg.mem_block.mpr ⟨feasible.queued entry member, rfl⟩
  cases found : lfg.block entry with
  | nil =>
      rw [found] at inside
      exact absurd inside List.not_mem_nil
  | cons first rest =>
      rw [found] at same nodup
      have here := same first List.mem_cons_self
      have none : rest = [] := by
        refine List.eq_nil_iff_forall_not_mem.mpr fun other later => ?_
        have eq := same other (List.mem_cons_of_mem _ later)
        exact (List.nodup_cons.mp nodup).1 (here.trans eq.symm ▸ later)
      rw [here, none]

theorem turnOrder_concat (order : List Entry) (entry : Entry) :
    lfg.turnOrder team (order ++ [entry]) =
      if entry ∈ team then lfg.join (lfg.turnOrder team order) entry
      else lfg.turnOrder team order := by
  rw [turnOrder, List.filter_append, List.foldl_append, turnOrder, List.filter_singleton]
  by_cases member : entry ∈ team
  · rw [if_pos member, decide_eq_true member]
    rfl
  · rw [if_neg member, decide_eq_false member]
    rfl

/-- Those whose blocks have begun. -/
theorem mem_turnOrder (feasible : lfg.Feasible realm inst team) {order : List Entry}
    (queued : ∀ entry ∈ order, entry ∈ lfg.queue.entries) {entry : Entry} :
    entry ∈ lfg.turnOrder team order ↔
      entry ∈ team ∧ ∃ first ∈ order, blockLeader first = blockLeader entry := by
  induction order using List.reverseRecOn generalizing entry with
  | nil => simp [turnOrder]
  | append_singleton order last ih =>
      have ih {entry : Entry} :=
        @ih (fun e inside => queued e (List.mem_append_left _ inside)) entry
      have lastQueued := queued last (List.mem_append_right _ List.mem_cons_self)
      have more : (∃ first ∈ order ++ [last], blockLeader first = blockLeader entry) ↔
          (∃ first ∈ order, blockLeader first = blockLeader entry) ∨
            blockLeader last = blockLeader entry := by
        simp only [List.mem_append, List.mem_singleton, or_and_right, exists_or, exists_eq_left]
      rw [turnOrder_concat, more, and_or_left, ← ih]
      by_cases member : last ∈ team
      · rw [if_pos member, join]
        split
        · rename_i begun
          obtain ⟨-, first, inside, leader⟩ := ih.mp begun
          refine ⟨Or.inl, fun here => here.elim id fun same => ?_⟩
          exact ih.mpr ⟨same.1, first, inside, leader.trans same.2⟩
        · rw [List.mem_append, mem_block]
          refine or_congr_right ⟨fun same => ?_, fun same => ?_⟩
          · exact ⟨feasible.whole last member entry same.1 same.2, same.2.symm⟩
          · exact ⟨feasible.queued entry same.1, same.2.symm⟩
      · rw [if_neg member]
        refine ⟨Or.inl, fun here => here.resolve_right fun same => member ?_⟩
        exact feasible.whole entry same.1 last lastQueued same.2

theorem turnOrder_nodup (feasible : lfg.Feasible realm inst team) {order : List Entry}
    (queued : ∀ entry ∈ order, entry ∈ lfg.queue.entries) :
    (lfg.turnOrder team order).Nodup := by
  induction order using List.reverseRecOn with
  | nil => exact List.nodup_nil
  | append_singleton order last ih =>
      have queued' := fun e inside => queued e (List.mem_append_left [last] inside)
      rw [turnOrder_concat]
      split
      · rename_i member
        rw [join]
        split
        · exact ih queued'
        · rename_i new
          refine List.nodup_append'.mpr
            ⟨ih queued', block_nodup last, fun other begun inBlock => new ?_⟩
          obtain ⟨-, first, inside, leader⟩ := (mem_turnOrder feasible queued').mp begun
          have same := (lfg.mem_block.mp inBlock).2
          exact (mem_turnOrder feasible queued').mpr ⟨member, first, inside, leader.trans same⟩
      · exact ih queued'

theorem turnOrder_length_le (feasible : lfg.Feasible realm inst team) {order : List Entry}
    (queued : ∀ entry ∈ order, entry ∈ lfg.queue.entries) :
    (lfg.turnOrder team order).length ≤ 5 := by
  rw [← feasible.five]
  refine (List.subperm_of_subset (turnOrder_nodup feasible queued) fun entry inside => ?_).length_le
  exact ((mem_turnOrder feasible queued).mp inside).1

/-- What holds of the team after the candidates `seen`, beside what the members of `team` would
have taken by themselves: no role is taken less often, and it is the same while nobody else has
been considered. -/
structure Progress (lfg : LFTManager) (realm : Realm) (inst : String) (team : List Entry)
    (seed : Entry) (seen : List Entry) (chosen alone : Team) : Prop where
  sound : lfg.TeamSound realm inst seed chosen
  own : takeAll {} (lfg.turnOrder team seen) = some alone
  ahead : ∀ role, alone.count role ≤ chosen.count role
  same : (∀ candidate ∈ seen, lfg.admits realm inst seed candidate → candidate ∈ team) →
    chosen = alone
  begun : ∀ entry ∈ chosen.members, ∃ first ∈ seen, blockLeader first = blockLeader entry

theorem begun_consider {chosen : Team} {seen : List Entry} (candidate : Entry)
    (begun : ∀ entry ∈ chosen.members, ∃ first ∈ seen, blockLeader first = blockLeader entry) :
    ∀ entry ∈ (lfg.consider realm inst seed chosen candidate).members,
      ∃ first ∈ seen ++ [candidate], blockLeader first = blockLeader entry := by
  have kept : ∀ entry ∈ chosen.members,
      ∃ first ∈ seen ++ [candidate], blockLeader first = blockLeader entry := by
    intro entry inside
    obtain ⟨first, there, leader⟩ := begun entry inside
    exact ⟨first, List.mem_append_left _ there, leader⟩
  obtain same | ⟨taken, fit, -, roles, -⟩ := lfg.consider_cases realm inst seed chosen candidate
  · rw [same]
    exact kept
  · intro entry inside
    rw [Team.members, roles, List.map_append, fit.block] at inside
    rcases List.mem_append.mp inside with before | inBlock
    · exact kept entry before
    · exact ⟨candidate, List.mem_append_right _ List.mem_cons_self,
        (lfg.mem_block.mp inBlock).2.symm⟩

theorem length_lt_of_room {chosen : Team}
    (sound : lfg.TeamSound realm inst seed chosen) {role : Role}
    (room : chosen.count role < role.capacity) : chosen.roles.length < 5 := by
  have length := length_eq_counts chosen.roles
  rw [← sound.counted, ← sound.counted, ← sound.counted] at length
  have tank := sound.room .tank
  have healer := sound.room .healer
  have damage := sound.room .damage
  cases role <;> simp only [Role.capacity] at room tank healer damage <;> omega

section Step

variable (feasible : lfg.Feasible realm inst team) (inTeam : seed ∈ team) {seen : List Entry}
  (queued : ∀ entry ∈ seen, entry ∈ lfg.queue.entries) {candidate : Entry}
  (member : candidate ∈ team) (new : candidate ∉ lfg.turnOrder team seen) {chosen alone next : Team}
  (progress : Progress lfg realm inst team seed seen chosen alone)
include feasible inTeam queued member new progress

theorem Progress.may : ∀ entry ∈ lfg.block candidate,
    entry ∉ chosen.members ∧ lfg.admits realm inst seed entry := by
  intro entry inBlock
  have inside := feasible.block_subset member entry inBlock
  refine ⟨fun there => new ?_, feasible.admitted inTeam inside⟩
  obtain ⟨first, seen, leader⟩ := progress.begun entry there
  have same := (lfg.mem_block.mp inBlock).2
  exact (mem_turnOrder feasible queued).mpr ⟨member, first, seen, leader.trans same⟩

/-- If the others have changed nothing yet, the block joins as it would without them. -/
theorem Progress.consider_same (found : takeAll alone (lfg.block candidate) = some next)
    (same : chosen = alone) : lfg.consider realm inst seed chosen candidate = next := by
  have may := progress.may feasible inTeam queued member new
  have small : (lfg.turnOrder team (seen ++ [candidate])).length ≤ 5 := by
    refine turnOrder_length_le feasible fun entry inside => ?_
    rcases List.mem_append.mp inside with before | last
    · exact queued entry before
    · rw [List.mem_singleton.mp last]
      exact feasible.queued candidate member
  have members := (takeAll_some progress.own).1
  rw [turnOrder_concat, if_pos member, join, if_neg new, List.length_append] at small
  refine consider_takes may (feasible.queued candidate member) ?_ (same ▸ found)
  have length := congrArg List.length members
  rw [Team.members, List.length_map, Team.members, List.map_nil, List.nil_append, ← same] at length
  rw [length]
  exact small

theorem Progress.consider_ahead (only : lfg.block candidate = [candidate])
    (found : takeAll alone (lfg.block candidate) = some next) (role : Role) :
    next.count role ≤ (lfg.consider realm inst seed chosen candidate).count role := by
  have may := progress.may feasible inTeam queued member new
  rw [only, takeAll] at found
  split at found
  case h_1 => cases found
  case h_2 own picked =>
    cases found
    have free := (pickRole_some picked).2
    have mono := @count_mono lfg realm inst seed chosen candidate role
    have ahead := progress.ahead role
    by_cases mine : role = own
    · subst mine
      simp only [Team.take, if_true]
      by_cases room : chosen.count role < role.capacity
      · have takes : takeAll chosen (lfg.block candidate) = some (chosen.take candidate role) := by
          rw [only, takeAll, pick_mono progress.ahead picked room]
          rfl
        have small := length_lt_of_room progress.sound room
        rw [consider_takes may (feasible.queued candidate member) (by rw [only]; exact small) takes]
        simp only [Team.take, if_true]
        omega
      · omega
    · simp only [Team.take, if_neg mine]
      omega

end Step

theorem alone_of_passer (feasible : lfg.Feasible realm inst team)
    (partiesFirst : lfg.PartiesFirst realm inst team seed) {seen rest : List Entry}
    {candidate passer : Entry} (order : lfg.getQueueOrder = seen ++ candidate :: rest)
    (queued : ∀ entry ∈ seen, entry ∈ lfg.queue.entries) (member : candidate ∈ team)
    (new : candidate ∉ lfg.turnOrder team seen) (passed : passer ∈ seen)
    (admitted : lfg.admits realm inst seed passer) (outsider : passer ∉ team) :
    Alone team candidate := by
  intro other inside leader
  by_contra differs
  obtain ⟨first, firstIn, leader', unhindered⟩ :=
    partiesFirst candidate member ⟨other, inside, differs, leader⟩
  have later : first ∈ candidate :: rest := by
    have there := lfg.mem_getQueueOrder.mpr (feasible.queued first firstIn)
    rw [order] at there
    refine (List.mem_append.mp there).resolve_left fun begun => new ?_
    exact (mem_turnOrder feasible queued).mpr ⟨member, first, begun, leader'⟩
  have sorted := lfg.getQueueOrder_sorted
  rw [order] at sorted
  exact unhindered passer (queued passer passed) admitted outsider
    ((List.pairwise_append.mp sorted).2.2 passer passed first later)

theorem turnOrder_grows (order rest : List Entry) :
    lfg.turnOrder team order <+: lfg.turnOrder team (order ++ rest) := by
  induction rest using List.reverseRecOn with
  | nil => rw [List.append_nil]
  | append_singleton rest last ih =>
      rw [← List.append_assoc, turnOrder_concat]
      split
      · rw [join]
        split
        · exact ih
        · exact ih.trans (List.prefix_append _ _)
      · exact ih

theorem RolesInTurn.next (inTurn : lfg.RolesInTurn team) {seen rest : List Entry}
    {candidate : Entry} (order : lfg.getQueueOrder = seen ++ candidate :: rest)
    (member : candidate ∈ team) (new : candidate ∉ lfg.turnOrder team seen) {alone : Team}
    (own : takeAll {} (lfg.turnOrder team seen) = some alone) :
    ∃ next, takeAll alone (lfg.block candidate) = some next ∧
      takeAll {} (lfg.turnOrder team (seen ++ [candidate])) = some next := by
  have turn : lfg.turnOrder team (seen ++ [candidate]) =
      lfg.turnOrder team seen ++ lfg.block candidate := by
    rw [turnOrder_concat, if_pos member, join, if_neg new]
  obtain ⟨more, whole⟩ := @turnOrder_grows lfg team (seen ++ [candidate]) rest
  rw [List.append_assoc, List.singleton_append, ← order] at whole
  rw [RolesInTurn, ← whole, takeAll_append] at inTurn
  rw [turn, takeAll_append, own, Option.bind_some] at inTurn ⊢
  obtain ⟨next, found⟩ := Option.isSome_iff_exists.mp (Option.isSome_of_isSome_bind inTurn)
  exact ⟨next, found, found⟩

theorem progress_step (feasible : lfg.Feasible realm inst team) (inTurn : lfg.RolesInTurn team)
    (inTeam : seed ∈ team) (partiesFirst : lfg.PartiesFirst realm inst team seed)
    {seen rest : List Entry} {candidate : Entry}
    (order : lfg.getQueueOrder = seen ++ candidate :: rest) {chosen alone : Team}
    (progress : Progress lfg realm inst team seed seen chosen alone) :
    ∃ next, Progress lfg realm inst team seed (seen ++ [candidate])
      (lfg.consider realm inst seed chosen candidate) next := by
  have queued : ∀ entry ∈ seen, entry ∈ lfg.queue.entries := by
    intro entry inside
    rw [← mem_getQueueOrder, order]
    exact List.mem_append_left _ inside
  have sound := lfg.consider_sound realm inst seed progress.sound candidate
  have begun := @begun_consider lfg realm inst seed chosen seen candidate progress.begun
  by_cases turn : candidate ∈ team ∧ candidate ∉ lfg.turnOrder team seen
  · obtain ⟨member, new⟩ := turn
    obtain ⟨next, found, own⟩ := inTurn.next order member new progress.own
    by_cases onlyTeam : ∀ entry ∈ seen, lfg.admits realm inst seed entry → entry ∈ team
    · have same := progress.consider_same feasible inTeam queued member new found
        (progress.same onlyTeam)
      exact ⟨next, sound, own, fun _ => same ▸ le_refl _, fun _ => same, begun⟩
    · push Not at onlyTeam
      obtain ⟨passer, passed, admitted, outsider⟩ := onlyTeam
      have alone := alone_of_passer feasible partiesFirst order queued member new passed admitted
        outsider
      have ahead := progress.consider_ahead feasible inTeam queued member new
        (block_alone feasible member alone) found
      exact ⟨next, sound, own, ahead,
        fun all => absurd (all passer (List.mem_append_left _ passed) admitted) outsider, begun⟩
  · have same : lfg.turnOrder team (seen ++ [candidate]) = lfg.turnOrder team seen := by
      rw [turnOrder_concat]
      split
      · rename_i member
        rw [join, if_pos (by_contra fun new => turn ⟨member, new⟩)]
      · rfl
    refine ⟨alone, sound, same ▸ progress.own, ?_, ?_, begun⟩
    · exact fun role => (progress.ahead role).trans (count_mono chosen candidate role)
    · intro all
      have before := progress.same fun entry inside => all entry (List.mem_append_left _ inside)
      rw [consider_skip, before]
      by_cases admitted : lfg.admits realm inst seed candidate
      · have member := all candidate (List.mem_append_right _ List.mem_cons_self) admitted
        have members : alone.members = lfg.turnOrder team seen := (takeAll_some progress.own).1
        refine Or.inl ?_
        rw [before, members]
        exact by_contra fun new => turn ⟨member, new⟩
      · exact Or.inr admitted

theorem progress_run (feasible : lfg.Feasible realm inst team) (inTurn : lfg.RolesInTurn team)
    (inTeam : seed ∈ team) (partiesFirst : lfg.PartiesFirst realm inst team seed)
    (rest seen : List Entry) (chosen alone : Team) (order : lfg.getQueueOrder = seen ++ rest)
    (progress : Progress lfg realm inst team seed seen chosen alone) :
    ∃ last, Progress lfg realm inst team seed lfg.getQueueOrder
      (rest.foldl (lfg.consider realm inst seed) chosen) last := by
  induction rest generalizing seen chosen alone with
  | nil =>
      rw [order, List.append_nil]
      exact ⟨alone, progress⟩
  | cons candidate rest ih =>
      obtain ⟨next, step⟩ := progress_step feasible inTurn inTeam partiesFirst order progress
      refine ih (seen ++ [candidate]) _ next ?_ step
      rw [order, List.append_assoc]
      rfl

theorem progress_start : Progress lfg realm inst team seed [] {} {} where
  sound := lfg.teamSound_empty realm inst seed
  own := rfl
  ahead := fun _ => le_refl _
  same := fun _ => rfl
  begun := fun _ none => absurd none List.not_mem_nil

theorem takeAll_full (feasible : lfg.Feasible realm inst team) {alone : Team}
    (own : takeAll {} (lfg.turnOrder team lfg.getQueueOrder) = some alone) (role : Role) :
    alone.count role = role.capacity := by
  have queued : ∀ entry ∈ lfg.getQueueOrder, entry ∈ lfg.queue.entries :=
    fun entry => lfg.mem_getQueueOrder.mp
  obtain ⟨members, room, counted⟩ := takeAll_some own
  have five : 5 ≤ alone.roles.length := by
    rw [← feasible.five, ← List.length_map (fun member : Entry × Role => member.1)]
    refine (List.subperm_of_subset feasible.nodup fun entry inside => ?_).length_le
    change entry ∈ alone.members
    rw [members]
    have there := lfg.mem_getQueueOrder.mpr (feasible.queued entry inside)
    exact (mem_turnOrder feasible queued).mpr ⟨inside, entry, there, rfl⟩
  have room := room fun _ => Nat.zero_le _
  have counted := counted fun _ => rfl
  have length := length_eq_counts alone.roles
  rw [← counted, ← counted, ← counted] at length
  have tank := room .tank
  have healer := room .healer
  have damage := room .damage
  cases role <;> simp only [Role.capacity] at tank healer damage ⊢ <;> omega

theorem buildTeam_complete (feasible : lfg.Feasible realm inst team)
    (inTurn : lfg.RolesInTurn team) (inTeam : seed ∈ team)
    (partiesFirst : lfg.PartiesFirst realm inst team seed) :
    (lfg.buildTeam realm inst seed).complete = true := by
  obtain ⟨alone, progress⟩ := progress_run feasible inTurn inTeam partiesFirst lfg.getQueueOrder []
    {} {} rfl progress_start
  change Progress lfg realm inst team seed _ (lfg.buildTeam realm inst seed) alone at progress
  generalize lfg.buildTeam realm inst seed = chosen at progress
  have full : ∀ role, chosen.count role = role.capacity := by
    intro role
    refine le_antisymm (progress.sound.room role) ?_
    exact (takeAll_full feasible progress.own role).symm.le.trans (progress.ahead role)
  have length := length_eq_counts chosen.roles
  rw [← progress.sound.counted, ← progress.sound.counted, ← progress.sound.counted, full, full,
    full] at length
  exact complete_iff.mpr ⟨full, length⟩

theorem findTeam_isSome (feasible : lfg.Feasible realm inst team)
    (inTurn : lfg.RolesInTurn team) (inTeam : seed ∈ team)
    (partiesFirst : lfg.PartiesFirst realm inst team seed) :
    (lfg.findTeam realm inst).isSome = true := by
  refine List.findSome?_isSome_iff.mpr ⟨seed, ?_, ?_⟩
  · exact lfg.mem_getQueueOrder.mpr (feasible.queued seed inTeam)
  · rw [if_pos (feasible.waits seed inTeam)]
    simp only
    rw [if_pos (buildTeam_complete feasible inTurn inTeam partiesFirst)]
    rfl

end Walk

def CreatesOffer : Prop :=
  (lfg.tryMakeOffers realm).offers.find? lfg.nextOfferId ≠ none ∧
    ∃ guid, lfg.playerOffers.find? guid = none ∧
      (lfg.tryMakeOffers realm).playerOffers.find? guid = some lfg.nextOfferId

def HasOffer (id : UInt32) (guid : ObjectGuid) (lfg : LFTManager) : Prop :=
  lfg.offers.find? id ≠ none ∧ lfg.playerOffers.find? guid = some id

/-- Who is in an offer is not chosen again, and only the offer under the next number changes. -/
theorem tryBuildOffer_keeps {id : UInt32} {guid : ObjectGuid} (has : HasOffer id guid lfg) :
    HasOffer id guid (lfg.tryBuildOfferForInstance realm inst).1 := by
  rw [tryBuildOfferForInstance]
  cases found : lfg.findTeam realm inst with
  | none => exact has
  | some team =>
      obtain ⟨seed, -, -, rfl, -⟩ := lfg.findTeam_some realm inst found
      have sound := lfg.buildTeam_sound realm inst seed
      constructor
      · simp only [(lfg.offers_makeOffer inst _).1]
        by_cases same : id = lfg.nextOfferId
        · rw [same, OrderedMap.find?_assign_self]
          exact Option.some_ne_none _
        · rw [OrderedMap.find?_assign_of_ne _ same]
          exact has.1
      · refine (playerOffers_offerTo _ _ guid).trans ?_
        rw [if_neg]
        · exact has.2
        · intro inside
          obtain ⟨member, listed, rfl⟩ := List.mem_map.mp inside
          have free := ((lfg.waitsFor_iff inst).mp
            (sound.admitted _ (List.mem_map_of_mem listed)).1).1
          cases free.symm.trans has.2

theorem tryBuildOffer_makes (found : (lfg.findTeam realm inst).isSome = true) :
    ∃ guid, lfg.playerOffers.find? guid = none ∧
      HasOffer lfg.nextOfferId guid (lfg.tryBuildOfferForInstance realm inst).1 := by
  obtain ⟨team, found⟩ := Option.isSome_iff_exists.mp found
  obtain ⟨seed, -, -, rfl, complete⟩ := lfg.findTeam_some realm inst found
  have sound := lfg.buildTeam_sound realm inst seed
  rw [tryBuildOfferForInstance, found]
  obtain ⟨member, listed⟩ := List.exists_mem_of_length_pos
    (Nat.lt_of_lt_of_eq (Nat.zero_lt_succ 4) (complete_iff.mp complete).2.symm)
  refine ⟨member.1.1, ?_, ?_, ?_⟩
  · exact ((lfg.waitsFor_iff inst).mp (sound.admitted _ (List.mem_map_of_mem listed)).1).1
  · simp only [(lfg.offers_makeOffer inst _).1]
    rw [OrderedMap.find?_assign_self]
    exact Option.some_ne_none _
  · refine (playerOffers_offerTo _ _ _).trans (if_pos ?_)
    exact List.mem_map.mpr ⟨member, listed, rfl⟩

theorem foldl_keeps {id : UInt32} {guid : ObjectGuid} (instances : List String)
    (lfg : LFTManager) (has : HasOffer id guid lfg) :
    HasOffer id guid
      (instances.foldl (fun lfg inst => (lfg.tryBuildOfferForInstance realm inst).1) lfg) := by
  induction instances generalizing lfg with
  | nil => exact has
  | cons inst rest ih => exact ih _ (lfg.tryBuildOffer_keeps realm inst has)

theorem foldl_makes (instances : List String) (wanted : inst ∈ instances)
    (found : (lfg.findTeam realm inst).isSome = true) :
    ∃ guid, lfg.playerOffers.find? guid = none ∧ HasOffer lfg.nextOfferId guid
      (instances.foldl (fun lfg inst => (lfg.tryBuildOfferForInstance realm inst).1) lfg) := by
  induction instances with
  | nil => exact absurd wanted List.not_mem_nil
  | cons first rest ih =>
      rw [List.foldl_cons]
      cases here : lfg.findTeam realm first with
      | some team =>
          obtain ⟨guid, free, has⟩ := lfg.tryBuildOffer_makes realm first (by rw [here]; rfl)
          exact ⟨guid, free, foldl_keeps realm rest _ has⟩
      | none =>
          have same : (lfg.tryBuildOfferForInstance realm first).1 = lfg := by
            rw [tryBuildOfferForInstance, here]
          rw [same]
          refine ih ((List.mem_cons.mp wanted).resolve_left fun eq => ?_)
          rw [eq, here] at found
          cases found

/-- A feasible team whose members find roles in turn and whose parties nobody else comes before
gives an offer. -/
theorem tryMakeOffers_complete {team : List Entry} {seed : Entry}
    (feasible : lfg.Feasible realm inst team) (inTurn : lfg.RolesInTurn team)
    (inTeam : seed ∈ team) (partiesFirst : lfg.PartiesFirst realm inst team seed) :
    lfg.CreatesOffer realm := by
  have wanted : inst ∈ lfg.wantedInstances := by
    obtain ⟨free, lists⟩ := (lfg.waitsFor_iff inst).mp (feasible.waits seed inTeam)
    rw [wantedInstances, List.mem_insertionSort, List.mem_dedup, List.mem_flatMap]
    refine ⟨seed, List.mem_filter.mpr ⟨feasible.queued seed inTeam, ?_⟩, lists⟩
    rw [free]
    rfl
  obtain ⟨guid, free, has⟩ := lfg.foldl_makes realm inst lfg.wantedInstances wanted
    (findTeam_isSome feasible inTurn inTeam partiesFirst)
  exact ⟨has.1, guid, free, has.2⟩

def plainRealm : Realm := { getPlayer := fun _ => some { team := 469, level := 28 } }

/-- A tank, a party of a healer and of a player who could tank as well as deal damage, one who
could heal as well as deal damage, and a damage dealer. -/
def partyTeam : List Entry :=
  [solo 1 1 false, queuedWith 2 2 2 false, queuedWith 2 3 5 false, solo 4 6 false,
    solo 6 4 false]

/-- Their queue, where a player of all roles stands before the last of them. -/
def partyQueue : LFTManager := queueOf (solo 5 7 false :: partyTeam)

theorem partyTeam_offer : partyQueue.CreatesOffer plainRealm := by
  have feasible : partyQueue.Feasible plainRealm "The Stockade" partyTeam :=
    { queued := by decide +kernel
      waits := by decide +kernel
      nodup := by decide +kernel
      five := rfl
      whole := by decide +kernel
      groupable := by decide +kernel
      playable := ⟨fun entry => if entry.1 = 1 then .tank else if entry.1 = 2 then .healer
          else .damage, by decide +kernel, fun role => by cases role <;> decide +kernel⟩ }
  have inTurn : partyQueue.RolesInTurn partyTeam := by
    unfold RolesInTurn
    decide +kernel
  have inTeam : solo 1 1 false ∈ partyTeam := List.mem_cons_self
  have partyFirst : ∀ entry ∈ partyTeam,
      (∃ other ∈ partyTeam, other ≠ entry ∧ blockLeader other = blockLeader entry) →
        blockLeader (queuedWith 2 2 2 false) = blockLeader entry := by
    decide +kernel
  have outsiderLast : ∀ candidate ∈ partyQueue.queue.entries,
      candidate ∉ partyTeam → ¬ before candidate (queuedWith 2 2 2 false) := by
    decide +kernel
  have partiesFirst : partyQueue.PartiesFirst plainRealm "The Stockade" partyTeam
      (solo 1 1 false) :=
    fun entry member party => ⟨queuedWith 2 2 2 false, List.mem_cons_of_mem _ List.mem_cons_self,
      partyFirst entry member party,
      fun candidate queued _ outsider => outsiderLast candidate queued outsider⟩
  exact tryMakeOffers_complete partyQueue plainRealm "The Stockade" feasible inTurn inTeam
    partiesFirst

/-- The first player can tank and deal damage, the second can only tank. -/
def flexibleTank : List Entry :=
  [solo 1 5 false, solo 2 1 false, solo 3 2 false, solo 4 4 false, solo 5 4 false]

/-- A party of a tank and a healer, and three damage dealers. -/
def tankAndHealer : List Entry :=
  [queuedWith 2 2 1 false, queuedWith 2 3 2 false, solo 4 4 false, solo 5 4 false,
    solo 6 4 false]

/-- The first player of the first team takes the only role of the second, and a tank before
the party of the second team takes the role of its tank: neither team is offered. -/
theorem feasible_without_offer :
    ((queueOf flexibleTank).Feasible plainRealm "The Stockade" flexibleTank ∧
      ¬ (queueOf flexibleTank).CreatesOffer plainRealm) ∧
    ((queueOf (solo 1 1 false :: tankAndHealer)).Feasible plainRealm "The Stockade"
        tankAndHealer ∧
      ¬ (queueOf (solo 1 1 false :: tankAndHealer)).CreatesOffer plainRealm) := by
  refine ⟨⟨?_, fun creates => ?_⟩, ?_, fun creates => ?_⟩
  · exact
      { queued := by decide +kernel
        waits := by decide +kernel
        nodup := by decide +kernel
        five := rfl
        whole := by decide +kernel
        groupable := by decide +kernel
        playable := ⟨fun entry => if entry.1 = 2 then .tank else if entry.1 = 3 then .healer
          else .damage, by decide +kernel, fun role => by cases role <;> decide +kernel⟩ }
  · have none : ((queueOf flexibleTank).tryMakeOffers plainRealm).offers.find? 1 = none := by
      rw [← Option.isNone_iff_eq_none]
      decide +kernel
    exact creates.1 none
  · exact
      { queued := by decide +kernel
        waits := by decide +kernel
        nodup := by decide +kernel
        five := rfl
        whole := by decide +kernel
        groupable := by decide +kernel
        playable := ⟨fun entry => (pickRole entry.2.roleMask 0 0 0).getD .damage, by decide +kernel,
          fun role => by cases role <;> decide +kernel⟩ }
  · have none : ((queueOf (solo 1 1 false :: tankAndHealer)).tryMakeOffers
        plainRealm).offers.find? 1 = none := by
      rw [← Option.isNone_iff_eq_none]
      decide +kernel
    exact creates.1 none

end LFTManager

end TortoiseWow.LFT
