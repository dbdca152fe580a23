import TortoiseWow.LFT.BotFill
import TortoiseWow.LFT.Completeness

/-!
The fill never adds more bots of a role than the census finds missing. Where the walk of the
matcher covers the roles that the census counts and the bots are of use to the waiting player, a
fill that adds all that is missing is followed by an offer: each bot comes last in the queue, so
the walk first does what it did before, and then takes the bot.
-/

namespace TortoiseWow.LFT

open Lib

def Filling.addedOf (filling : Filling) (role : Role) : Nat :=
  filling.added.countP fun bot => bot.2 = role

def LFTManager.missing (lfg : LFTManager) (realm : Realm) (inst : String) (waiter : Entry)
    (role : Role) : Nat :=
  role.capacity - (lfg.census realm inst waiter).count role

structure Usable (lfg : LFTManager) (realm : Realm) (inst : String) (waiter : Entry)
    (bot : Character) : Prop where
  groups : realm.canQueuedPlayersGroup waiter (bot.guid, queuedAs bot 0 0 [inst] 0) = true
  free : lfg.playerOffers.find? bot.guid = none
  unled : ∀ entry ∈ lfg.queue.entries, blockLeader entry ≠ bot.guid

section Search

variable {around : Surroundings} {waiter : Waiter} {wanted : Role} {lfg : LFTManager}

/-- The worlds that the searches may lead to. -/
inductive Surroundings.Reaches (around : Surroundings) (start : World) : World → Prop
  | start : Reaches around start start
  | setForcedRole {world : World} (guid : ObjectGuid) (role : UInt8) :
      Reaches around start world → Reaches around start (around.setForcedRole world guid role)
  | removeFromGroup {world : World} (guid : ObjectGuid) :
      Reaches around start world → Reaches around start (around.removeFromGroup world guid)

/-- A bot that one of the three searches takes: an idle one, one of a group of bots, and one
that can be made to play the role. -/
inductive Surroundings.Passes (around : Surroundings) (wanted : Role) (lfg : LFTManager)
    (world : World) (bot : Character) : Prop
  | idle (isIdle : Surroundings.isIdle lfg world bot = true)
      (fillsRole : Surroundings.fillsRole wanted world bot = true)
  | grouped (inWorld : (world.presence bot.guid).isInWorld = true)
      (alive : (world.presence bot.guid).isAlive = true)
      (outside : (world.presence bot.guid).inBattleGround = false)
      (unqueued : (world.presence bot.guid).inBattleGroundQueue = false)
      (new : lfg.queue.find? bot.guid = none)
      (fillsRole : Surroundings.fillsRole wanted world bot = true)
      {group : Nat} (inGroup : (world.presence bot.guid).group = some group)
      (formed : group ∈ around.lftGroupIds) (botsOnly : around.botsOnly lfg world group = true)
  | respecced (other : wanted ≠ .damage) (isIdle : Surroundings.isIdle lfg world bot = true)
      (level : 10 ≤ bot.player.level)
      (fillsRole : Surroundings.fillsRole wanted
        (around.setForcedRole world bot.guid wanted.bit) bot = true)

/-- What a search may return. -/
structure Surroundings.Found (around : Surroundings) (waiter : Waiter) (wanted : Role)
    (lfg : LFTManager) (world : World) (bot : Character) : Prop where
  listed : bot ∈ around.characters
  suits : around.suits waiter wanted bot = true
  passes : ∃ now, around.Reaches world now ∧ around.Passes wanted lfg now bot

theorem Surroundings.Reaches.trans {first second third : World}
    (earlier : around.Reaches first second) (later : around.Reaches second third) :
    around.Reaches first third := by
  induction later with
  | start => exact earlier
  | setForcedRole guid role _ ih => exact ih.setForcedRole guid role
  | removeFromGroup guid _ ih => exact ih.removeFromGroup guid

theorem Surroundings.Found.back {world world' : World} {bot : Character}
    (reached : around.Reaches world world') (found : around.Found waiter wanted lfg world' bot) :
    around.Found waiter wanted lfg world bot := by
  obtain ⟨now, later, passes⟩ := found.passes
  exact { found with passes := ⟨now, reached.trans later, passes⟩ }

theorem not_isQueued {guid : ObjectGuid} (free : (!Surroundings.isQueued lfg guid) = true) :
    lfg.queue.find? guid = none := by
  rw [Surroundings.isQueued] at free
  cases found : lfg.queue.find? guid with
  | none => rfl
  | some queued =>
      rw [found] at free
      exact absurd free Bool.false_ne_true

theorem isIdle_new {world : World} {bot : Character}
    (idle : Surroundings.isIdle lfg world bot = true) : lfg.queue.find? bot.guid = none := by
  simp only [Surroundings.isIdle, Bool.and_eq_true] at idle
  exact not_isQueued idle.2

theorem Surroundings.Found.new {world : World} {bot : Character}
    (found : around.Found waiter wanted lfg world bot) : lfg.queue.find? bot.guid = none := by
  obtain ⟨now, -, passes⟩ := found.passes
  cases passes with
  | idle isIdle => exact isIdle_new isIdle
  | grouped _ _ _ _ new => exact new
  | respecced _ isIdle => exact isIdle_new isIdle

theorem findIdleBot_found {world : World} {bot : Character}
    (found : around.findIdleBot waiter wanted lfg world = some bot) :
    around.Found waiter wanted lfg world bot := by
  have listed := List.mem_of_find?_eq_some found
  have passed := List.find?_some found
  simp only [Bool.and_eq_true] at passed
  exact ⟨listed, passed.1.2, world, .start, .idle passed.1.1 passed.2⟩

theorem takeFromBotOnlyGroup_found {world world' : World} {bot : Option Character}
    (found : around.takeFromBotOnlyGroup waiter wanted lfg world = (bot, world')) :
    around.Reaches world world' ∧
      ∀ taken, bot = some taken → around.Found waiter wanted lfg world taken := by
  rw [Surroundings.takeFromBotOnlyGroup] at found
  simp only at found
  split at found
  case h_1 =>
    cases found
    exact ⟨.start, nofun⟩
  case h_2 taken here =>
    cases found
    refine ⟨.removeFromGroup _ .start, fun _ same => ?_⟩
    cases same
    have listed := List.mem_of_find?_eq_some here
    have passed := List.find?_some here
    simp only [Bool.and_eq_true] at passed
    obtain ⟨⟨⟨⟨⟨⟨⟨inWorld, alive⟩, suits⟩, outside⟩, unqueued⟩, new⟩, fillsRole⟩, inGroup⟩ := passed
    refine ⟨listed, suits, world, .start, ?_⟩
    split at inGroup
    case h_1 => cases inGroup
    case h_2 group here =>
      obtain ⟨formed, botsOnly⟩ := Bool.and_eq_true_iff.mp inGroup
      rw [Bool.not_eq_true'] at outside unqueued
      exact .grouped inWorld alive outside unqueued (not_isQueued new) fillsRole here
        (List.contains_iff_mem.mp formed) botsOnly

theorem takeBotAndRespecFor_found {characters : List Character} {start world world' : World}
    {bot : Option Character} (among : ∀ c ∈ characters, c ∈ around.characters)
    (reached : around.Reaches start world) (other : wanted ≠ .damage)
    (found : around.takeBotAndRespecFor waiter wanted lfg characters world = (bot, world')) :
    around.Reaches start world' ∧
      ∀ taken, bot = some taken → around.Found waiter wanted lfg start taken := by
  induction characters generalizing world with
  | nil =>
      cases found
      exact ⟨reached, nofun⟩
  | cons first rest ih =>
      have later := fun c inside => among c (List.mem_cons_of_mem first inside)
      rw [Surroundings.takeBotAndRespecFor] at found
      split at found
      case isTrue passed =>
        simp only [Bool.and_eq_true] at passed
        have forced := reached.setForcedRole first.guid wanted.bit
        dsimp only at found
        split at found
        case isTrue fillsRole =>
          cases found
          refine ⟨forced, fun _ same => ?_⟩
          cases same
          exact ⟨among _ List.mem_cons_self, passed.1.1.2, world, reached,
            .respecced other passed.1.1.1 (of_decide_eq_true passed.1.2) fillsRole⟩
        case isFalse => exact ih later forced found
      case isFalse => exact ih later reached found

theorem chooseBot_found {world world' : World} {bot : Option Character}
    (found : around.chooseBot waiter wanted lfg world = (bot, world')) :
    around.Reaches world world' ∧
      ∀ taken, bot = some taken → around.Found waiter wanted lfg world taken := by
  rw [Surroundings.chooseBot] at found
  split at found
  case h_1 idle =>
    cases found
    refine ⟨.start, fun _ same => ?_⟩
    cases same
    exact findIdleBot_found idle
  case h_2 =>
    split at found
    case h_1 taken =>
      cases found
      exact takeFromBotOnlyGroup_found taken
    case h_2 taken =>
      split at found
      case isTrue =>
        cases found
        exact ⟨(takeFromBotOnlyGroup_found taken).1, nofun⟩
      case isFalse other =>
        exact takeBotAndRespecFor_found (fun _ inside => inside)
          (takeFromBotOnlyGroup_found taken).1 other found

end Search

section Loop

variable {around : Surroundings} {inst : String} {waiter : Waiter}

theorem wantedRole_some {count : Role → Nat} {role : Role} (wanted : wantedRole count = some role) :
    count role < role.capacity := by
  rw [wantedRole] at wanted
  split at wanted
  case isTrue few =>
    cases wanted
    exact few
  split at wanted
  case isTrue few =>
    cases wanted
    exact few
  split at wanted
  case isTrue few =>
    cases wanted
    exact few
  cases wanted

theorem fillLoop_keeps {motive : Filling → Prop}
    (addBot : ∀ filling bot world wanted, motive filling → wantedRole filling.count = some wanted →
      around.Found waiter wanted filling.state.lfg filling.state.world bot →
        around.Reaches filling.state.world world → motive (filling.addBot inst bot world wanted))
    (staysShort : ∀ filling world wanted, motive filling → wantedRole filling.count = some wanted →
      wanted ≠ .damage → around.Reaches filling.state.world world →
        motive (filling.staysShort world wanted))
    (givesUp : ∀ filling world short, motive filling → around.Reaches filling.state.world world →
      motive { filling with state := { filling.state with world }, short })
    (fuel : Nat) {filling : Filling} (start : motive filling) :
    motive (fillLoop around inst waiter fuel filling) := by
  induction fuel generalizing filling with
  | zero => exact start
  | succ fuel ih =>
      rw [fillLoop]
      split
      case isTrue => exact start
      case isFalse =>
        split
        case h_1 => exact start
        case h_2 wanted few =>
          split
          case h_1 bot world chosen =>
            obtain ⟨reached, found⟩ := chooseBot_found chosen
            exact ih (addBot filling bot world wanted start few (found bot rfl) reached)
          case h_2 world chosen =>
            have reached := (chooseBot_found chosen).1
            split
            case isTrue => exact givesUp filling world _ start reached
            case isFalse other => exact ih (staysShort filling world wanted start few other reached)

/-- How many rounds the loop may still take. -/
def Filling.roundsLeft (filling : Filling) : Nat :=
  5 - filling.inQueue + (1 - filling.count .tank) + (1 - filling.count .healer)

theorem roundsLeft_addBot {filling : Filling} (open_ : filling.inQueue < 5) (bot : Character)
    (world : World) (wanted : Role) :
    (filling.addBot inst bot world wanted).roundsLeft < filling.roundsLeft := by
  have more : ∀ role, filling.count role ≤ raise filling.count wanted role := by
    intro role
    rw [raise]
    split
    · exact Nat.le_succ _
    · exact Nat.le_refl _
  have tank := more .tank
  have healer := more .healer
  simp only [Filling.roundsLeft, Filling.addBot]
  omega

theorem roundsLeft_staysShort {filling : Filling} {wanted : Role}
    (few : wantedRole filling.count = some wanted) (other : wanted ≠ .damage) (world : World) :
    (filling.staysShort world wanted).roundsLeft < filling.roundsLeft := by
  have room := wantedRole_some few
  cases wanted with
  | tank =>
      simp only [Role.capacity] at room
      simp [Filling.roundsLeft, Filling.staysShort]
      omega
  | healer =>
      simp only [Role.capacity] at room
      simp [Filling.roundsLeft, Filling.staysShort]
      omega
  | damage => exact absurd rfl other

theorem fillLoop_fuel {fuel : Nat} {filling : Filling} (enough : filling.roundsLeft ≤ fuel) :
    fillLoop around inst waiter (fuel + 1) filling = fillLoop around inst waiter fuel filling := by
  induction fuel generalizing filling with
  | zero =>
      have full : 5 ≤ filling.inQueue := by
        rw [Filling.roundsLeft] at enough
        omega
      simp only [fillLoop, if_pos full]
  | succ fuel ih =>
      rw [fillLoop, fillLoop]
      by_cases full : 5 ≤ filling.inQueue
      · rw [if_pos full, if_pos full]
      · rw [if_neg full, if_neg full]
        cases few : wantedRole filling.count with
        | none => rfl
        | some wanted =>
            cases chosen : around.chooseBot waiter wanted filling.state.lfg filling.state.world with
            | mk found world =>
                cases found with
                | some bot =>
                    have less := @roundsLeft_addBot inst filling (Nat.lt_of_not_le full) bot world
                      wanted
                    simp only [chosen]
                    exact ih (Nat.le_of_lt_succ (Nat.lt_of_lt_of_le less enough))
                | none =>
                    by_cases damage : wanted = .damage
                    · simp only [chosen, if_pos damage]
                    · have less := roundsLeft_staysShort few damage world
                      simp only [chosen, if_neg damage]
                      exact ih (Nat.le_of_lt_succ (Nat.lt_of_lt_of_le less enough))

theorem fillInstanceWithBots_ends (s : FillState) (realm : Realm) (more : Nat) :
    fillLoop around inst waiter (7 + more)
        { state := s
          count := (s.lfg.census realm inst waiter.entry).count
          inQueue := (s.lfg.census realm inst waiter.entry).inQueue } =
      s.fillInstanceWithBots realm around inst waiter := by
  induction more with
  | zero => rfl
  | succ more ih =>
      rw [← ih]
      apply fillLoop_fuel
      apply Nat.le_trans _ (Nat.le_add_right 7 more)
      rw [Filling.roundsLeft]
      omega

/-- The counters are between what is there and what there is room for. -/
def Bounded (covered : Role → Nat) (filling : Filling) : Prop :=
  ∀ role, covered role + filling.addedOf role ≤ filling.count role ∧
    filling.count role ≤ role.capacity

theorem addedOf_addBot (filling : Filling) (bot : Character) (world : World) (wanted role : Role) :
    (filling.addBot inst bot world wanted).addedOf role =
      filling.addedOf role + if role = wanted then 1 else 0 := by
  simp only [Filling.addedOf, Filling.addBot, List.countP_append, List.countP_singleton,
    decide_eq_true_eq, eq_comm (a := wanted)]

theorem Bounded.addBot {covered : Role → Nat} {filling : Filling}
    (bounded : Bounded covered filling)
    {wanted : Role} (few : wantedRole filling.count = some wanted) (bot : Character)
    (world : World) : Bounded covered (filling.addBot inst bot world wanted) := by
  intro role
  obtain ⟨low, high⟩ := bounded role
  have room := wantedRole_some few
  rw [addedOf_addBot]
  show _ ≤ raise filling.count wanted role ∧ raise filling.count wanted role ≤ _
  rw [raise]
  by_cases same : role = wanted
  · subst same
    rw [if_pos rfl, if_pos rfl]
    omega
  · rw [if_neg same, if_neg same]
    exact ⟨low, high⟩

theorem Bounded.staysShort {covered : Role → Nat} {filling : Filling}
    (bounded : Bounded covered filling) {wanted : Role}
    (few : wantedRole filling.count = some wanted) (other : wanted ≠ .damage) (world : World) :
    Bounded covered (filling.staysShort world wanted) := by
  intro role
  obtain ⟨low, high⟩ := bounded role
  have room := wantedRole_some few
  show covered role + filling.addedOf role ≤ (if role = wanted then 1 else filling.count role) ∧
    (if role = wanted then 1 else filling.count role) ≤ _
  by_cases same : role = wanted
  · subst same
    have one : role.capacity = 1 := by
      cases role with
      | tank => rfl
      | healer => rfl
      | damage => exact absurd rfl other
    rw [if_pos rfl]
    omega
  · rw [if_neg same]
    exact ⟨low, high⟩

theorem before_antisymm {left right : Entry} (le : before left right) (ge : before right left) :
    left.1 = right.1 := by
  rcases le with less | ⟨_, le⟩
  · rcases ge with more | ⟨same, _⟩
    · exact absurd more (Nat.lt_asymm less)
    · exact absurd same (Nat.ne_of_gt less)
  · rcases ge with more | ⟨_, ge⟩
    · omega
    · exact Nat.le_antisymm le ge

theorem getQueueOrder_assign {lfg : LFTManager} {guid : ObjectGuid} {queued : QueuedPlayer}
    (new : lfg.queue.find? guid = none)
    (last : ∀ entry ∈ lfg.queue.entries, entry.2.queueOrder < queued.queueOrder) :
    { lfg with queue := lfg.queue.assign guid queued }.getQueueOrder =
      lfg.getQueueOrder ++ [(guid, queued)] := by
  have entries := OrderedMap.assignEntries_perm queued (OrderedMap.find?_eq_none.mp new)
  have order : ({ lfg with queue := lfg.queue.assign guid queued }.getQueueOrder).Perm
      (lfg.getQueueOrder ++ [(guid, queued)]) :=
    (List.perm_insertionSort before _).trans (entries.trans
      ((List.perm_append_singleton _ _).symm.trans
        ((List.perm_insertionSort before _).symm.append_right _)))
  apply order.eq_of_pairwise _ (LFTManager.getQueueOrder_sorted _)
  · rw [List.pairwise_append]
    refine ⟨lfg.getQueueOrder_sorted, List.pairwise_singleton _ _, ?_⟩
    intro entry inside other here
    rw [List.mem_singleton.mp here]
    exact .inl (last entry (lfg.mem_getQueueOrder.mp inside))
  · intro left right here there le ge
    have here := (LFTManager.mem_getQueueOrder _).mp here
    have there := (LFTManager.mem_getQueueOrder _).mp (order.mem_iff.mpr there)
    exact List.inj_on_of_nodup_map (lfg.queue.assign guid queued).keys_nodup here there
      (before_antisymm le ge)

theorem pickRole_bit {count : Role → Nat} {wanted : Role} (room : count wanted < wanted.capacity) :
    pickRole wanted.bit (count .tank) (count .healer) (count .damage) = some wanted := by
  cases wanted with
  | tank => exact if_pos ⟨by decide, room⟩
  | healer =>
      rw [pickRole, if_neg fun both => absurd both.1 (by decide)]
      exact if_pos ⟨by decide, room⟩
  | damage =>
      rw [pickRole, if_neg fun both => absurd both.1 (by decide),
        if_neg fun both => absurd both.1 (by decide)]
      exact if_pos ⟨by decide, room⟩

def botEntry (bot : Character) (inst : String) (queueOrder : Nat) (wanted : Role) : Entry :=
  (bot.guid, queuedAs bot 0 queueOrder [inst] wanted.bit)

theorem fitBlock_queue {lfg : LFTManager} {realm : Realm} {seed : Entry}
    (queue : OrderedMap ObjectGuid QueuedPlayer) (team : Team) (entries : List Entry)
    (fitted : Team) :
    LFTManager.fitBlock { lfg with queue } realm inst seed team entries fitted =
      lfg.fitBlock realm inst seed team entries fitted := by
  induction entries generalizing fitted with
  | nil => rfl
  | cons entry rest ih =>
      simp only [LFTManager.fitBlock, ih]
      rfl

section AddBot

variable {realm : Realm} {filling : Filling} {bot : Character} {world : World} {wanted : Role}

theorem addBot_order (new : filling.state.lfg.queue.find? bot.guid = none) :
    (filling.addBot inst bot world wanted).state.lfg.getQueueOrder =
      filling.state.lfg.getQueueOrder ++
        [botEntry bot inst filling.state.nextQueueOrder wanted] :=
  getQueueOrder_assign new filling.state.ordered

theorem mem_addBot {entry : Entry} :
    entry ∈ (filling.addBot inst bot world wanted).state.lfg.queue.entries →
      entry = botEntry bot inst filling.state.nextQueueOrder wanted ∨
        entry ∈ filling.state.lfg.queue.entries :=
  OrderedMap.mem_assignEntries_of_mem

theorem addBot_keeps {entry : Entry} (new : filling.state.lfg.queue.find? bot.guid = none)
    (queued : entry ∈ filling.state.lfg.queue.entries) :
    entry ∈ (filling.addBot inst bot world wanted).state.lfg.queue.entries := by
  rw [← LFTManager.mem_getQueueOrder, addBot_order new]
  exact List.mem_append_left _ (filling.state.lfg.mem_getQueueOrder.mpr queued)

theorem addBot_block (new : filling.state.lfg.queue.find? bot.guid = none)
    (usable : Usable filling.state.lfg realm inst waiter.entry bot) :
    (filling.addBot inst bot world wanted).state.lfg.block
        (botEntry bot inst filling.state.nextQueueOrder wanted) =
      [botEntry bot inst filling.state.nextQueueOrder wanted] := by
  have none : filling.state.lfg.getQueueOrder.filter (fun other => decide (blockLeader other =
      blockLeader (botEntry bot inst filling.state.nextQueueOrder wanted))) = [] := by
    refine List.filter_eq_nil_iff.mpr fun other queued same => ?_
    exact usable.unled other (filling.state.lfg.mem_getQueueOrder.mp queued)
      (of_decide_eq_true same)
  rw [LFTManager.block, addBot_order new, List.filter_append, none, List.nil_append,
    List.filter_cons, if_pos (decide_eq_true rfl), List.filter_nil]

/-- For the others the walk does what it did without the bot. -/
theorem addBot_consider (new : filling.state.lfg.queue.find? bot.guid = none)
    (usable : Usable filling.state.lfg realm inst waiter.entry bot) (team : Team) {entry : Entry}
    (queued : entry ∈ filling.state.lfg.getQueueOrder) :
    (filling.addBot inst bot world wanted).state.lfg.consider realm inst waiter.entry team entry =
      filling.state.lfg.consider realm inst waiter.entry team entry := by
  have apart : ¬ decide (blockLeader (botEntry bot inst filling.state.nextQueueOrder wanted) =
      blockLeader entry) = true := fun same =>
    usable.unled entry (filling.state.lfg.mem_getQueueOrder.mp queued)
      (of_decide_eq_true same).symm
  have block : (filling.addBot inst bot world wanted).state.lfg.block entry =
      filling.state.lfg.block entry := by
    rw [LFTManager.block, addBot_order new, List.filter_append, List.filter_cons, if_neg apart,
      List.filter_nil, List.append_nil, LFTManager.block]
  have fitBlock : (filling.addBot inst bot world wanted).state.lfg.fitBlock realm inst waiter.entry
      team (filling.state.lfg.block entry) { team with roles := [] } =
        filling.state.lfg.fitBlock realm inst waiter.entry team (filling.state.lfg.block entry)
          { team with roles := [] } := fitBlock_queue _ _ _ _
  rw [LFTManager.consider, LFTManager.consider, block, fitBlock]
  rfl

theorem addBot_buildTeam (new : filling.state.lfg.queue.find? bot.guid = none)
    (usable : Usable filling.state.lfg realm inst waiter.entry bot) :
    (filling.addBot inst bot world wanted).state.lfg.buildTeam realm inst waiter.entry =
      (filling.addBot inst bot world wanted).state.lfg.consider realm inst waiter.entry
        (filling.state.lfg.buildTeam realm inst waiter.entry)
        (botEntry bot inst filling.state.nextQueueOrder wanted) := by
  rw [LFTManager.buildTeam, addBot_order new, List.foldl_append, List.foldl_cons, List.foldl_nil,
    List.foldl_ext _ _ _ fun team entry queued => addBot_consider new usable team queued,
    LFTManager.buildTeam]

theorem consider_bot (new : filling.state.lfg.queue.find? bot.guid = none)
    (usable : Usable filling.state.lfg realm inst waiter.entry bot) {team : Team}
    (sound : filling.state.lfg.TeamSound realm inst waiter.entry team)
    (room : team.count wanted < wanted.capacity) :
    (filling.addBot inst bot world wanted).state.lfg.consider realm inst waiter.entry team
        (botEntry bot inst filling.state.nextQueueOrder wanted) =
      team.take (botEntry bot inst filling.state.nextQueueOrder wanted) wanted := by
  have short : team.roles.length < 5 := by
    have tank := sound.room .tank
    have healer := sound.room .healer
    have damage := sound.room .damage
    rw [length_eq_counts, ← sound.counted, ← sound.counted, ← sound.counted]
    cases wanted <;> simp only [Role.capacity] at tank healer damage room <;> omega
  have outside : botEntry bot inst filling.state.nextQueueOrder wanted ∉ team.members :=
    fun inside => OrderedMap.find?_eq_none.mp new _ (sound.queued _ inside) rfl
  have admitted : (filling.addBot inst bot world wanted).state.lfg.waitsFor inst
      (botEntry bot inst filling.state.nextQueueOrder wanted) = true :=
    (LFTManager.waitsFor_iff _ inst).mpr ⟨usable.free, List.mem_singleton_self inst⟩
  have groups : realm.canQueuedPlayersGroup waiter.entry
      (botEntry bot inst filling.state.nextQueueOrder wanted) = true := usable.groups
  have picked : Team.pick { team with roles := [] }
      (botEntry bot inst filling.state.nextQueueOrder wanted) = some wanted := pickRole_bit room
  have may : ¬ (botEntry bot inst filling.state.nextQueueOrder wanted ∈ team.members ∨
      ¬ (filling.addBot inst bot world wanted).state.lfg.waitsFor inst
        (botEntry bot inst filling.state.nextQueueOrder wanted) = true ∨
      ¬ realm.canQueuedPlayersGroup waiter.entry
        (botEntry bot inst filling.state.nextQueueOrder wanted) = true) := by
    simp only [outside, admitted, groups, not_true_eq_false, or_self, not_false_eq_true]
  rw [LFTManager.consider, if_neg (Nat.not_le_of_lt short), if_neg may, addBot_block new usable,
    LFTManager.fitBlock, if_neg may, picked]
  simp only [LFTManager.fitBlock, Team.take, List.nil_append, List.length_singleton]
  rw [if_neg (by simp; omega)]

theorem addBot_covers (new : filling.state.lfg.queue.find? bot.guid = none)
    (usable : Usable filling.state.lfg realm inst waiter.entry bot) {covered : Role → Nat}
    (covers : ∀ role,
      covered role ≤ (filling.state.lfg.buildTeam realm inst waiter.entry).count role)
    (room : covered wanted < wanted.capacity) (role : Role) :
    raise covered wanted role ≤ ((filling.addBot inst bot world wanted).state.lfg.buildTeam realm
      inst waiter.entry).count role := by
  have sound := filling.state.lfg.buildTeam_sound realm inst waiter.entry
  have before := covers role
  rw [addBot_buildTeam new usable]
  by_cases free : (filling.state.lfg.buildTeam realm inst waiter.entry).count wanted <
      wanted.capacity
  · rw [consider_bot new usable sound free]
    show (if role = wanted then _ else _) ≤ if role = wanted then _ else _
    split
    · exact Nat.succ_le_succ before
    · exact before
  · have more : (filling.state.lfg.buildTeam realm inst waiter.entry).count role ≤
        ((filling.addBot inst bot world wanted).state.lfg.consider realm inst waiter.entry
          (filling.state.lfg.buildTeam realm inst waiter.entry)
          (botEntry bot inst filling.state.nextQueueOrder wanted)).count role := by
      obtain same | ⟨taken, -, -, -, count⟩ := LFTManager.consider_cases
        (filling.addBot inst bot world wanted).state.lfg realm inst waiter.entry
        (filling.state.lfg.buildTeam realm inst waiter.entry)
        (botEntry bot inst filling.state.nextQueueOrder wanted)
      · rw [same]
      · rw [count]
        exact Nat.le_add_right _ _
    refine Nat.le_trans ?_ more
    rw [raise]
    split
    case isTrue same =>
      subst same
      omega
    case isFalse => exact before

theorem addBot_usable {other : Character}
    (new : (filling.addBot inst bot world wanted).state.lfg.queue.find? other.guid = none)
    (usable : Usable filling.state.lfg realm inst waiter.entry other) :
    Usable (filling.addBot inst bot world wanted).state.lfg realm inst waiter.entry other where
  groups := usable.groups
  free := usable.free
  unled := by
    intro entry inside
    rcases mem_addBot inside with rfl | old
    · exact OrderedMap.find?_eq_none.mp new _ inside
    · exact usable.unled entry old

theorem addBot_found {other : Character} {role : Role} {now : World}
    (new : filling.state.lfg.queue.find? bot.guid = none)
    (found : around.Found waiter role (filling.addBot inst bot world wanted).state.lfg now other) :
    around.Found waiter role filling.state.lfg now other := by
  have unqueued : filling.state.lfg.queue.find? other.guid = none :=
    OrderedMap.find?_eq_none.mpr fun entry queued =>
      OrderedMap.find?_eq_none.mp found.new entry (addBot_keeps new queued)
  have idle : ∀ {now}, Surroundings.isIdle (filling.addBot inst bot world wanted).state.lfg now
      other = true → Surroundings.isIdle filling.state.lfg now other = true := by
    intro now passed
    simp only [Surroundings.isIdle, Bool.and_eq_true] at passed ⊢
    refine ⟨passed.1, ?_⟩
    rw [Surroundings.isQueued, unqueued]
    rfl
  obtain ⟨later, reached, passes⟩ := found.passes
  refine { found with passes := ⟨later, reached, ?_⟩ }
  cases passes with
  | idle isIdle fillsRole => exact .idle (idle isIdle) fillsRole
  | grouped inWorld alive outside free _ fillsRole inGroup formed botsOnly =>
      exact .grouped inWorld alive outside free unqueued fillsRole inGroup formed botsOnly
  | respecced damage isIdle level fillsRole => exact .respecced damage (idle isIdle) level fillsRole

end AddBot

end Loop

structure Waits (lfg : LFTManager) (inst : String) (waiter : Entry) : Prop where
  queued : waiter ∈ lfg.queue.entries
  waits : lfg.waitsFor inst waiter = true

section Update

variable {s : FillState} {realm : Realm} {around : Surroundings}

theorem fillInstanceWithBots_waits {inst filled : String} {entry : Entry} {waiter : Waiter}
    (waits : Waits s.lfg inst entry) :
    Waits (s.fillInstanceWithBots realm around filled waiter).state.lfg inst entry := by
  apply @fillLoop_keeps _ _ _ fun filling => Waits filling.state.lfg inst entry
  · exact fun _ _ _ _ waits _ found _ => ⟨addBot_keeps found.new waits.queued, waits.waits⟩
  · exact fun _ _ _ waits _ _ _ => waits
  · exact fun _ _ _ waits _ => waits
  · exact waits

theorem pending_waits {longEnough : Entry → Bool} {fill : String × Entry}
    (listed : fill ∈ s.pending longEnough) : Waits s.lfg fill.1 fill.2 := by
  obtain ⟨entry, inside, here⟩ := List.mem_flatMap.mp listed
  obtain ⟨inst, lists, rfl⟩ := List.mem_map.mp here
  obtain ⟨queued, passed⟩ := List.mem_filter.mp inside
  simp only [Bool.and_eq_true] at passed
  exact ⟨queued, (s.lfg.waitsFor_iff inst).mpr ⟨Option.isNone_iff_eq_none.mp passed.1.2, lists⟩⟩

/-- Whoever an update fills for waits when it is his turn. -/
theorem fillPending_waits {level : ObjectGuid → Nat} {longEnough : Entry → Bool}
    {fill : String × Entry} (earlier : List (String × Entry))
    (listed : fill ∈ s.pending longEnough) :
    Waits (s.fillPending realm around level earlier).lfg fill.1 fill.2 := by
  have run : ∀ (earlier : List (String × Entry)) (s : FillState), Waits s.lfg fill.1 fill.2 →
      Waits (s.fillPending realm around level earlier).lfg fill.1 fill.2 := by
    intro earlier
    induction earlier with
    | nil => exact fun _ waits => waits
    | cons first rest ih => exact fun s waits => ih _ (fillInstanceWithBots_waits waits)
  exact run earlier s (pending_waits listed)

end Update

/-- What the rounds of the loop keep. -/
structure Proceeds (s : FillState) (realm : Realm) (around : Surroundings) (inst : String)
    (waiter : Waiter) (filling : Filling) : Prop where
  bounded : Bounded (s.lfg.census realm inst waiter.entry).count filling
  waits : Waits filling.state.lfg inst waiter.entry
  covers : ∀ role, (s.lfg.census realm inst waiter.entry).count role + filling.addedOf role ≤
    (filling.state.lfg.buildTeam realm inst waiter.entry).count role
  usable : ∀ bot wanted, 0 < s.lfg.missing realm inst waiter.entry wanted →
    around.Found waiter wanted filling.state.lfg filling.state.world bot →
      Usable filling.state.lfg realm inst waiter.entry bot

section Agreement

variable {s : FillState} {realm : Realm} {around : Surroundings} {inst : String} {waiter : Waiter}

theorem Proceeds.addBot {filling : Filling} (proceeds : Proceeds s realm around inst waiter filling)
    {bot : Character} {wanted : Role} (few : wantedRole filling.count = some wanted)
    {world : World} (found : around.Found waiter wanted filling.state.lfg filling.state.world bot)
    (reached : around.Reaches filling.state.world world) :
    Proceeds s realm around inst waiter (filling.addBot inst bot world wanted) := by
  have few' := wantedRole_some few
  have bounds := proceeds.bounded wanted
  have missing : 0 < s.lfg.missing realm inst waiter.entry wanted := by
    rw [LFTManager.missing]
    omega
  have usable := proceeds.usable bot wanted missing found
  constructor
  · exact proceeds.bounded.addBot few bot world
  · exact ⟨addBot_keeps found.new proceeds.waits.queued, proceeds.waits.waits⟩
  · intro role
    have covers := @addBot_covers inst waiter realm filling bot world wanted found.new usable
      (fun role => (s.lfg.census realm inst waiter.entry).count role + filling.addedOf role)
      proceeds.covers (by omega) role
    rw [addedOf_addBot]
    refine Nat.le_trans (Nat.le_of_eq ?_) covers
    rw [raise]
    split
    · rfl
    · rfl
  · intro other role missing' found'
    exact addBot_usable found'.new
      (proceeds.usable other role missing' ((addBot_found found.new found').back reached))

/-- A search that finds nobody changes the world at most. -/
theorem Proceeds.inWorld {filling : Filling}
    (proceeds : Proceeds s realm around inst waiter filling)
    {world : World} (reached : around.Reaches filling.state.world world) {count : Role → Nat}
    {short : List Role} (bounded : Bounded (s.lfg.census realm inst waiter.entry).count
      { filling with state := { filling.state with world }, count, short }) :
    Proceeds s realm around inst waiter
      { filling with state := { filling.state with world }, count, short } where
  bounded := bounded
  waits := proceeds.waits
  covers := proceeds.covers
  usable := fun bot wanted missing found => proceeds.usable bot wanted missing (found.back reached)

end Agreement

def fiveBots : Surroundings where
  characters :=
    [(11, .priest), (12, .rogue), (13, .rogue), (14, .rogue), (15, .warrior)].map fun bot =>
      { guid := bot.1
        player := { team := 469, level := 28 }
        playerClass := bot.2
        accountName := some "rndbot7"
        isAIControlled := true }
  setForcedRole := fun world _ _ => world
  removeFromGroup := fun world _ => world

def idleWorld : World where
  presence := fun guid => { allowedRoles := if guid = 11 then 2 else if guid = 15 then 1 else 4 }
  memberSlots := fun _ => []

def sixBots : Surroundings :=
  { fiveBots with
    characters :=
      { guid := 16
        player := { team := 469, level := 28, isHardcore := true }
        playerClass := .rogue
        accountName := some "rndbot7"
        isAIControlled := true } :: fiveBots.characters }

def sixBotsRealm : Realm :=
  { getPlayer := fun guid => some { team := 469, level := 28, isHardcore := guid == 16 } }

/-- A healer and a damage dealer who queued together, and a tank between them. The hardcore bot
is dead. -/
def partyOfTwo : FillState where
  lfg := LFTManager.queueOf [LFTManager.queuedWith 2 2 2 false, LFTManager.solo 3 1 false,
    LFTManager.queuedWith 2 4 4 false]
  nextQueueOrder := 5
  ordered := by decide +kernel
  world := { idleWorld with
    presence := fun guid => { idleWorld.presence guid with isAlive := guid != 16 } }

/-- While the fill for the healer comes first. -/
theorem partyOfTwo_waits :
    Waits (partyOfTwo.fillPending sixBotsRealm sixBots (fun _ => 28)
      [("The Stockade", LFTManager.queuedWith 2 2 2 false)]).lfg "The Stockade"
        (LFTManager.queuedWith 2 4 4 false) :=
  @fillPending_waits partyOfTwo _ _ _ (fun _ => true)
    ("The Stockade", LFTManager.queuedWith 2 4 4 false) _ (by decide +kernel)

theorem Surroundings.Passes.alive {around : Surroundings} {wanted : Role} {lfg : LFTManager}
    {world : World} {bot : Character} (passes : around.Passes wanted lfg world bot) :
    (world.presence bot.guid).isAlive = true := by
  have idle : Surroundings.isIdle lfg world bot = true →
      (world.presence bot.guid).isAlive = true := by
    intro passed
    simp only [Surroundings.isIdle, Bool.and_eq_true] at passed
    exact passed.1.1.1.1.2
  cases passes with
  | idle isIdle => exact idle isIdle
  | grouped _ alive => exact alive
  | respecced _ isIdle => exact idle isIdle

end TortoiseWow.LFT
