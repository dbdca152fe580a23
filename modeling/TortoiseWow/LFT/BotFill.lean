import TortoiseWow.LFT.Matcher

/-!
The fill of src/game/LFT/LFTBotFill.cpp: for a player who waits for an instance, random bots
are put into the queue until every role is covered. What a module answers for a character, and
what a forced role or leaving a group does to the world, are parameters.
-/

namespace TortoiseWow.LFT

open Lib

inductive PlayerClass where
  | warrior
  | paladin
  | hunter
  | rogue
  | priest
  | shaman
  | mage
  | warlock
  | druid
  | other
  deriving Repr, DecidableEq

def PlayerClass.allowedRoleMask : PlayerClass → UInt8
  | druid => Role.tank.bit ||| Role.healer.bit ||| Role.damage.bit
  | hunter => Role.damage.bit
  | mage => Role.damage.bit
  | paladin => Role.tank.bit ||| Role.healer.bit ||| Role.damage.bit
  | priest => Role.healer.bit ||| Role.damage.bit
  | rogue => Role.damage.bit
  | shaman => Role.healer.bit ||| Role.damage.bit
  | warlock => Role.damage.bit
  | warrior => Role.tank.bit ||| Role.damage.bit
  | other => 0

/-- What stays the same of a player while bots are searched. -/
structure Character where
  guid : ObjectGuid
  player : Player
  playerClass : PlayerClass
  accountName : Option String
  isAIControlled : Bool
  deriving DecidableEq

def Character.isRandomBotAccount (c : Character) : Bool :=
  match c.accountName with
  | none => false
  | some name => "RNDBOT".toList.isPrefixOf (name.toList.map Char.toUpper)

/-- What may change. -/
structure Presence where
  isInWorld : Bool := true
  isAlive : Bool := true
  inBattleGround : Bool := false
  inBattleGroundQueue : Bool := false
  group : Option Nat := none
  allowedRoles : UInt8
  deriving DecidableEq

structure World where
  presence : ObjectGuid → Presence
  memberSlots : Nat → List ObjectGuid

/-- The players, the groups that the matcher formed, the modules and the configuration. -/
structure Surroundings where
  characters : List Character
  lftGroupIds : List Nat := []
  setForcedRole : World → ObjectGuid → UInt8 → World
  removeFromGroup : World → ObjectGuid → World
  levelBelow : Nat := 2
  levelBelowHealer : Nat := 4
  levelAbove : Nat := 6

/-- The queued player for whom the instance is filled, with his level. -/
structure Waiter where
  entry : Entry
  level : Nat

def add32 (a b : Nat) : Nat := (a + b) % 2 ^ 32

namespace Surroundings

variable (around : Surroundings) (waiter : Waiter) (wanted : Role)

def lowerBound : Nat := if wanted = .healer then around.levelBelowHealer else around.levelBelow

/-- The tests of all three searches on what stays the same. -/
def suits (bot : Character) : Bool :=
  bot.isAIControlled && bot.isRandomBotAccount && bot.player.team == waiter.entry.2.team &&
    !(decide (add32 bot.player.level (around.lowerBound wanted) < waiter.level) ||
      decide (add32 waiter.level around.levelAbove < bot.player.level)) &&
    bot.playerClass.allowedRoleMask &&& wanted.bit != 0

def getPlayer (world : World) (guid : ObjectGuid) : Option Character :=
  around.characters.find? fun c => c.guid == guid && (world.presence guid).isInWorld

variable (lfg : LFTManager)

def isQueued (guid : ObjectGuid) : Bool := (lfg.queue.find? guid).isSome

def isIdle (world : World) (bot : Character) : Bool :=
  let presence := world.presence bot.guid
  presence.isInWorld && presence.isAlive && presence.group.isNone && !presence.inBattleGround &&
    !presence.inBattleGroundQueue && !isQueued lfg bot.guid

def fillsRole (world : World) (bot : Character) : Bool :=
  (world.presence bot.guid).allowedRoles &&& wanted.bit != 0

def findIdleBot (world : World) : Option Character :=
  around.characters.find? fun bot =>
    isIdle lfg world bot && around.suits waiter wanted bot && fillsRole wanted world bot

def botsOnly (world : World) (group : Nat) : Bool :=
  (world.memberSlots group).all fun guid =>
    (lfg.playerOffers.find? guid).isNone &&
      match around.getPlayer world guid with
      | none => false
      | some member => member.isAIControlled && member.isRandomBotAccount

def takeFromBotOnlyGroup (world : World) : Option Character × World :=
  let taken := around.characters.find? fun bot =>
    let presence := world.presence bot.guid
    presence.isInWorld && presence.isAlive && around.suits waiter wanted bot &&
      !presence.inBattleGround && !presence.inBattleGroundQueue && !isQueued lfg bot.guid &&
      fillsRole wanted world bot &&
      match presence.group with
      | none => false
      | some group => around.lftGroupIds.contains group && around.botsOnly lfg world group
  match taken with
  | none => (none, world)
  | some bot => (some bot, around.removeFromGroup world bot.guid)

/-- The loop over the characters. A bot that refuses the role may be changed all the same. -/
def takeBotAndRespecFor : List Character → World → Option Character × World
  | [], world => (none, world)
  | bot :: rest, world =>
      if isIdle lfg world bot && around.suits waiter wanted bot &&
          decide (10 ≤ bot.player.level) && !fillsRole wanted world bot then
        let world := around.setForcedRole world bot.guid wanted.bit
        if fillsRole wanted world bot then (some bot, world)
        else takeBotAndRespecFor rest world
      else takeBotAndRespecFor rest world

def chooseBot (world : World) : Option Character × World :=
  match around.findIdleBot waiter wanted lfg world with
  | some bot => (some bot, world)
  | none =>
      match around.takeFromBotOnlyGroup waiter wanted lfg world with
      | (some bot, world) => (some bot, world)
      | (none, world) =>
          if wanted = .damage then (none, world)
          else around.takeBotAndRespecFor waiter wanted lfg around.characters world

end Surroundings

/-- The manager with the number of the next place in the queue, which is behind all others,
the fill bots, and the world. -/
structure FillState where
  lfg : LFTManager
  nextQueueOrder : Nat
  ordered : ∀ entry ∈ lfg.queue.entries, entry.2.queueOrder < nextQueueOrder
  fillBots : List ObjectGuid := []
  world : World

def queuedAs (character : Character) (leaderGuid : ObjectGuid) (queueOrder : Nat)
    (instances : List String) (roleMask : UInt8) : QueuedPlayer :=
  { queueLeaderGuid := leaderGuid
    team := character.player.team
    isHardcore := character.player.isHardcore
    queueOrder
    instances
    roleMask
    assignedRole := pickRole roleMask 0 0 0 }

namespace FillState

theorem assign_ordered {queue : OrderedMap ObjectGuid QueuedPlayer} {next : Nat}
    (ordered : ∀ entry ∈ queue.entries, entry.2.queueOrder < next) {guid : ObjectGuid}
    {queued : QueuedPlayer} (last : queued.queueOrder = next) :
    ∀ entry ∈ (queue.assign guid queued).entries, entry.2.queueOrder < next + 1 := by
  intro entry inside
  rcases OrderedMap.mem_assignEntries_of_mem inside with new | old
  · rw [new]
    exact Nat.lt_succ_of_le (Nat.le_of_eq last)
  · exact Nat.lt_succ_of_lt (ordered entry old)

def enqueuePlayer (s : FillState) (character : Character) (leaderGuid : ObjectGuid)
    (instances : List String) (roleMask : UInt8) : FillState :=
  { s with
    lfg := { s.lfg with
      queue := s.lfg.queue.assign character.guid
        (queuedAs character leaderGuid s.nextQueueOrder instances roleMask) }
    nextQueueOrder := s.nextQueueOrder + 1
    ordered := assign_ordered s.ordered rfl }

end FillState

structure Census where
  count : Role → Nat := fun _ => 0
  inQueue : Nat := 0

def raise (count : Role → Nat) (role : Role) : Role → Nat :=
  fun r => if r = role then count r + 1 else count r

def Census.meet (realm : Realm) (inst : String) (waiter : Entry) (census : Census) (entry : Entry) :
    Census :=
  if ¬ entry.2.instances.contains inst then census
  else if ¬ realm.canQueuedPlayersGroup waiter entry then census
  else
    let inQueue := census.inQueue + 1
    if entry.2.roleMask &&& Role.tank.bit ≠ 0 ∧ census.count .tank < 1 then
      { count := raise census.count .tank, inQueue }
    else if entry.2.roleMask &&& Role.healer.bit ≠ 0 ∧ census.count .healer < 1 then
      { count := raise census.count .healer, inQueue }
    else if entry.2.roleMask &&& Role.damage.bit ≠ 0 ∧ census.count .damage < 3 then
      { count := raise census.count .damage, inQueue }
    else { census with inQueue }

/-- What is already covered. -/
def LFTManager.census (lfg : LFTManager) (realm : Realm) (inst : String) (waiter : Entry) :
    Census :=
  lfg.getQueueOrder.foldl (Census.meet realm inst waiter) {}

def wantedRole (count : Role → Nat) : Option Role :=
  if count .tank < 1 then some .tank
  else if count .healer < 1 then some .healer
  else if count .damage < 3 then some .damage
  else none

/-- The locals of the fill; `added` and `short` are the two kinds of its log lines. -/
structure Filling where
  state : FillState
  count : Role → Nat
  inQueue : Nat
  added : List (ObjectGuid × Role) := []
  short : List Role := []

namespace Filling

def addBot (filling : Filling) (inst : String) (bot : Character) (world : World) (wanted : Role) :
    Filling :=
  let state := { filling.state with world }.enqueuePlayer bot 0 [inst] wanted.bit
  { filling with
    state := { state with fillBots := bot.guid :: state.fillBots }
    count := raise filling.count wanted
    inQueue := filling.inQueue + 1
    added := filling.added ++ [(bot.guid, wanted)] }

/-- No bot was found: the role counts as covered from here on. -/
def staysShort (filling : Filling) (world : World) (wanted : Role) : Filling :=
  { filling with
    state := { filling.state with world }
    count := fun r => if r = wanted then 1 else filling.count r
    short := filling.short ++ [wanted] }

end Filling

def fillLoop (around : Surroundings) (inst : String) (waiter : Waiter) : Nat → Filling → Filling
  | 0, filling => filling
  | fuel + 1, filling =>
      if 5 ≤ filling.inQueue then filling
      else
        match wantedRole filling.count with
        | none => filling
        | some wanted =>
            match around.chooseBot waiter wanted filling.state.lfg filling.state.world with
            | (some bot, world) =>
                fillLoop around inst waiter fuel (filling.addBot inst bot world wanted)
            | (none, world) =>
                if wanted = .damage then
                  { filling with
                    state := { filling.state with world }
                    short := filling.short ++ [wanted] }
                else fillLoop around inst waiter fuel (filling.staysShort world wanted)

/-- Each round covers a role or adds a bot, so seven are enough. -/
def FillState.fillInstanceWithBots (s : FillState) (realm : Realm) (around : Surroundings)
    (inst : String) (waiter : Waiter) : Filling :=
  let census := s.lfg.census realm inst waiter.entry
  fillLoop around inst waiter 7
    { state := s, count := census.count, inQueue := census.inQueue }

def FillState.pending (s : FillState) (longEnough : Entry → Bool) : List (String × Entry) :=
  (s.lfg.queue.entries.filter fun entry =>
    !s.fillBots.contains entry.1 && (s.lfg.playerOffers.find? entry.1).isNone &&
      longEnough entry).flatMap fun entry => entry.2.instances.map fun inst => (inst, entry)

/-- The fills of one update, one after the other. -/
def FillState.fillPending (realm : Realm) (around : Surroundings) (level : ObjectGuid → Nat)
    (s : FillState) (pending : List (String × Entry)) : FillState :=
  pending.foldl (fun s fill =>
    (s.fillInstanceWithBots realm around fill.1 ⟨fill.2, level fill.2.1⟩).state) s

end TortoiseWow.LFT
