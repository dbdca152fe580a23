import TortoiseWow.Battleground.Queue

/-!
Matchmaking: the selection pools, filling running battlegrounds, the premade and
normal checks, and the update that runs them.
-/

namespace TortoiseWow.Battleground

/-- A random reordering, as std::shuffle makes it. -/
structure Shuffle where
  apply : List Ptr → List Ptr
  perm : ∀ list, (apply list).Perm list

def Shuffle.none : Shuffle := ⟨id, fun _ => List.Perm.refl _⟩

/-- The template of the battleground type. -/
structure Template where
  minPlayersPerTeam : Nat
  maxPlayersPerTeam : Nat
  maxPlayers : Nat
  deriving Repr, DecidableEq

structure Config where
  bgTypeId : TypeId
  template : Option Template
  groupLimit : Nat := 40
  premadeQueueGroupMinSize : Nat
  premadeGroupWaitForMatch : UInt32
  invitationType : Nat
  randomize : Bool := false
  avMinPlayersInQueue : Nat := 0
  avInitialMaxPlayers : Nat := 0
  isTesting : Bool := false
  deriving Repr, DecidableEq

/-- What one update meets: the clock, the players in the world, the random
reorderings, what IsAllQueuesEmpty reads beyond the four lists of the bracket, and
how many instance ids other maps took before each new battleground. -/
structure Moment where
  now : UInt32
  find : Guid → Option PlayerState
  shuffle : Shuffle := .none
  avShuffle : Shuffle := .none
  strayEmpty : Bool := true
  otherInstances : Nat := 0

def Team.other : Team → Team
  | .alliance => .horde
  | .horde => .alliance

namespace State

def size (s : State) (ptr : Ptr) : Nat :=
  match s.groups.entry ptr with
  | some ginfo => ginfo.players.length
  | none => 0

def isInvited (s : State) (ptr : Ptr) : Bool :=
  match s.groups.entry ptr with
  | some ginfo => ginfo.isInvitedToBGInstanceGUID != 0
  | none => false

def setPool (s : State) (team : Team) (pool : SelectionPool) : State :=
  { s with
    selectionPools := Function.update s.selectionPools team pool
    observed := s.observed ++ [pool] }

def initPools (s : State) : State := (s.setPool .alliance {}).setPool .horde {}

/-- A member in the world that must not be selected now. -/
def isBusy (find : Guid → Option PlayerState) (guid : Guid) : Bool :=
  match find guid with
  | some player =>
      player.inBattleGround || player.taxiFlying || !player.connected || player.logingOut
  | none => false

def selectable (find : Guid → Option PlayerState) (s : State) (ptr : Ptr) (bgInstanceId : Nat) :
    Bool :=
  match s.groups.entry ptr with
  | some ginfo =>
      ginfo.isInvitedToBGInstanceGUID == 0 &&
      (ginfo.desiredInstanceId == 0 || ginfo.desiredInstanceId == bgInstanceId) &&
      !ginfo.players.any (isBusy find)
  | none => false

def poolAddGroup (find : Guid → Option PlayerState) (s : State) (team : Team) (ptr : Ptr)
    (desiredCount bgInstanceId : Nat) : Bool × State :=
  let pool := s.selectionPools team
  if s.selectable find ptr bgInstanceId ∧ pool.playerCount + s.size ptr ≤ desiredCount then
    (true, s.setPool team
      { selectedGroups := pool.selectedGroups ++ [ptr]
        playerCount := pool.playerCount + s.size ptr })
  else (decide (pool.playerCount < desiredCount), s)

/-- The position KickGroup chooses: the last group whose size is within one of
`size`, otherwise the last of the largest. -/
def groupToKick (s : State) (size : Nat) : List Ptr → Nat → Bool → Nat → Nat → Nat
  | [], _, _, best, _ => best
  | ptr :: rest, i, found, best, bestSize =>
      if (s.size ptr : Int) - size ≤ 1 ∧ (size : Int) - s.size ptr ≤ 1 then
        s.groupToKick size rest (i + 1) true i (s.size ptr)
      else if ¬ found ∧ bestSize ≤ s.size ptr then
        s.groupToKick size rest (i + 1) found i (s.size ptr)
      else s.groupToKick size rest (i + 1) found best bestSize

def poolKickGroup (s : State) (team : Team) (size : Nat) : Bool × State :=
  let pool := s.selectionPools team
  if pool.playerCount = 0 then (true, s)
  else
    let first := (pool.selectedGroups.head?.map s.size).getD 0
    let i := s.groupToKick size pool.selectedGroups 0 false 0 first
    match pool.selectedGroups[i]? with
    | some ptr =>
        (decide (size + 1 < s.size ptr), s.setPool team
          { selectedGroups := pool.selectedGroups.eraseIdx i
            playerCount := pool.playerCount - s.size ptr })
    | none => (true, s)

/-- Adds groups while AddGroup says so; what is left starts with the group that
ended the loop. -/
def fillFrom (find : Guid → Option PlayerState) (team : Team) (desiredCount bgInstanceId : Nat) :
    State → List Ptr → State × List Ptr
  | s, [] => (s, [])
  | s, ptr :: rest =>
      match s.poolAddGroup find team ptr desiredCount bgInstanceId with
      | (true, s) => fillFrom find team desiredCount bgInstanceId s rest
      | (false, s) => (s, ptr :: rest)

def playerCount (s : State) (team : Team) : Nat := (s.selectionPools team).playerCount

/-- The free slots of both teams and the groups not yet looked at. -/
structure Filling where
  free : Team → Int
  rest : Team → List Ptr
  bgInstanceId : Nat

def Filling.diff (filling : Filling) (s : State) (team : Team) : Int :=
  filling.free team - s.playerCount team

/-- How many players the pool of the team with less room may grow to. -/
def Filling.room (filling : Filling) (diff : Int) (team : Team) : Nat :=
  if diff ≤ filling.free team then (filling.free team - diff).toNat else 0

/-- New groups for a pool that was kicked empty or lost a large group. -/
def refill (find : Guid → Option PlayerState) (team : Team) (desiredCount bgInstanceId : Nat)
    (again : Bool) (s : State) (list : List Ptr) : State × List Ptr :=
  if again then fillFrom find team desiredCount bgInstanceId s list else (s, list)

def kickRound (find : Guid → Option PlayerState) (s : State) (filling : Filling) (team : Team) :
    Bool × State × Filling :=
  let diff := filling.diff s team.other
  let size := (diff - filling.diff s team).toNat
  let kicked := s.poolKickGroup team size
  let refilled := refill find team (filling.room diff team) filling.bgInstanceId kicked.1 kicked.2
    (filling.rest team)
  let filling := { filling with rest := Function.update filling.rest team refilled.2 }
  if refilled.1.playerCount team = 0 then
    if filling.free team ≤ diff + 1 then (false, refilled.1, filling)
    else (true, (refilled.1.poolKickGroup team.other size).2, filling)
  else (true, refilled.1, filling)

def balance (find : Guid → Option PlayerState) (differential : Int) :
    Nat → State → Filling → State
  | 0, s, _ => s
  | fuel + 1, s, filling =>
      let diffAli := filling.diff s .alliance
      let diffHorde := filling.diff s .horde
      if differential < |diffAli - diffHorde| ∧
          (0 < s.playerCount .horde ∨ 0 < s.playerCount .alliance) then
        match s.kickRound find filling (if diffAli < diffHorde then .alliance else .horde) with
        | (true, s, filling) => balance find differential fuel s filling
        | (false, s, _) => s
      else s

/-- Every round kicks a group or looks at a further one, so the fuel is enough. -/
def fillPlayersToBG (config : Config) (find : Guid → Option PlayerState) (s : State)
    (bg : BattleGround) (bracket : Bracket) : State :=
  if bg.isArena then s
  else
    let free (team : Team) : Int := bg.getFreeSlotsForTeam team
    let ali := s.queuedGroups bracket .normal .alliance
    let horde := s.queuedGroups bracket .normal .horde
    let (s, aliRest) := fillFrom find .alliance (free .alliance).toNat bg.clientInstanceID s ali
    let (s, hordeRest) := fillFrom find .horde (free .horde).toNat bg.clientInstanceID s horde
    if config.invitationType = 0 then s
    else
      let rest : Team → List Ptr
        | .alliance => aliRest
        | .horde => hordeRest
      s.balance find (if bg.typeID = .av then 3 else 0) (2 * (ali.length + horde.length) + 1)
        { free, rest, bgInstanceId := bg.clientInstanceID }

def inviteAllGroups (moment : Moment) (s : State) (bg : BattleGround) : State × BattleGround :=
  ((s.selectionPools .alliance).selectedGroups ++ (s.selectionPools .horde).selectedGroups).foldl
    (fun sbg ptr => sbg.1.inviteGroupToBG moment.find moment.now ptr sbg.2) (s, bg)

/-- Writes a battleground back. -/
def putBattleGround (s : State) (bg : BattleGround) : State :=
  s.modifyBattleGround bg.instanceID bg.typeID fun _ => bg

def fillBattleGround (config : Config) (moment : Moment) (bracket : Bracket) (s : State)
    (instanceID : UInt32) : State :=
  match s.getBattleGround instanceID config.bgTypeId with
  | some bg =>
      if bg.bracketId = bracket ∧ (bg.status = .waitJoin ∨ bg.status = .inProgress) then
        let s := s.initPools
        let s := s.fillPlayersToBG config moment.find bg bracket
        let (s, bg) := s.inviteAllGroups moment bg
        let s := s.putBattleGround bg
        if bg.hasFreeSlots then s
        else { s with freeSlotQueue := s.freeSlotQueue.erase instanceID }
      else s
  | none => s

/-- Offers the groups of a list to a pool until it has enough players. The result
has the groups behind the one at which the loop stopped, or nothing if it ran to
the end. -/
def scan (find : Guid → Option PlayerState) (team : Team) (eligible : State → Ptr → Bool)
    (minPlayers maxPlayers : Nat) : State → List Ptr → State × Option (List Ptr)
  | s, [] => (s, none)
  | s, ptr :: rest =>
      if eligible s ptr then
        let s := (s.poolAddGroup find team ptr maxPlayers 0).2
        if minPlayers ≤ s.playerCount team then (s, some rest)
        else scan find team eligible minPlayers maxPlayers s rest
      else scan find team eligible minPlayers maxPlayers s rest

def isPremadeSize (config : Config) (s : State) (ptr : Ptr) : Bool :=
  !s.isInvited ptr && decide (config.premadeQueueGroupMinSize ≤ s.size ptr)

def scanPremade (config : Config) (find : Guid → Option PlayerState) (bracket : Bracket)
    (minPlayers maxPlayers : Nat) (s : State) (kind : Kind) (team : Team) : State :=
  (scan find team (isPremadeSize config) minPlayers maxPlayers s
    (s.queuedGroups bracket kind team)).1

/-- The first premade group that waited long enough, or became too small, moves to
the normal list. -/
def moveToNormal (config : Config) (moment : Moment) (bracket : Bracket) (minPlayers : Nat)
    (s : State) (team : Team) : State :=
  match s.queuedGroups bracket .premade team with
  | ptr :: rest =>
      match s.groups.entry ptr with
      | some ginfo =>
          if ginfo.isInvitedToBGInstanceGUID = 0 ∧
              (ginfo.joinTime < moment.now - config.premadeGroupWaitForMatch ∨
                ginfo.players.length < minPlayers) then
            (s.setGroups bracket .normal team
              (s.queuedGroups bracket .normal team ++ [ptr])).setGroups
              bracket .premade team rest
          else s
      | none => s
  | [] => s

/-- Enough players on both sides, or any in testing mode. -/
def poolsReady (config : Config) (s : State) (minPlayers : Nat) : Bool :=
  (config.isTesting && (decide (0 < s.playerCount .alliance) || decide (0 < s.playerCount .horde)))
    || (decide (minPlayers ≤ s.playerCount .alliance) && decide (minPlayers ≤ s.playerCount .horde))

def premadeScans : List (Kind × Team) :=
  [(.premade, .alliance), (.premade, .horde), (.normal, .alliance), (.normal, .horde)]

def checkPremadeMatch (config : Config) (moment : Moment) (s : State) (bracket : Bracket)
    (minPlayers maxPlayers : Nat) : Bool × State :=
  let scanned := premadeScans.foldl
    (fun s place => scanPremade config moment.find bracket minPlayers maxPlayers s place.1 place.2)
      s
  if scanned.poolsReady config minPlayers then (true, scanned)
  else
    (false, ((scanned.moveToNormal config moment bracket minPlayers .alliance).moveToNormal
      config moment bracket minPlayers .horde))

/-- Further groups for the smaller side, up to the size of the other. -/
def extend (find : Guid → Option PlayerState) (team : Team) : State → List Ptr → State
  | s, [] => s
  | s, ptr :: rest =>
      if s.isInvited ptr then extend find team s rest
      else
        match s.poolAddGroup find team ptr (s.playerCount team.other) 0 with
        | (true, s) => extend find team s rest
        | (false, s) => s

def scanNormal (find : Guid → Option PlayerState) (s : State) (bracket : Bracket)
    (minPlayers maxPlayers : Nat) : State × (Team → Option (List Ptr)) :=
  let ali := scan find .alliance (fun s ptr => !s.isInvited ptr) minPlayers maxPlayers s
    (s.queuedGroups bracket .normal .alliance)
  let horde := scan find .horde (fun s ptr => !s.isInvited ptr) minPlayers maxPlayers ali.1
    (s.queuedGroups bracket .normal .horde)
  (horde.1, fun
    | .alliance => ali.2
    | .horde => horde.2)

/-- The team with fewer players in its pool. -/
def smallerTeam (s : State) : Team :=
  if s.playerCount .horde < s.playerCount .alliance then .horde else .alliance

/-- Both sides have enough and the smaller one is filled up. -/
def balanceNormal (config : Config) (find : Guid → Option PlayerState) (s : State)
    (minPlayers : Nat) : Option (List Ptr) → Bool × State
  | none => (false, { s with endIncremented := true })
  | some rest =>
      let extended := extend find s.smallerTeam s rest
      if 1 < |(extended.playerCount .horde : Int) - extended.playerCount .alliance| then
        (false, extended)
      else (extended.poolsReady config minPlayers, extended)

def checkNormalMatch (config : Config) (moment : Moment) (s : State) (bracket : Bracket)
    (minPlayers maxPlayers : Nat) : Bool × State :=
  let scanned := s.scanNormal moment.find bracket minPlayers maxPlayers
  if config.invitationType ≠ 0 ∧ minPlayers ≤ scanned.1.playerCount .horde ∧
      minPlayers ≤ scanned.1.playerCount .alliance then
    scanned.1.balanceNormal config moment.find minPlayers (scanned.2 scanned.1.smallerTeam)
  else (scanned.1.poolsReady config minPlayers, scanned.1)

/-- Offline for longer than OFFLINE_BG_QUEUE_TIME, or invited to a battleground
that is over. -/
def isStale (s : State) (now : UInt32) (info : PlayerQueueInfo) : Bool :=
  (!info.online && decide (60000 < msTimeDiff info.lastOnlineTime now)) ||
  match s.groups.entry info.groupInfo with
  | some group =>
      group.isInvitedToBGInstanceGUID != 0 &&
      (s.getBattleGround group.isInvitedToBGInstanceGUID group.bgTypeId).any
        (·.status == .waitLeave)
  | none => false
where
  msTimeDiff (old new : UInt32) : UInt32 :=
    if new < old then min (0xFFFFFFFF - old + new) (old - new) else new - old

/-- The loop starts over after every removal. -/
def purge (now : UInt32) : Nat → State → State
  | 0, s => s
  | fuel + 1, s =>
      match s.queuedPlayers.entries.find? fun entry => s.isStale now entry.2 with
      | some entry => purge now fuel (s.removePlayer entry.1 true)
      | none => s

def isAllQueuesEmpty (s : State) (bracket : Bracket) (strayEmpty : Bool) : Bool :=
  (s.queuedGroups bracket .premade .alliance).isEmpty &&
  (s.queuedGroups bracket .premade .horde).isEmpty &&
  (s.queuedGroups bracket .normal .alliance).isEmpty &&
  (s.queuedGroups bracket .normal .horde).isEmpty && strayEmpty

def reorder (s : State) (bracket : Bracket) (f : List Ptr → List Ptr) : State :=
  let s := s.setGroups bracket .normal .alliance (f (s.queuedGroups bracket .normal .alliance))
  s.setGroups bracket .normal .horde (f (s.queuedGroups bracket .normal .horde))

def unusedId (ids : List Nat) : Nat → Nat → Nat
  | 0, lastId => lastId
  | fuel + 1, lastId => if lastId ∈ ids then unusedId ids fuel (lastId + 1) else lastId

def createClientVisibleInstanceId (s : State) (bracket : Bracket) : Nat :=
  let ids := (s.battleGrounds.filter (·.bracketId = bracket)).map (·.clientInstanceID)
  unusedId ids ids.length 1

def createNewBattleGround (config : Config) (s : State) (bracket : Bracket)
    (template : Template) : BattleGround where
  instanceID := s.maxInstanceId
  clientInstanceID := s.createClientVisibleInstanceId bracket
  typeID := config.bgTypeId
  bracketId := bracket
  status := .waitJoin
  maxPlayersPerTeam := template.maxPlayersPerTeam
  maxPlayers := template.maxPlayers

def recordCreation (moment : Moment) (s : State) (minPlayers maxPlayers : Nat) : State :=
  let creation : Creation :=
    { pools := s.selectionPools, groups := s.groups, minPlayersPerTeam := minPlayers,
      maxPlayersPerTeam := maxPlayers }
  { s with
    maxInstanceId := s.maxInstanceId + UInt32.ofNat moment.otherInstances + 1
    creations := s.creations ++ [creation] }

def startBattleGround (s : State) (bg : BattleGround) : State :=
  { s with
    battleGrounds := s.battleGrounds ++ [bg]
    freeSlotQueue := bg.instanceID :: s.freeSlotQueue }

def createMatch (config : Config) (moment : Moment) (s : State) (bracket : Bracket)
    (template : Template) (minPlayers maxPlayers : Nat) : State :=
  let s := s.recordCreation moment minPlayers maxPlayers
  let invited := s.inviteAllGroups moment (s.createNewBattleGround config bracket template)
  (invited.1.startBattleGround invited.2).initPools

def normalMatches (config : Config) (moment : Moment) (bracket : Bracket) (template : Template)
    (minPlayers maxPlayers : Nat) : Nat → State → State
  | 0, s => s
  | attempts + 1, s =>
      match s.checkNormalMatch config moment bracket minPlayers maxPlayers with
      | (true, s) =>
          normalMatches config moment bracket template minPlayers maxPlayers attempts
            (s.createMatch config moment bracket template minPlayers maxPlayers)
      | (false, s) =>
          normalMatches config moment bracket template minPlayers maxPlayers attempts s

def uninvitedGroups (s : State) (bracket : Bracket) (team : Team) : Nat :=
  ((s.queuedGroups bracket .normal team).filter fun ptr => !s.isInvited ptr).length

/-- Alterac with a minimum that is not reached allows no normal match; otherwise
the first groups are reordered. The number is that of the attempts. -/
def alteracMinimum (config : Config) (moment : Moment) (s : State) (bracket : Bracket) :
    Nat × State :=
  if config.bgTypeId = .av ∧ config.avMinPlayersInQueue ≠ 0 ∧ ¬ config.isTesting then
    let n := config.avMinPlayersInQueue
    if s.uninvitedGroups bracket .alliance < n ∨ s.uninvitedGroups bracket .horde < n then (0, s)
    else (1, s.reorder bracket fun list => moment.avShuffle.apply (list.take n) ++ list.drop n)
  else (1, s)

/-- The numbers an update works with. -/
structure Limits where
  minPlayers : Nat
  maxPlayers : Nat
  attempts : Nat
  deriving Repr, DecidableEq

/-- Alterac with an initial maximum gets two attempts; testing needs one player. -/
def limits (config : Config) (template : Template) (attempts : Nat) : Limits :=
  let minPlayers := if config.isTesting then 1 else template.minPlayersPerTeam
  if config.bgTypeId = .av ∧ config.avInitialMaxPlayers ≠ 0 ∧ ¬ config.isTesting ∧ attempts ≠ 0 then
    { minPlayers, maxPlayers := max config.avInitialMaxPlayers template.minPlayersPerTeam,
      attempts := 2 }
  else { minPlayers, maxPlayers := template.maxPlayersPerTeam, attempts }

def makeMatches (config : Config) (moment : Moment) (s : State) (bracket : Bracket)
    (template : Template) (limits : Limits) : State :=
  let checked := s.initPools.checkPremadeMatch config moment bracket limits.minPlayers
    limits.maxPlayers
  let s :=
    if checked.1 then
      checked.2.createMatch config moment bracket template limits.minPlayers limits.maxPlayers
    else checked.2
  s.normalMatches config moment bracket template limits.minPlayers limits.maxPlayers limits.attempts

/-- The part of Update that looks for new matches. -/
def findMatches (config : Config) (moment : Moment) (s : State) (bracket : Bracket)
    (template : Template) : State :=
  let minimum := s.alteracMinimum config moment bracket
  minimum.2.makeMatches config moment bracket template (limits config template minimum.1)

def update (config : Config) (moment : Moment) (s : State) (bracket : Bracket) : State :=
  let s := s.purge moment.now s.queuedPlayers.entries.length
  if s.isAllQueuesEmpty bracket moment.strayEmpty then s
  else
    let s := if config.randomize then s.reorder bracket moment.shuffle.apply else s
    let s := s.freeSlotQueue.foldl (fillBattleGround config moment bracket) s
    match config.template with
    | none => s
    | some template => s.findMatches config moment bracket template

end State

inductive QueueEvent where
  | addGroup (leader : Joining) (party : Option Party) (request : JoinRequest)
  | removePlayer (guid : Guid) (decreaseInvitedCount : Bool)
  | invite (ptr : Ptr) (bg : BattleGround) (moment : Moment)
  | moveToNormal (bracket : Bracket) (minPlayers : Nat) (team : Team) (moment : Moment)
  | loggedOut (guid : Guid) (now : UInt32)
  | loggedIn (guid : Guid)
  | update (bracket : Bracket) (moment : Moment)

namespace State

def step (config : Config) (s : State) : QueueEvent → State
  | .addGroup leader party request => s.addGroup config.groupLimit leader party request
  | .removePlayer guid decreaseInvitedCount => s.removePlayer guid decreaseInvitedCount
  | .invite ptr bg moment => (s.inviteGroupToBG moment.find moment.now ptr bg).1
  | .moveToNormal bracket minPlayers team moment =>
      s.moveToNormal config moment bracket minPlayers team
  | .loggedOut guid now => s.playerLoggedOut guid now
  | .loggedIn guid => s.playerLoggedIn guid
  | .update bracket moment => s.update config moment bracket

def run (config : Config) (s : State) (events : List QueueEvent) : State :=
  Lib.run (step config) s events

end State

end TortoiseWow.Battleground
