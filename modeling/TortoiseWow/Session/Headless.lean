import TortoiseWow.Lib.FixedWidth
import TortoiseWow.Lib.OrderedMap
import TortoiseWow.Lib.Run

/-!
The manager of headless sessions. Sessions and login query holders are numbered in the order
of their creation; `ended`, `consumed` and `requests` are records that no function reads.
`Surroundings` are the answers of the rest of the server during one call.
-/

namespace TortoiseWow

namespace Headless

inductive SessionTransport where
  | network
  | headless
  deriving Repr, DecidableEq

inductive HeadlessSessionStartResult where
  | started
  | invalidAccount
  | invalidCharacter
  | characterLocked
  | characterNotOwned
  | duplicate
  | conflictingPlayer
  | queryDispatchFailed
  | accountBanned
  deriving Repr, DecidableEq

def isPlayer (guid : UInt64) : Bool := guid ≠ 0 ∧ guid >>> 48 = 0

def getCounter (guid : UInt64) : UInt32 := guid.toUInt32

structure WorldSession where
  accountId : UInt32
  transport : SessionTransport := .headless
  player : Option Nat := none
  masterPlayer : Bool := false
  playerLoading : Bool := false
  headlessLoginRequested : Bool := false
  loginRequestGuid : UInt64 := 0
  loginRequestToken : UInt64 := 0
  deriving Repr, DecidableEq

structure LoginQueryHolder where
  id : Nat
  accountId : UInt32
  guid : UInt64
  transport : SessionTransport
  requestToken : UInt64
  deriving Repr, DecidableEq

structure SessionEntry where
  session : Nat
  accountId : UInt32
  characterGuid : UInt64
  requestToken : UInt64
  outOfWorldElapsed : UInt32 := 0
  deriving Repr, DecidableEq

structure DeferredStop where
  token : UInt64
  save : Bool
  deriving Repr, DecidableEq

structure Surroundings where
  /-- `AccountMgr::GetName` finds the account. -/
  accountName : UInt32 → Bool
  accountBanned : UInt32 → Bool
  characterLocked : UInt32 → Bool
  /-- The account in the cached data of the character. -/
  characterAccount : UInt32 → Option UInt32
  /-- A network session is loading the character. -/
  networkLogin : UInt64 → Bool
  player : UInt64 → Option Nat
  /-- `LoginQueryHolder::Initialize` succeeds. -/
  initialized : Bool
  queued : Bool
  nextLoginRequestToken : UInt64
  loadFromDB : Option Nat

structure SessionUpdate where
  processPackets : WorldSession → WorldSession
  shouldLogOut : Bool
  isInWorld : Bool
  isBeingTeleported : Bool

inductive Ending where
  | destroyed (save clearCharacterOnline loggedOut : Bool)
  | handedOver (player replacement : Nat)
  | deleted
  deriving Repr, DecidableEq

structure Ended where
  session : Nat
  ending : Ending
  deriving Repr, DecidableEq

structure StopRequest where
  guid : UInt64
  session : Nat
  save : Bool
  deriving Repr, DecidableEq

namespace WorldSession

def isLoginRequest (session : WorldSession) (holder : LoginQueryHolder) : Bool :=
  session.loginRequestGuid = holder.guid ∧ session.transport = holder.transport ∧
    session.loginRequestToken = holder.requestToken

def handlePlayerLogin (session : WorldSession) (around : Surroundings)
    (holder : LoginQueryHolder) : WorldSession :=
  if session.isLoginRequest holder = false ∨ holder.accountId ≠ session.accountId then session
  else if session.player.isSome ∨ session.playerLoading = false then
    { session with playerLoading := false }
  -- a headless session takes no character over, in the world or not
  else if (around.player holder.guid).isSome then { session with playerLoading := false }
  else
    match around.loadFromDB with
    | none => { session with playerLoading := false }
    | some player =>
        { session with
          player := some player
          masterPlayer := true
          playerLoading := false
          headlessLoginRequested := false }

def update (session : WorldSession) (met : SessionUpdate) : Bool × WorldSession :=
  let session := met.processPackets session
  if session.playerLoading = false ∧ met.shouldLogOut then (false, session)
  else if session.player = none ∧ session.playerLoading = false ∧ session.headlessLoginRequested
    then (false, session)
  else (true, session)

end WorldSession

structure HeadlessSessionMgr where
  sessions : Lib.OrderedMap UInt64 SessionEntry := .empty
  pendingSessions : Lib.OrderedMap UInt64 SessionEntry := .empty
  nextRequestToken : UInt64 := 0
  stopDeferralDepth : UInt32 := 0
  deferredStops : Lib.OrderedMap UInt64 DeferredStop := .empty
  heap : Nat → WorldSession := fun _ => { accountId := 0 }
  created : Nat := 0
  ended : List Ended := []
  inFlight : List LoginQueryHolder := []
  made : Nat := 0
  consumed : List Nat := []
  requests : List StopRequest := []

namespace HeadlessSessionMgr

def setSession (s : HeadlessSessionMgr) (id : Nat) (session : WorldSession) : HeadlessSessionMgr :=
  { s with heap := Function.update s.heap id session }

def consume (s : HeadlessSessionMgr) (holder : LoginQueryHolder) : HeadlessSessionMgr :=
  { s with consumed := s.consumed ++ [holder.id] }

def validateStart (s : HeadlessSessionMgr) (around : Surroundings) (accountId : UInt32)
    (characterGuid : UInt64) : HeadlessSessionStartResult :=
  if isPlayer characterGuid = false then .invalidCharacter
  else if accountId = 0 then .invalidAccount
  else if around.accountName accountId = false then .invalidAccount
  else if around.accountBanned accountId then .accountBanned
  else if around.characterLocked (getCounter characterGuid) then .characterLocked
  else
    match around.characterAccount (getCounter characterGuid) with
    | none => .invalidCharacter
    | some uiAccount =>
        if uiAccount ≠ accountId then .characterNotOwned
        else if (s.sessions.find? characterGuid).isSome ∨
            (s.pendingSessions.find? characterGuid).isSome then .duplicate
        else if around.networkLogin characterGuid then .conflictingPlayer
        else if (around.player characterGuid).isSome then .conflictingPlayer
        else .started

def newRequestToken (s : HeadlessSessionMgr) : UInt64 :=
  if s.nextRequestToken + 1 = 0 then s.nextRequestToken + 1 + 1 else s.nextRequestToken + 1

def enroll (s : HeadlessSessionMgr) (accountId : UInt32) (characterGuid : UInt64) :
    HeadlessSessionMgr :=
  { s with
    heap := Function.update s.heap s.created { accountId := accountId }
    created := s.created + 1
    nextRequestToken := s.newRequestToken
    pendingSessions := s.pendingSessions.assign characterGuid
      { session := s.created
        accountId := accountId
        characterGuid := characterGuid
        requestToken := s.newRequestToken } }

def enrollDuplicate (s : HeadlessSessionMgr) : HeadlessSessionMgr :=
  { s with
    created := s.created + 1
    nextRequestToken := s.newRequestToken
    ended := s.ended ++ [⟨s.created, .deleted⟩] }

def destroySession (s : HeadlessSessionMgr) (entry : SessionEntry)
    (save clearCharacterOnline : Bool) : HeadlessSessionMgr :=
  let session := s.heap entry.session
  let loggedOut := session.player.isSome || session.masterPlayer
  { s with ended := s.ended ++ [⟨entry.session, .destroyed save clearCharacterOnline loggedOut⟩] }

def endPending (s : HeadlessSessionMgr) (guid : UInt64) (entry : SessionEntry) :
    HeadlessSessionMgr :=
  ({ s with pendingSessions := s.pendingSessions.erase guid }).destroySession entry false false

def endActive (s : HeadlessSessionMgr) (guid : UInt64) (entry : SessionEntry) (save : Bool) :
    HeadlessSessionMgr :=
  ({ s with sessions := s.sessions.erase guid }).destroySession entry save true

/-- The entry whose token a deferred stop records. -/
def current? (s : HeadlessSessionMgr) (guid : UInt64) : Option SessionEntry :=
  match s.sessions.find? guid with
  | some entry => some entry
  | none => s.pendingSessions.find? guid

def deferStop (s : HeadlessSessionMgr) (guid : UInt64) (entry : SessionEntry) (save : Bool) :
    HeadlessSessionMgr :=
  let stop := match s.deferredStops.find? guid with
    | some stop => { stop with save := stop.save && save }
    | none => { token := entry.requestToken, save := save }
  { s with
    deferredStops := s.deferredStops.assign guid stop
    requests := s.requests ++ [⟨guid, entry.session, save⟩] }

def stop (s : HeadlessSessionMgr) (guid : UInt64) (save : Bool) : Bool × HeadlessSessionMgr :=
  if s.stopDeferralDepth ≠ 0 then
    match s.current? guid with
    | none => (false, s)
    | some entry => (true, s.deferStop guid entry save)
  else
    match s.sessions.find? guid with
    | some entry => (true, s.endActive guid entry save)
    | none =>
        match s.pendingSessions.find? guid with
        | none => (false, s)
        | some entry => (true, s.endPending guid entry)

def isFor (stop : DeferredStop) (entry : Option SessionEntry) : Bool :=
  entry.any (·.requestToken = stop.token)

def applyStop (s : HeadlessSessionMgr) (stop : UInt64 × DeferredStop) : HeadlessSessionMgr :=
  if isFor stop.2 (s.sessions.find? stop.1) ∨ isFor stop.2 (s.pendingSessions.find? stop.1) then
    (s.stop stop.1 stop.2.save).2
  else s

def endStopDeferral (s : HeadlessSessionMgr) : HeadlessSessionMgr :=
  -- the assertion stops the server
  if s.stopDeferralDepth = 0 then s
  else if s.stopDeferralDepth - 1 ≠ 0 then { s with stopDeferralDepth := s.stopDeferralDepth - 1 }
  else
    s.deferredStops.entries.foldl applyStop
      { s with stopDeferralDepth := 0, deferredStops := .empty, requests := [] }

def stopPendingOf (accountId : UInt32) (s : HeadlessSessionMgr) (guid : UInt64) :
    HeadlessSessionMgr :=
  match s.pendingSessions.find? guid with
  | none => s
  | some entry => if entry.accountId ≠ accountId then s else s.endPending guid entry

def stopActiveOf (accountId : UInt32) (save : Bool) (s : HeadlessSessionMgr) (guid : UInt64) :
    HeadlessSessionMgr :=
  match s.sessions.find? guid with
  | none => s
  | some entry => if entry.accountId ≠ accountId then s else s.endActive guid entry save

def stopForAccount (s : HeadlessSessionMgr) (accountId : UInt32) (save : Bool) :
    HeadlessSessionMgr :=
  let s := (s.pendingSessions.entries.map (·.1)).foldl (stopPendingOf accountId) s
  (s.sessions.entries.map (·.1)).foldl (stopActiveOf accountId save) s

def isEntryOf (s : HeadlessSessionMgr) (holder : LoginQueryHolder) (entry : SessionEntry) : Bool :=
  entry.accountId = holder.accountId ∧ entry.characterGuid = holder.guid ∧
    entry.requestToken = holder.requestToken ∧
    (s.heap entry.session).transport = holder.transport

def findEntry (s : HeadlessSessionMgr) (holder : LoginQueryHolder) : Option SessionEntry :=
  match (s.sessions.find? holder.guid).filter (s.isEntryOf holder) with
  | some entry => some entry
  | none => (s.pendingSessions.find? holder.guid).filter (s.isEntryOf holder)

def isRefused (around : Surroundings) (holder : LoginQueryHolder) : Bool :=
  around.characterLocked (getCounter holder.guid) ∨
    around.characterAccount (getCounter holder.guid) ≠ some holder.accountId

def handlePlayerLogin (s : HeadlessSessionMgr) (around : Surroundings) (id : Nat)
    (holder : LoginQueryHolder) : HeadlessSessionMgr :=
  (s.setSession id ((s.heap id).handlePlayerLogin around holder)).consume holder

def loginEntry (s : HeadlessSessionMgr) (around : Surroundings) (entry : SessionEntry)
    (holder : LoginQueryHolder) : HeadlessSessionMgr :=
  match s.pendingSessions.find? holder.guid with
  | none => s.handlePlayerLogin around entry.session holder
  | some _ =>
      let s := { s with pendingSessions := s.pendingSessions.erase holder.guid }
      match s.sessions.find? holder.guid with
      | some _ => (s.destroySession entry false false).consume holder
      | none =>
          ({ s with sessions := s.sessions.assign holder.guid entry }).handlePlayerLogin around
            entry.session holder

def handleLoginCallback (s : HeadlessSessionMgr) (around : Surroundings)
    (holder : LoginQueryHolder) : HeadlessSessionMgr :=
  if holder.transport ≠ .headless then s.consume holder
  else
    match s.findEntry holder with
    | none => s.consume holder
    | some entry =>
        if around.accountBanned holder.accountId then
          (s.stopForAccount holder.accountId true).consume holder
        else if isRefused around holder then (s.stop holder.guid false).2.consume holder
        else
          match around.player holder.guid with
          | some livePlayer =>
              if (s.heap entry.session).player ≠ some livePlayer then
                (s.stop holder.guid false).2.consume holder
              else s.consume holder
          | none => s.loginEntry around entry holder

def loginPlayer (s : HeadlessSessionMgr) (around : Surroundings) (id : Nat)
    (guid requestToken : UInt64) : Bool × HeadlessSessionMgr :=
  let session := s.heap id
  if session.playerLoading ∨ session.player.isSome then (false, s)
  else
    let requestToken := if requestToken = 0 then around.nextLoginRequestToken else requestToken
    let holder : LoginQueryHolder :=
      { id := s.made
        accountId := session.accountId
        guid := guid
        transport := session.transport
        requestToken := requestToken }
    let s := { s with made := s.made + 1 }
    if around.initialized = false then (false, s.consume holder)
    else
      let session := { session with loginRequestGuid := guid, loginRequestToken := requestToken }
      if around.queued = false then
        (false, (s.setSession id { session with
          playerLoading := false, headlessLoginRequested := false }).consume holder)
      else
        let s := s.setSession id { session with
          playerLoading := true
          headlessLoginRequested := session.transport = .headless }
        (true, { s with inFlight := s.inFlight ++ [holder] })

def start (s : HeadlessSessionMgr) (around : Surroundings) (accountId : UInt32)
    (characterGuid : UInt64) : HeadlessSessionStartResult × HeadlessSessionMgr :=
  let result := s.validateStart around accountId characterGuid
  if result ≠ .started then (result, s)
  else if (s.pendingSessions.find? characterGuid).isSome then (.duplicate, s.enrollDuplicate)
  else
    let session := s.created
    let token := s.newRequestToken
    let login := (s.enroll accountId characterGuid).loginPlayer around session characterGuid token
    if login.1 then (.started, login.2)
    else
      match login.2.pendingSessions.find? characterGuid with
      | none => (.queryDispatchFailed, login.2)
      | some pending =>
          if pending.session = session then
            (.queryDispatchFailed, login.2.endPending characterGuid pending)
          else (.queryDispatchFailed, login.2)

/-- The session of the holder may be logged in at once. -/
def bindLogin (s : HeadlessSessionMgr) (id : Nat) (guid requestToken : UInt64) :
    HeadlessSessionMgr :=
  s.setSession id { s.heap id with
    loginRequestGuid := guid
    loginRequestToken := requestToken
    playerLoading := true
    headlessLoginRequested := true }

/-- The login of `StartPrepared` went through. -/
def isLoggedIn (s : HeadlessSessionMgr) (guid requestToken : UInt64) : Bool :=
  (s.sessions.find? guid).any fun active =>
    active.requestToken = requestToken ∧ (s.heap active.session).player.isSome ∧
      (s.heap active.session).playerLoading = false

def startPrepared (s : HeadlessSessionMgr) (around : Surroundings) (holder : LoginQueryHolder) :
    HeadlessSessionStartResult × HeadlessSessionMgr :=
  if holder.transport ≠ .headless ∨ holder.requestToken ≠ 0 then
    (.queryDispatchFailed, s.consume holder)
  else
    let result := s.validateStart around holder.accountId holder.guid
    if result ≠ .started then (result, s.consume holder)
    else if (s.pendingSessions.find? holder.guid).isSome then
      (.duplicate, s.enrollDuplicate.consume holder)
    else
      let token := s.newRequestToken
      let session := s.created
      let holder := { holder with requestToken := token }
      let s := (s.enroll holder.accountId holder.guid).bindLogin session holder.guid token
      let s := s.handleLoginCallback around holder
      if s.isLoggedIn holder.guid token then (.started, s)
      else if (s.findEntry holder).isSome then (.queryDispatchFailed, (s.stop holder.guid false).2)
      else (.queryDispatchFailed, s)

def reclaimForNetwork (s : HeadlessSessionMgr) (guid : UInt64) (session replacement : Option Nat)
    (accountId : UInt32) : Bool × HeadlessSessionMgr :=
  match s.sessions.find? guid, session, replacement with
  | some entry, some session, some replacement =>
      if replacement = session ∨ entry.session ≠ session ∨ entry.accountId ≠ accountId ∨
          (s.heap session).transport ≠ .headless then (false, s)
      else
        match (s.heap session).player with
        | none => (false, s)
        | some player =>
            (true, { s with
              sessions := s.sessions.erase guid
              ended := s.ended ++ [⟨session, .handedOver player replacement⟩] })
  | _, _, _ => (false, s)

def promoteEntry (around : Surroundings) (s : HeadlessSessionMgr) (guid : UInt64) :
    HeadlessSessionMgr :=
  match s.pendingSessions.find? guid with
  | none => s
  | some entry =>
      if (s.sessions.find? guid).isSome ∨ (around.player guid).isSome then s.endPending guid entry
      else
        { s with
          pendingSessions := s.pendingSessions.erase guid
          sessions := s.sessions.assign guid entry }

def promotePending (s : HeadlessSessionMgr) (around : Surroundings) : HeadlessSessionMgr :=
  (s.pendingSessions.entries.map (·.1)).foldl (promoteEntry around) s

/-- The grace period after the session stayed. -/
def elapse (session : WorldSession) (met : SessionUpdate) (diff elapsed : UInt32) : UInt32 :=
  if session.player.isSome ∧ session.playerLoading = false ∧ met.isInWorld = false ∧
      met.isBeingTeleported = false then
    elapsed + if diff < 5000 - elapsed then diff else 5000 - elapsed
  else 0

def updateEntry (diff : UInt32) (met : Nat → SessionUpdate) (s : HeadlessSessionMgr)
    (guid : UInt64) : HeadlessSessionMgr :=
  match s.sessions.find? guid with
  | none => s
  | some entry =>
      let session := s.heap entry.session
      if session.player = none ∧ session.playerLoading = false then s.endActive guid entry true
      else
        let updated := session.update (met entry.session)
        let s := s.setSession entry.session updated.2
        let elapsed := elapse updated.2 (met entry.session) diff entry.outOfWorldElapsed
        -- the grace period ends only where it grows
        if updated.1 = false ∨ elapsed = 5000 then s.endActive guid entry true
        else
          { s with
            sessions := s.sessions.assign guid { entry with outOfWorldElapsed := elapsed } }

def update (s : HeadlessSessionMgr) (diff : UInt32) (met : Nat → SessionUpdate) :
    HeadlessSessionMgr :=
  (s.sessions.entries.map (·.1)).foldl (updateEntry diff met) s

def shutdownPending (s : HeadlessSessionMgr) (guid : UInt64) : HeadlessSessionMgr :=
  match s.pendingSessions.find? guid with
  | none => s
  | some entry => s.endPending guid entry

def shutdownActive (s : HeadlessSessionMgr) (guid : UInt64) : HeadlessSessionMgr :=
  match s.sessions.find? guid with
  | none => s
  | some entry => s.endActive guid entry true

def shutdown (s : HeadlessSessionMgr) : HeadlessSessionMgr :=
  let s := (s.pendingSessions.entries.map (·.1)).foldl shutdownPending s
  (s.sessions.entries.map (·.1)).foldl shutdownActive s

end HeadlessSessionMgr

/-- A holder as a module prepares it, or as another login made it. -/
structure HolderData where
  accountId : UInt32
  guid : UInt64
  transport : SessionTransport
  requestToken : UInt64
  deriving Repr, DecidableEq

inductive HeadlessEvent where
  | start (around : Surroundings) (accountId : UInt32) (characterGuid : UInt64)
  | startPrepared (around : Surroundings) (holder : Option HolderData)
  | stop (characterGuid : UInt64) (save : Bool)
  | stopForAccount (accountId : UInt32) (save : Bool)
  | handleLoginCallback (around : Surroundings) (index : Nat)
  | reclaimForNetwork (characterGuid : UInt64) (session replacement : Option Nat)
      (accountId : UInt32)
  | promotePending (around : Surroundings)
  | beginStopDeferral
  | endStopDeferral
  | update (diff : UInt32) (met : Nat → SessionUpdate)
  | shutdown
  /-- A login that the manager did not start is on its way to it. -/
  | otherLogin (holder : HolderData)
  /-- The rest of the server works with the sessions. -/
  | work (change : Nat → WorldSession → WorldSession)

namespace HeadlessSessionMgr

def newHolder (s : HeadlessSessionMgr) (data : HolderData) : LoginQueryHolder where
  id := s.made
  accountId := data.accountId
  guid := data.guid
  transport := data.transport
  requestToken := data.requestToken

def step (s : HeadlessSessionMgr) : HeadlessEvent → HeadlessSessionMgr
  | .start around accountId characterGuid => (s.start around accountId characterGuid).2
  | .startPrepared _ none => s
  | .startPrepared around (some data) =>
      (({ s with made := s.made + 1 }).startPrepared around (s.newHolder data)).2
  | .stop characterGuid save => (s.stop characterGuid save).2
  | .stopForAccount accountId save => s.stopForAccount accountId save
  | .handleLoginCallback around index =>
      match s.inFlight[index]? with
      | none => s
      | some holder =>
          ({ s with inFlight := s.inFlight.eraseIdx index }).handleLoginCallback around holder
  | .reclaimForNetwork characterGuid session replacement accountId =>
      (s.reclaimForNetwork characterGuid session replacement accountId).2
  | .promotePending around => s.promotePending around
  | .beginStopDeferral => { s with stopDeferralDepth := s.stopDeferralDepth + 1 }
  | .endStopDeferral => s.endStopDeferral
  | .update diff met => s.update diff met
  | .shutdown => s.shutdown
  | .otherLogin data =>
      { s with made := s.made + 1, inFlight := s.inFlight ++ [s.newHolder data] }
  | .work change => { s with heap := fun id => change id (s.heap id) }

end HeadlessSessionMgr

end Headless

end TortoiseWow
