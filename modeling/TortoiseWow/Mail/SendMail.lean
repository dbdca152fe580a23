import TortoiseWow.Mail.Mailbox

/-!
CMSG_SEND_MAIL: the checks of HandleSendMail, the count of the receiver's mails from
memory or from the table, and the checks of the callback.
-/

namespace TortoiseWow.Mails

inductive HardcoreStatus where
  | none
  | alive
  | immortal
  | dead
  | hc60
  deriving Repr, DecidableEq

/-- IsHardcore, and the same test on the cached status of an offline player. -/
def HardcoreStatus.isHardcore (status : HardcoreStatus) : Bool :=
  status == .alive || status == .dead || status == .hc60

inductive Team where
  | alliance
  | horde
  deriving Repr, DecidableEq

inductive MailResponseResult where
  | ok
  | equipError
  | cannotSendToSelf
  | notEnoughMoney
  | recipientNotFound
  | notYourTeam
  | internalError
  | disabledForTrialAcc
  | recipientCapReached
  deriving Repr, DecidableEq

structure Item where
  inWorld : Bool := true
  bankPos : Bool := false
  boundToAccount : Bool := false
  canBeTraded : Bool := true
  soulBound : Bool := false
  conjured : Bool := false
  duration : UInt32 := 0
  deriving Repr, DecidableEq

structure Config where
  mailMaxPerHour : UInt32 := 3
  codForceTagMaxLevel : UInt32 := 0
  gmAllowTrades : Bool := true
  allowTwoSideInteractionMail : Bool := false
  mailspamLevel : UInt32 := 1
  mailspamMoney : UInt32 := 0
  mailspamItem : Bool := false
  deriving Repr, DecidableEq

/-- The session that sends, with its player. -/
structure Sender where
  guid : Guid
  team : Team
  security : Nat := 0
  level : UInt32
  accountMaxLevel : UInt32
  hasHighLevelCharacter : Bool := false
  hardcoreStatus : HardcoreStatus := .none
  money : UInt32
  mailCount : UInt32 := 0
  lastMailOpenTime : Nat := 0
  mailboxInReach : Bool := true
  suspicious : Bool := false
  items : Guid → Option Item := fun _ => .none
  /-- AccountPersistentData::CanMail for an account. -/
  canMail : Nat → Bool := fun _ => true
  /-- The OnSendMail hook of the scripts. -/
  onSendMail : Bool := true

/-- The receiver in the world, with his mailbox, or not, with what the cache says and
the rows of the table. -/
inductive Receiver where
  | online (team : Team) (hardcoreStatus : HardcoreStatus) (mailbox : Mailbox)
  | offline (team : Team) (hardcoreStatus : HardcoreStatus) (rows : List MailRow)

structure World where
  config : Config := {}
  gameTime : Nat := 1000
  /-- normalizePlayerName and GetPlayerGuidByName. -/
  playerGuidByName : String → Option Guid
  accountIdByGuid : Guid → Nat
  receiver : Guid → Receiver

structure Packet where
  receiverName : String
  subject : String := ""
  body : String := ""
  itemGuid : Option Guid := none
  money : UInt32 := 0
  cod : UInt32 := 0
  deriving Repr, DecidableEq

structure AsyncMailSendRequest where
  receiver : Guid
  itemGuid : Option Guid
  money : UInt32
  cod : UInt32
  subject : String
  body : String
  rcTeam : Team
  mailsCount : UInt8 := 0xFF
  deriving Repr, DecidableEq

structure Draft where
  receiver : Guid
  subject : String
  body : String
  itemGuid : Option Guid
  money : UInt32
  cod : UInt32
  deriving Repr, DecidableEq

/-- The packet is dropped without a word, or answered with an error. -/
inductive Refusal where
  | silent
  | answered (error : MailResponseResult)
  deriving Repr, DecidableEq

/-- Nothing is sent, or the mail is answered with MAIL_OK and thrown away by the limit of
accounts to mail, or it is sent. -/
inductive Response where
  | refused (refusal : Refusal)
  | swallowed
  | sent (draft : Draft)
  deriving Repr, DecidableEq

/-- What the callback asks of the item that is to be sent. -/
def itemRefused (world : World) (sender : Sender) (receiver : Guid) (guid : Guid) : Bool :=
  match sender.items guid with
  | none => true
  | some item =>
      !item.inWorld || item.bankPos ||
        (if item.boundToAccount then world.accountIdByGuid sender.guid !=
          world.accountIdByGuid receiver
          else !item.canBeTraded) ||
        (!item.canBeTraded || item.soulBound) || (item.conjured || item.duration != 0)

def handleSendMailCallback (world : World) (sender : Sender) (req : AsyncMailSendRequest) :
    Response :=
  let reqmoney := req.money + 30
  if reqmoney < req.money then .refused (.answered .notEnoughMoney)
  else if reqmoney ≠ 0 ∧ sender.money < reqmoney then .refused (.answered .notEnoughMoney)
  else if 100 < req.mailsCount then .refused (.answered .recipientCapReached)
  else if ¬ world.config.allowTwoSideInteractionMail ∧ sender.team ≠ req.rcTeam ∧
      sender.security = 0 then .refused (.answered .notYourTeam)
  else if req.itemGuid.any (itemRefused world sender req.receiver)
    then .refused (.answered .internalError)
  else if sender.level < world.config.mailspamLevel ∧ ¬ sender.hasHighLevelCharacter ∧
      req.money < world.config.mailspamMoney ∧ world.config.mailspamItem ∧ req.itemGuid = none then
    .refused (.answered .recipientCapReached)
  else if ¬ sender.canMail (world.accountIdByGuid req.receiver) then .swallowed
  else if ¬ sender.onSendMail then .refused (.answered .equipError)
  else .sent
    { receiver := req.receiver, subject := req.subject, body := req.body, itemGuid := req.itemGuid,
      money := req.money, cod := if req.itemGuid = none then 0 else req.cod }

/-- AsyncMailSendRequest::Callback: the session may be gone, and a query that failed
leaves the count as it was. -/
def AsyncMailSendRequest.callback (world : World) (sender : Option Sender)
    (result : Option UInt32) (req : AsyncMailSendRequest) : Response :=
  match sender with
  | none => .refused .silent
  | some sender =>
      handleSendMailCallback world sender
        { req with mailsCount := (result.map UInt32.toUInt8).getD req.mailsCount }

/-- The checks of HandleSendMail before it looks at the receiver: a refusal, or the
receiver and the subject. -/
def checkPacket (world : World) (sender : Sender) (packet : Packet) :
    Except Refusal (Guid × String) :=
  if ¬ sender.mailboxInReach ∨ sender.suspicious then .error .silent
  else if world.config.mailMaxPerHour ≤ sender.mailCount ∧ ¬ sender.hasHighLevelCharacter then
    .error (.answered .recipientCapReached)
  else if 64 < packet.subject.utf8ByteSize ∨ 500 < packet.body.utf8ByteSize then .error .silent
  else if 100000000 < packet.cod then .error .silent
  else if ¬ world.config.gmAllowTrades ∧ 0 < sender.security ∧
      (packet.itemGuid ≠ none ∨ packet.money ≠ 0) then .error .silent
  else if packet.receiverName = "" then .error .silent
  else
    let subject :=
      if packet.cod ≠ 0 ∧ world.config.codForceTagMaxLevel ≠ 0 ∧
          sender.accountMaxLevel < world.config.codForceTagMaxLevel then "(COD) " ++ packet.subject
      else packet.subject
    let attached := packet.money ≠ 0 ∨ packet.cod ≠ 0 ∨ packet.itemGuid ≠ none
    match world.playerGuidByName packet.receiverName with
    | none => .error (.answered .recipientNotFound)
    | some receiver =>
        if sender.guid = receiver then .error (.answered .cannotSendToSelf)
        else if sender.hardcoreStatus.isHardcore ∧ attached then
          .error (.answered .disabledForTrialAcc)
        else if packet.money ≠ 0 ∧ ((subject.utf8ByteSize = 1 ∧ packet.body = "") ∨
            world.gameTime ≤ sender.lastMailOpenTime + 1) then .error (.answered .notEnoughMoney)
        else .ok (receiver, subject)

/-- The rest of HandleSendMail, up to the answer. For an online receiver the callback
runs at once with the count from memory; for one who is not, `later` is the session when
the result of the query, if it has one, comes back. -/
def handleSendMail (world : World) (sender : Sender) (packet : Packet) (later : Option Sender)
    (queryFails : Bool) : Response :=
  match checkPacket world sender packet with
  | .error refusal => .refused refusal
  | .ok (receiver, subject) =>
      let attached := packet.money ≠ 0 ∨ packet.cod ≠ 0 ∨ packet.itemGuid ≠ none
      match world.receiver receiver with
      | .online team hardcoreStatus mailbox =>
          if ¬ sender.hardcoreStatus.isHardcore ∧ hardcoreStatus.isHardcore ∧ attached then
            .refused (.answered .recipientNotFound)
          else AsyncMailSendRequest.callback world (some sender) none
            { receiver, subject, body := packet.body, itemGuid := packet.itemGuid,
              money := packet.money, cod := packet.cod, rcTeam := team,
              mailsCount := mailbox.getMailSize.toUInt8 }
      | .offline team hardcoreStatus rows =>
          if ¬ sender.hardcoreStatus.isHardcore ∧ hardcoreStatus.isHardcore ∧ attached then
            .refused (.answered .recipientNotFound)
          else AsyncMailSendRequest.callback world later
            (if queryFails then none else some (UInt32.ofNat (storedCount rows receiver)))
            { receiver, subject, body := packet.body, itemGuid := packet.itemGuid,
              money := packet.money, cod := packet.cod, rcTeam := team }

end TortoiseWow.Mails
