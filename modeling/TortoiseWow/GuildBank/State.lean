import TortoiseWow.Lib.Table
import TortoiseWow.Player.Inventory

/-!
Data model of a guild bank: `BankItem`, the logs, the bank object, the four
character-database tables behind it, and the session in which one addon message
is handled. Field names follow src/game/GuildBank/GuildBank.h. A `BankItem*` held
in `b_items` is its index in `bItems`; the logs, whose keys are always
`0 .. size - 1`, are lists. Members that C++ leaves uninitialised read as zero.

`granted` is not a member of the source: it records what `WithdrawItem` hands
over, so that grants can be compared with the log the source keeps.
-/

namespace TortoiseWow.GuildBank

open Lib

inductive ItemUpdateState where
  | itemUnchanged
  | itemChanged
  | itemNew
  | itemRemoved
  deriving DecidableEq

inductive GuildBankAction where
  | withdrawItem
  | depositItem
  | unlockGuildBank
  | unlockTabPersonalMoney
  | withdrawMoney
  | depositMoney
  | unlockTabGuildMoney
  | destroyItem
  | splitItem
  | moveItem
  deriving DecidableEq

def GuildBankAction.code : GuildBankAction → UInt8
  | withdrawItem => 0
  | depositItem => 1
  | unlockGuildBank => 2
  | unlockTabPersonalMoney => 3
  | withdrawMoney => 4
  | depositMoney => 5
  | unlockTabGuildMoney => 6
  | destroyItem => 7
  | splitItem => 8
  | moveItem => 9

def gold : UInt32 := 10000
def guildBankCost : UInt32 := 2000 * gold
def tab2Cost : UInt32 := 500 * gold
def tab3Cost : UInt32 := 1000 * gold
def tab4Cost : UInt32 := 1500 * gold
def tab5Cost : UInt32 := 2000 * gold

def tabMoney : UInt32 := 0
def maxTabs : UInt32 := 5
def maxWeeklyWithdrawals : UInt8 := 5
def bankTabSize : UInt32 := 98

structure BankItem where
  guildid : UInt32 := 0
  guid : UInt32 := 0
  name : String := ""
  tab : UInt32 := 0
  slot : UInt32 := 0
  itemTemplate : UInt32 := 0
  creatorGuid : UInt32 := 0
  giftCreatorGuid : UInt32 := 0
  count : UInt32 := 0
  maxStackSize : UInt32 := 0
  duration : Int32 := 0
  charges : CString := []
  flags : UInt8 := 0
  enchantments : CString := []
  enchant : UInt32 := 0
  randomPropertyId : Int32 := 0
  transmogrifyId : UInt32 := 0
  durability : UInt8 := 0
  text : UInt32 := 0
  generatedLoot : Int8 := 0
  isInferno : Bool := false
  quality : UInt32 := 0
  state : ItemUpdateState := .itemUnchanged
  deriving DecidableEq

/-- A row of `guild_bank`; the columns have the types of the members they store. -/
structure GuildBankRow where
  guildid : UInt32
  guid : UInt32
  isInferno : Bool
  tab : UInt32
  slot : UInt32
  itemTemplate : UInt32
  creatorGuid : UInt32
  giftCreatorGuid : UInt32
  count : UInt32
  duration : Int32
  charges : CString
  flags : UInt8
  enchantments : CString
  randomPropertyId : Int32
  transmogrifyId : UInt32
  durability : UInt8
  text : UInt32
  generatedLoot : Int8
  deriving DecidableEq

structure BankLog where
  player : UInt32
  action : UInt8
  tab : UInt8
  item : UInt32
  enchant : UInt32 := 0
  randomPropertyId : UInt32
  count : UInt8
  stamp : UInt32
  playerName : String := ""
  itemName : String := ""
  itemQuality : String := ""
  state : ItemUpdateState := .itemUnchanged
  deriving DecidableEq

structure MoneyLog where
  player : UInt32
  action : UInt8
  money : UInt32
  stamp : UInt32
  playerName : String := ""
  state : ItemUpdateState := .itemUnchanged
  deriving DecidableEq

structure BankTab where
  name : String := ""
  icon : String := ""
  withdrawals : UInt8 := 0
  minrank : UInt8 := 0
  deriving DecidableEq

structure GuildBankTabsRow where
  guildid : UInt32
  isInferno : Bool
  tabs : UInt32
  tabInfo : List BankTab
  deriving DecidableEq

structure GuildBankMoneyRow where
  guildid : UInt32
  isInferno : Bool
  money : UInt32
  deriving DecidableEq

structure GuildBankLogRow where
  guildid : UInt32
  isInferno : Bool
  player : UInt32
  action : UInt8
  tab : UInt32
  item : UInt32
  randomPropertyId : UInt32
  enchant : UInt32
  count : UInt32
  stamp : UInt32
  deriving DecidableEq

structure CharacterDatabase where
  guildBank : List GuildBankRow := []
  guildBankTabs : List GuildBankTabsRow := []
  guildBankMoney : List GuildBankMoneyRow := []
  guildBankLog : List GuildBankLogRow := []

structure Bank where
  bInfernoBank : Bool
  guildid : UInt32
  bTabs : UInt32 := 0
  bItems : List BankItem := []
  bTabInfo : UInt32 → BankTab := fun _ => {}
  bLog : UInt32 → List BankLog := fun _ => []
  bMoneyLog : List MoneyLog := []
  bItemUpdateQueue : List BankItem := []
  bSaveLock : Bool := false
  bTabsChanged : Bool := false
  bMoneyChanged : Bool := false
  bMoneyLogChanged : Bool := false
  bLogChanged : Bool := false
  bMoney : UInt32 := 0

structure Player where
  guid : UInt32
  name : String := ""
  rank : UInt32
  money : UInt32 := 0
  bags : List Item := []
  isHC60 : Bool := false

/-- What the server sends; nothing in the bank reads it back. -/
inductive Packet where
  | addonMessage (text : String)
  | guildMessage (text : String)
  | notification (text : String)
  | buyError
  | equipError (result : InventoryResult)
  deriving DecidableEq

/-- The calendar fields `localtime` returns, Sunday being day 0. -/
structure Tm where
  tmWday : Int
  tmHour : Int
  tmMin : Int
  tmSec : Int

structure Grant where
  player : UInt32
  tab : UInt32
  itemTemplate : UInt32
  count : UInt32
  deriving DecidableEq

/-- Code and data outside the bank. -/
structure Env where
  storage : Storage
  getItemPrototype : UInt32 → Option ItemPrototype
  nameSuffix : Int32 → String
  generateItemRandomPropertyId : UInt32 → Int32
  playerName : UInt32 → Option String
  localtime : Int → Tm

/-- One `HandleAddonMessages` call in progress. -/
structure Session where
  bank : Bank
  player : Player
  db : CharacterDatabase
  time : Int
  ranksSize : UInt32 := 10
  out : List Packet := []
  granted : List Grant := []

def BankItem.copies (entry : UInt32) (x : BankItem) : Nat :=
  if x.itemTemplate = entry then x.count.toNat else 0

def bankCopies (items : List BankItem) (entry : UInt32) : Nat :=
  weight (BankItem.copies entry) items

def Session.copies (s : Session) (entry : UInt32) : Nat :=
  bankCopies s.bank.bItems entry + bagCopies s.player.bags entry

end TortoiseWow.GuildBank
