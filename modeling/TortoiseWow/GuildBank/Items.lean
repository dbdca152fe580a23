import TortoiseWow.GuildBank.State
import TortoiseWow.Shared.Util

/-!
The private helpers of `GuildBank`: lookup, guid allocation, cloning between bags
and bank, the persisted statements of `BankItem`, the log, the weekly count and
the access test. Every definition is the source function of the same name.
-/

namespace TortoiseWow.GuildBank

open Lib

def u32s (n : UInt32) : String := toString n.toNat

def send (s : Session) (p : Packet) : Session := { s with out := s.out ++ [p] }

abbrev sendAddonMessage (s : Session) (text : String) : Session := send s (.addonMessage text)

abbrev sendGuildMessage (s : Session) (text : String) : Session := send s (.guildMessage text)

abbrev sendNotification (s : Session) (text : String) : Session := send s (.notification text)

abbrev sendBuyError (s : Session) : Session := send s .buyError

abbrev sendEquipError (s : Session) (result : InventoryResult) : Session :=
  send s (.equipError result)

def modifyBank (s : Session) (f : Bank → Bank) : Session := { s with bank := f s.bank }

def atSlot (tab slot : UInt32) (x : BankItem) : Bool := x.tab == tab && x.slot == slot

def getItem (b : Bank) (tab slot : UInt32) : Option (Nat × BankItem) :=
  findRef (atSlot tab slot) b.bItems

def getNewGuid (b : Bank) : UInt32 :=
  b.bItems.foldl (fun guid x => if x.guid > guid then x.guid else guid) 0 + 1

def addItem (s : Session) (x : BankItem) : Session :=
  modifyBank s fun b => { b with bItems := b.bItems ++ [x] }

def writeItem (s : Session) (ref : Option Nat) (x : BankItem) : Session :=
  match ref with
  | some i => modifyBank s fun b => { b with bItems := b.bItems.set i x }
  | none => s

def deleteItem (s : Session) (ref : Option Nat) : Session :=
  match ref with
  | some i => modifyBank s fun b => { b with bItems := b.bItems.eraseIdx i }
  | none => s

def pushUpdate (s : Session) (x : BankItem) : Session :=
  modifyBank s fun b => { b with bItemUpdateQueue := b.bItemUpdateQueue ++ [x] }

def setBags (s : Session) (bags : List Item) : Session :=
  { s with player := { s.player with bags := bags } }

def setMoney (s : Session) (money : UInt32) : Session :=
  { s with player := { s.player with money := money } }

def cloneBankItem (b : Bank) (sItem : BankItem) : BankItem :=
  { guildid := b.guildid
    guid := getNewGuid b
    tab := sItem.tab
    slot := sItem.slot
    itemTemplate := sItem.itemTemplate
    creatorGuid := sItem.creatorGuid
    giftCreatorGuid := sItem.giftCreatorGuid
    count := sItem.count
    maxStackSize := sItem.maxStackSize
    duration := sItem.duration
    charges := sItem.charges
    flags := sItem.flags
    enchantments := sItem.enchantments
    randomPropertyId := sItem.randomPropertyId
    enchant := sItem.enchant
    transmogrifyId := sItem.transmogrifyId
    durability := sItem.durability
    text := sItem.text
    generatedLoot := sItem.generatedLoot
    isInferno := sItem.isInferno }

def cloneIntoBank (env : Env) (b : Bank) (bItem : BankItem) (pItem : Item) : BankItem :=
  let randomPropertyId := pItem.randomPropertiesId.toInt32
  { bItem with
    name :=
      if randomPropertyId > 0 then
        pItem.proto.name1 ++ " " ++ env.nameSuffix randomPropertyId
      else pItem.proto.name1
    itemTemplate := pItem.proto.itemId
    creatorGuid := guidGetCounter pItem.creator
    giftCreatorGuid := guidGetCounter pItem.giftCreator
    maxStackSize := pItem.proto.getMaxStackSize
    duration := pItem.duration.toInt32
    isInferno := b.bInfernoBank
    charges := pItem.spellCharges.flatMap fun c => decimalInt c.toInt ++ [' ']
    flags := pItem.flags.toUInt8
    enchantments := pItem.enchantments.flatMap fun e =>
      decimal e.id.toNat ++ [' '] ++ decimal e.duration.toNat ++ [' '] ++
        decimal e.charges.toNat ++ [' ']
    enchant := (pItem.enchantments.head?.map Enchantment.id).getD 0
    randomPropertyId := randomPropertyId
    transmogrifyId := pItem.transmogrifyId
    durability := pItem.durability.toUInt8
    text := pItem.itemTextId
    generatedLoot := if pItem.generatedLoot then 1 else 0
    quality := pItem.proto.quality }

def tokenUInt32 (tokens : List CString) (i : Nat) : UInt32 :=
  UInt32.ofNat ((strtoul (tokens.getD i [])).getD 0)

def cloneIntoBag (playerGuid : UInt32) (item : Item) (bItem : BankItem) : Item :=
  let chr := tokenizer bItem.charges ' '
  let ench := tokenizer bItem.enchantments ' '
  { item with
    ownerGuid := playerGuid.toUInt64
    creator := bItem.creatorGuid.toUInt64
    giftCreator := bItem.giftCreatorGuid.toUInt64
    duration := bItem.duration.toUInt32
    spellCharges := if chr.length = 5 then chr.map atoi else item.spellCharges
    flags := bItem.flags.toUInt32
    enchantments := (List.range 7).map fun i =>
      { id := tokenUInt32 ench (i * 3)
        duration := tokenUInt32 ench (i * 3 + 1)
        charges := tokenUInt32 ench (i * 3 + 2) }
    randomPropertiesId := bItem.randomPropertyId.toUInt32
    transmogrifyId := bItem.transmogrifyId
    durability := bItem.durability.toUInt32
    itemTextId := bItem.text
    generatedLoot := bItem.generatedLoot == 1 }

def GuildBankRow.key (r : GuildBankRow) : UInt32 × UInt32 × Bool :=
  (r.guildid, r.guid, r.isInferno)

def BankItem.row (x : BankItem) : GuildBankRow :=
  { guildid := x.guildid, guid := x.guid, isInferno := x.isInferno, tab := x.tab,
    slot := x.slot, itemTemplate := x.itemTemplate, creatorGuid := x.creatorGuid,
    giftCreatorGuid := x.giftCreatorGuid, count := x.count, duration := x.duration,
    charges := x.charges, flags := x.flags, enchantments := x.enchantments,
    randomPropertyId := x.randomPropertyId, transmogrifyId := x.transmogrifyId,
    durability := x.durability, text := x.text, generatedLoot := x.generatedLoot }

def BankItem.addToDB (x : BankItem) (t : List GuildBankRow) : Option (List GuildBankRow) :=
  insertRow GuildBankRow.key x.row t

/-- `BankItem::SaveToDB`. Every column but `guildid` and `guid` is set, and these two
are what the `WHERE` clause names: `isInferno` is assigned, not tested. -/
def BankItem.saveToDB (x : BankItem) (t : List GuildBankRow) : Option (List GuildBankRow) :=
  updateRows GuildBankRow.key (fun r => r.guildid == x.guildid && r.guid == x.guid)
    (fun _ => x.row) t

def BankItem.deleteFromDB (x : BankItem) (t : List GuildBankRow) :
    Option (List GuildBankRow) :=
  some (deleteRows
    (fun r => r.guildid == x.guildid && r.guid == x.guid && r.isInferno == x.isInferno) t)

/-- What a queued snapshot does to the table when the queue is drained. -/
def BankItem.persist (x : BankItem) (t : List GuildBankRow) : Option (List GuildBankRow) :=
  match x.state with
  | .itemNew => x.addToDB t
  | .itemChanged => x.saveToDB t
  | .itemRemoved => x.deleteFromDB t
  | .itemUnchanged => some t

abbrev SqlStatement := CharacterDatabase → Option CharacterDatabase

def onGuildBank (f : List GuildBankRow → Option (List GuildBankRow)) : SqlStatement :=
  fun db => (f db.guildBank).map fun t => { db with guildBank := t }

def saveMoney (b : Bank) : List SqlStatement :=
  if b.bMoneyChanged then
    [fun db => some { db with
      guildBankMoney := db.guildBankMoney.map fun r =>
        if r.guildid == b.guildid && r.isInferno == b.bInfernoBank then
          { r with money := b.bMoney }
        else r }]
  else []

def saveTabs (b : Bank) : List SqlStatement :=
  if b.bTabsChanged then
    [fun db => some { db with
      guildBankTabs := db.guildBankTabs.map fun r =>
        if r.guildid == b.guildid && r.isInferno == b.bInfernoBank then
          { r with tabs := b.bTabs, tabInfo := [1, 2, 3, 4, 5].map b.bTabInfo }
        else r }]
  else []

def insertLog (r : GuildBankLogRow) : SqlStatement :=
  fun db => some { db with guildBankLog := db.guildBankLog ++ [r] }

def saveMoneyLog (b : Bank) : List SqlStatement :=
  if b.bMoneyLogChanged then
    (b.bMoneyLog.filter (·.state == .itemNew)).map fun l =>
      insertLog
        { guildid := b.guildid, isInferno := b.bInfernoBank, player := l.player,
          action := l.action, tab := 0, item := 0, randomPropertyId := 0, enchant := 0,
          count := l.money, stamp := l.stamp }
  else []

def saveLog (b : Bank) : List SqlStatement :=
  if b.bLogChanged then
    [1, 2, 3, 4, 5].flatMap fun i =>
      ((b.bLog i).filter (·.state == .itemNew)).map fun l =>
        insertLog
          { guildid := b.guildid, isInferno := b.bInfernoBank, player := l.player,
            action := l.action, tab := l.tab.toUInt32, item := l.item,
            randomPropertyId := l.randomPropertyId, enchant := l.enchant,
            count := l.count.toUInt32, stamp := l.stamp }
  else []

def saveItems (b : Bank) : List SqlStatement :=
  b.bItemUpdateQueue.map fun x => onGuildBank x.persist

def BankItem.settled (x : BankItem) : BankItem := { x with state := .itemUnchanged }

/-- The bank object after a save: nothing is pending. -/
def Bank.saved (b : Bank) : Bank :=
  { b with
    bMoneyChanged := false
    bTabsChanged := false
    bMoneyLogChanged := false
    bLogChanged := false
    bMoneyLog :=
      if b.bMoneyLogChanged then
        b.bMoneyLog.map fun l => { l with state := .itemUnchanged }
      else b.bMoneyLog
    bLog :=
      if b.bLogChanged then
        fun i =>
          if 1 ≤ i ∧ i ≤ maxTabs then
            (b.bLog i).map fun l => { l with state := .itemUnchanged }
          else b.bLog i
      else b.bLog
    bItems :=
      if b.bItemUpdateQueue.isEmpty then b.bItems else b.bItems.map BankItem.settled
    bItemUpdateQueue := [] }

def Bank.dirty (b : Bank) : Bool :=
  b.bMoneyLogChanged || b.bTabsChanged || b.bMoneyChanged || b.bLogChanged ||
    !b.bItemUpdateQueue.isEmpty

def saveBank (b : Bank) (db : CharacterDatabase) : Bank × CharacterDatabase :=
  if b.bSaveLock then (b, db)
  else if !b.dirty then (b, db)
  else
    (b.saved,
      transaction (saveMoney b ++ saveTabs b ++ saveMoneyLog b ++ saveLog b ++ saveItems b) db)

def saveToDB (s : Session) : Session :=
  { s with bank := (saveBank s.bank s.db).1, db := (saveBank s.bank s.db).2 }

def logAction (s : Session) (action : GuildBankAction) (tab itemID count : UInt32)
    (bItem : Option BankItem) : Session :=
  if tab > maxTabs then s
  else if tab = tabMoney then
    sendGuildMessage
      (modifyBank s fun b => { b with
        bMoneyLog := b.bMoneyLog ++
          [{ player := s.player.guid, action := action.code, money := count,
             stamp := UInt32.ofInt s.time, playerName := s.player.name, state := .itemNew }]
        bMoneyLogChanged := true })
      ("GMoneyLog:0:" ++ u32s (UInt32.ofInt s.time) ++ ";" ++ s.player.name ++ ";" ++
        toString action.code.toNat ++ ";" ++ u32s count ++ ";" ++
        toString s.bank.bMoneyLog.length)
  else
    let named := action = .withdrawItem ∨ action = .depositItem ∨ action = .destroyItem
    let itemName := if named then (bItem.map BankItem.name).getD "Unknown" else "Unknown"
    let itemQuality :=
      if named then (bItem.map fun x => u32s x.quality).getD "1" else "1"
    let line : BankLog :=
      { player := s.player.guid, action := action.code, tab := tab.toUInt8, item := itemID,
        randomPropertyId := (bItem.map fun x => x.randomPropertyId.toUInt32).getD 0,
        enchant := (bItem.map BankItem.enchant).getD 0, count := count.toUInt8,
        stamp := UInt32.ofInt s.time, playerName := s.player.name, itemName := itemName,
        itemQuality := itemQuality, state := .itemNew }
    sendGuildMessage
      (modifyBank s fun b => { b with
        bLog := fun i => if i = tab then b.bLog i ++ [line] else b.bLog i
        bLogChanged := true })
      ("GTabLog:" ++ u32s tab ++ ":" ++ u32s line.stamp ++ ";" ++ s.player.name ++ ";" ++
        toString action.code.toNat ++ ";" ++ u32s itemID ++ ";" ++ itemName ++ ";" ++
        itemQuality ++ ";" ++ u32s count ++ ";" ++ u32s line.randomPropertyId ++ ";" ++
        u32s line.enchant)

/-- The Monday midnight `GetTabWithdrawalsLeft` counts from. -/
def weekstart (env : Env) (now : Int) : Int :=
  let timeinfo := env.localtime now
  let wday := if timeinfo.tmWday - 1 = -1 then 6 else timeinfo.tmWday - 1
  now - wday * (60 * 60 * 24) -
    (timeinfo.tmSec + 60 * timeinfo.tmMin + 60 * 60 * timeinfo.tmHour)

/-- The log lines the weekly limit counts. -/
def weekWithdrawal (playerGuid : UInt32) (tab : UInt8) (week : Int) (l : BankLog) : Bool :=
  l.action == GuildBankAction.withdrawItem.code && l.player == playerGuid &&
    l.tab == tab && decide (week ≤ (l.stamp.toNat : Int))

def weekWithdrawals (env : Env) (b : Bank) (playerGuid : UInt32) (now : Int) (tab : UInt8) :
    Nat :=
  (b.bLog tab.toUInt32).countP (weekWithdrawal playerGuid tab (weekstart env now))

def getTabWithdrawalsLeft (env : Env) (s : Session) (tab : UInt8) : UInt8 :=
  if tab = 0 ∨ tab > maxTabs.toUInt8 then 0
  else
    let count := UInt8.ofNat (weekWithdrawals env s.bank s.player.guid s.time tab)
    if count ≥ (s.bank.bTabInfo tab.toUInt32).withdrawals then 0
    else (s.bank.bTabInfo tab.toUInt32).withdrawals - count

def canAccessTab (env : Env) (s : Session) (tab : UInt8) (action : GuildBankAction) : Bool :=
  let info := s.bank.bTabInfo tab.toUInt32
  if action = .withdrawMoney then s.player.rank ≤ 1
  else if (action = .splitItem ∨ action = .destroyItem) ∧ s.player.rank > info.minrank.toUInt32
    then false
  else if (action = .withdrawItem ∨ action = .depositItem) ∧ info.withdrawals > 0 ∧
      s.player.rank = info.minrank.toUInt32 ∧ getTabWithdrawalsLeft env s tab = 0 then false
  else if s.player.rank > info.minrank.toUInt32 then false
  else true

def sendTabWithdrawalsLeft (env : Env) (s : Session) (tab : UInt8) : Session :=
  if tab = 0 ∨ tab > maxTabs.toUInt8 then
    sendAddonMessage s "SendTabWithdrawalsLeft:Error:ParamsOutOfRange"
  else
    let info := s.bank.bTabInfo tab.toUInt32
    if info.withdrawals = 0 ∨ s.player.rank < info.minrank.toUInt32 ∨ s.player.rank = 0 then
      sendAddonMessage s ("TabWithdrawalsLeft:" ++ toString tab.toNat ++ ":Unlimited")
    else
      sendAddonMessage s ("TabWithdrawalsLeft:" ++ toString tab.toNat ++ ":" ++
        toString (getTabWithdrawalsLeft env s tab).toNat)

/-- `IsItemBankable`: the refusal with its two messages, or nothing. -/
def isItemBankable (pItem : Item) : Option (String × String) :=
  if pItem.isSoulBound then some ("You cannot deposit soulbound items.", "Error:ItemSoulBound")
  else if pItem.proto.isConjuredConsumable then
    some ("You cannot deposit conjured items.", "Error:ItemConjured")
  else if pItem.proto.duration > 0 then
    some ("You cannot deposit temporary items.", "Error:ItemTemporary")
  else none

abbrev refuse (s : Session) (notice : String × String) : Session :=
  sendAddonMessage (sendNotification s notice.1) notice.2

end TortoiseWow.GuildBank
