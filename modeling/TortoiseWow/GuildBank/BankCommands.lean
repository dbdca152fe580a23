import TortoiseWow.GuildBank.ItemCommands
import TortoiseWow.Player.Money

/-!
Loading, unlocking, tab settings, money, and the queries that only send. A query
without an index returns rows in insertion order, so of several
`guild_bank_tabs` rows for one bank the last one inserted is the one in effect.
-/

namespace TortoiseWow.GuildBank

open Lib

def Bank.owns (b : Bank) (guildid : UInt32) (isInferno : Bool) : Bool :=
  guildid == b.guildid && isInferno == b.bInfernoBank

def loadItem (env : Env) (r : GuildBankRow) : BankItem :=
  let params := tokenizer r.enchantments ' '
  let x : BankItem :=
    { guildid := r.guildid, guid := r.guid, isInferno := r.isInferno,
      tab := r.tab.toUInt8.toUInt32, slot := r.slot.toUInt8.toUInt32,
      itemTemplate := r.itemTemplate, creatorGuid := r.creatorGuid,
      giftCreatorGuid := r.giftCreatorGuid, count := r.count, duration := r.duration,
      charges := r.charges, flags := r.flags, enchantments := r.enchantments,
      enchant := if params.length = 21 then atoiUInt32 (params.headD []) else 0,
      randomPropertyId := r.randomPropertyId.toInt16.toInt32,
      transmogrifyId := r.transmogrifyId, durability := r.durability, text := r.text,
      generatedLoot := r.generatedLoot, state := .itemUnchanged }
  match env.getItemPrototype r.itemTemplate with
  | some proto =>
      { x with
        name :=
          if x.randomPropertyId > 0 then proto.name1 ++ " " ++ env.nameSuffix x.randomPropertyId
          else proto.name1
        quality := proto.quality
        maxStackSize := proto.getMaxStackSize }
  | none => x

def bankRows (b : Bank) (db : CharacterDatabase) : List (GuildBankTabsRow × UInt32) :=
  (db.guildBankTabs.filter fun r => b.owns r.guildid r.isInferno).flatMap fun r =>
    (db.guildBankMoney.filter fun m => b.owns m.guildid m.isInferno).map fun m => (r, m.money)

def loadBank (env : Env) (b : Bank) (db : CharacterDatabase) : Bank :=
  match (bankRows b db).getLast? with
  | none => b
  | some (r, money) =>
      { b with
        bTabs := r.tabs
        bMoney := money
        bTabInfo := fun i =>
          if i = tabMoney then { b.bTabInfo tabMoney with minrank := 1 }
          else if i ≤ maxTabs then r.tabInfo.getD (i.toNat - 1) {}
          else b.bTabInfo i
        bItems := b.bItems ++
          (db.guildBank.filter fun r => b.owns r.guildid r.isInferno).map (loadItem env) }

/-- `b_log[tab][index] = line`, where `index` never exceeds the size. -/
def putLine {α : Type} (l : List α) (index : Nat) (line : α) : List α :=
  if index < l.length then l.set index line else l ++ [line]

/-- The loaded lines overwrite the log in memory from its start. -/
def putLines {α : Type} (l : List α) (lines : List α) : List α :=
  lines.zipIdx.foldl (fun l p => putLine l p.2 p.1) l

def loadLogLine (env : Env) (r : GuildBankLogRow) : BankLog :=
  let proto := env.getItemPrototype r.item
  { player := r.player, action := r.action, tab := r.tab.toUInt8, item := r.item,
    randomPropertyId := r.randomPropertyId, count := r.count.toUInt8, stamp := r.stamp,
    playerName := (env.playerName r.player).getD "Unknown",
    itemName := (proto.map fun p =>
      if r.randomPropertyId > 0 then
        p.name1 ++ " " ++ env.nameSuffix r.randomPropertyId.toInt32
      else p.name1).getD "Unknown",
    itemQuality := (proto.map fun p => u32s p.quality).getD "1",
    state := .itemUnchanged }

def loadMoneyLine (env : Env) (r : GuildBankLogRow) : MoneyLog :=
  { player := r.player, action := r.action, money := r.count, stamp := r.stamp,
    playerName := (env.playerName r.player).getD "Unknown", state := .itemUnchanged }

def loadLog (env : Env) (b : Bank) (db : CharacterDatabase) (now : Int) : Bank :=
  let rows := (db.guildBankLog.filter fun r =>
    b.owns r.guildid r.isInferno && r.stamp ≥ UInt32.ofInt (now - 604800)).insertionSort
      fun r r' => r.stamp ≤ r'.stamp
  if rows.isEmpty then b
  else
    { b with
      bMoneyLog := putLines b.bMoneyLog
        ((rows.filter fun r => r.tab.toUInt8 == 0).map (loadMoneyLine env))
      bLog := fun i =>
        if i = tabMoney then b.bLog i
        else putLines (b.bLog i)
          ((rows.filter fun r => r.tab.toUInt8.toUInt32 == i).map (loadLogLine env))
      bMoneyLogChanged := false
      bLogChanged := false }

def setGuild (env : Env) (guildid : UInt32) (isInferno : Bool) (db : CharacterDatabase)
    (now : Int) : Bank :=
  let b := loadBank env { guildid := guildid, bInfernoBank := isInferno } db
  { loadLog env b db now with
    bTabsChanged := false
    bMoneyChanged := false
    bMoneyLogChanged := false
    bLogChanged := false
    bItemUpdateQueue := [] }

def sendBankMoney (s : Session) : Session :=
  sendAddonMessage s ("BankInfo:money:" ++ u32s s.bank.bMoney)

def sendBankInfo (s : Session) : Session :=
  let infos := [1, 2, 3, 4, 5].map s.bank.bTabInfo
  sendAddonMessage (sendBankMoney s) ("BankInfo:Tabs:" ++ u32s s.bank.bTabs ++ ":" ++
    String.intercalate ":" (infos.map BankTab.name ++ infos.map BankTab.icon ++
      infos.map (fun t => toString t.withdrawals.toNat) ++
      infos.map (fun t => toString t.minrank.toNat)))

/-- The packing of a listing into addon messages: a message is closed, without its last
separator, once it is longer than `ADDON_MAX_PACKET_SIZE`. -/
def packLines (head : CString) : CString → List CString → List CString
  | message, [] =>
      if message = head then [message ++ "end".toList]
      else [message.dropLast, head ++ "end".toList]
  | message, e :: es =>
      if (message ++ e).length > 2096 then (message ++ e).dropLast :: packLines head head es
      else packLines head (message ++ e) es

def sendLines (s : Session) (head : String) (entries : List String) : Session :=
  (packLines head.toList head.toList (entries.map String.toList)).foldl
    (fun s m => sendAddonMessage s (String.ofList m)) s

def sendTabItems (env : Env) (s : Session) (msg : CString) : Session :=
  match tokenizer msg ':' with
  | [_, p1] =>
      let tab := atoiUInt8 p1
      sendLines (sendTabWithdrawalsLeft env s tab) ("TabItems:" ++ toString tab.toNat ++ ":")
        (tabSlots.filterMap fun i =>
          (getItem s.bank tab.toUInt32 i).map fun r => itemTextFull r.2 ++ ";")
  | _ => wrongSyntax s "TabItems" msg

def sendTabWithdrawalsLeftMsg (env : Env) (s : Session) (msg : CString) : Session :=
  match tokenizer msg ':' with
  | [_, p1] => sendTabWithdrawalsLeft env s (atoiUInt8 p1)
  | _ => wrongSyntax s "SendTabWithdrawalsLeft" msg

def lastLines {α : Type} (l : List α) : List α := l.drop (l.length - 50)

def sendTabLog (s : Session) (msg : CString) : Session :=
  match tokenizer msg ':' with
  | [_, p1] =>
      let tab := atoiUInt8 p1
      if tab = 0 ∨ tab > maxTabs.toUInt8 then
        sendAddonMessage s "SendTabLog:Error:ParamsOutOfRange"
      else
        sendLines s ("TabLog:" ++ toString tab.toNat ++ ":")
          ((lastLines (s.bank.bLog tab.toUInt32)).map fun l =>
            u32s l.stamp ++ ";" ++ l.playerName ++ ";" ++ toString l.action.toNat ++ ";" ++
              u32s l.item ++ ";" ++ l.itemName ++ ";" ++ l.itemQuality ++ ";" ++
              toString l.count.toNat ++ ";" ++ u32s l.randomPropertyId ++ ";" ++
              u32s l.enchant ++ "=")
  | _ => wrongSyntax s "SendTabLog" msg

def sendMoneyLog (s : Session) : Session :=
  sendLines s "MoneyLog:"
    ((lastLines s.bank.bMoneyLog).map fun l =>
      u32s l.stamp ++ ";" ++ l.playerName ++ ";" ++ toString l.action.toNat ++ ";" ++
        u32s l.money ++ "=")

def defaultTabInfo : List BankTab :=
  [{ name := "Tab1", icon := "inv_misc_bag_08" }, { name := "Tab2", icon := "inv_misc_bag_05" },
   { name := "Tab3", icon := "inv_misc_bag_03" }, { name := "Tab4", icon := "inv_misc_bag_06" },
   { name := "Tab5", icon := "inv_misc_bag_02" }]

/-- The two `INSERT`s of `UnlockGuildBank`. `guild_bank_tabs` is keyed by a generated id, so
its insert always succeeds; `guild_bank_money` is keyed by guild and bank. -/
def insertBank (b : Bank) (db : CharacterDatabase) : CharacterDatabase :=
  { db with
    guildBankTabs := db.guildBankTabs ++
      [{ guildid := b.guildid, isInferno := b.bInfernoBank, tabs := 1,
         tabInfo := defaultTabInfo }]
    guildBankMoney := (insertRow (fun r : GuildBankMoneyRow => (r.guildid, r.isInferno))
      { guildid := b.guildid, isInferno := b.bInfernoBank, money := 0 }
      db.guildBankMoney).getD db.guildBankMoney }

def unlockGuildBankOk (env : Env) (s : Session) : Session :=
  if s.player.money < guildBankCost then sendBuyError s
  else
    let s := { s with db := insertBank s.bank s.db }
    let s := modifyBank s fun b =>
      loadLog env (loadBank env { b with bTabs := 1 } s.db) s.db s.time
    let s := setMoney s (modifyMoney s.player.money (-guildBankCost.toInt32))
    let s := sendBankInfo (sendGuildMessage s "GUnlock:GuildBank:Ok")
    modifyBank s fun b => { b with
      bMoneyLog := b.bMoneyLog ++
        [{ player := s.player.guid, action := GuildBankAction.unlockGuildBank.code,
           money := guildBankCost, stamp := UInt32.ofInt s.time, playerName := s.player.name,
           state := .itemNew }] }

def unlockGuildBank (env : Env) (s : Session) (msg : CString) : Session :=
  if s.player.rank ≠ 0 then sendAddonMessage s "UnlockGuildBank:Error:NotGM"
  else
    match tokenizer msg ':' with
    | [_, query] =>
        if query = "Cost".toList then
          sendAddonMessage s ("UnlockGuildBank:Cost:" ++ u32s (guildBankCost / gold))
        else if query = "Ok".toList then unlockGuildBankOk env s
        else sendAddonMessage s "UnlockGuildBank:Error:UnknownAction"
    | _ => wrongSyntax s "UnlockGuildBank" msg

def tabCost (tab : UInt8) : UInt32 :=
  if tab = 2 then tab2Cost
  else if tab = 3 then tab3Cost
  else if tab = 4 then tab4Cost
  else if tab = 5 then tab5Cost
  else 0

def unlockTabDone (s : Session) (tab : UInt8) (cost : UInt32) (action : GuildBankAction) :
    Session :=
  let s := modifyBank s fun b => { b with bTabs := tab.toUInt32 }
  let s := sendGuildMessage s ("GUnlock:Tab:" ++ toString tab.toNat ++ ":Ok")
  let s := logAction s action tabMoney tab.toUInt32 cost none
  saveToDB (modifyBank s fun b => { b with bTabsChanged := true })

def unlockTabFields (s : Session) (tab moneySource : UInt8) : Session :=
  if tab ≤ 1 ∨ tab > maxTabs.toUInt8 then sendAddonMessage s "UnlockTab:Error:ParamsOutOfRange"
  else
    let cost := tabCost tab
    if cost = 0 then sendAddonMessage s "UnlockTab:Error:CantFindPrice"
    else if moneySource = 0 then
      if s.bank.bMoney < cost then
        refuse s ("Your guild bank does not have enough money.",
          "UnlockTab:Error:Player:NotEnoughMoney")
      else
        unlockTabDone
          (modifyBank s fun b => { b with bMoney := b.bMoney - cost, bMoneyChanged := true })
          tab cost .unlockTabGuildMoney
    else if s.player.money < cost then
      sendAddonMessage (sendBuyError s) "UnlockTab:Error:Bank:NotEnoughMoney"
    else
      unlockTabDone (setMoney s (modifyMoney s.player.money (-cost.toInt32))) tab cost
        .unlockTabPersonalMoney

def unlockTab (s : Session) (msg : CString) : Session :=
  if s.player.rank ≠ 0 then sendAddonMessage s "UnlockTab:Error:NotGM"
  else
    match tokenizer msg ':' with
    | [_, p1, p2] => unlockTabFields s (atoiUInt8 p1) (atoiUInt8 p2)
    | _ => wrongSyntax s "UnlockTab" msg

def unlockTabCost (s : Session) (msg : CString) : Session :=
  if s.player.rank ≠ 0 then sendAddonMessage s "UnlockTabCost:Error:NotGM"
  else
    match tokenizer msg ':' with
    | [_, p1] =>
        let tab := atoiUInt8 p1
        if tab ≤ 1 ∨ tab > maxTabs.toUInt8 then
          sendAddonMessage s "UnlockTabCost:Error:WrongTab"
        else if tabCost tab = 0 then sendAddonMessage s "UnlockTabCost:Error:Cost0"
        else sendAddonMessage s ("Unlock:Tab:" ++ toString tab.toNat ++ ":Cost:" ++
          u32s (tabCost tab / gold))
    | _ => wrongSyntax s "UnlockTabCost" msg

def updateTab (s : Session) (msg : CString) : Session :=
  if s.player.rank ≠ 0 then sendAddonMessage s "UpdateTab:Error:NotGM"
  else
    match tokenizer msg ':' with
    | [_, p1, name, icon, p4, p5] =>
        let tab := atoiUInt8 p1
        let withdrawals := atoiUInt8 p4
        let minrank := atoiUInt8 p5
        if name.isEmpty ∨ name.length > 30 then sendAddonMessage s "UpdateTab:Error:WrongName"
        else if icon.isEmpty ∨ icon.length > 63 then
          sendAddonMessage s "UpdateTab:Error:WrongIcon"
        else if withdrawals > maxWeeklyWithdrawals then
          sendAddonMessage s "UpdateTab:Error:WrongWithdrawals"
        else if minrank.toUInt32 > s.ranksSize then
          sendAddonMessage s "UpdateTab:Error:WrongMinRank"
        else
          let info : BankTab :=
            { name := String.ofList name, icon := String.ofList icon,
              withdrawals := withdrawals, minrank := minrank }
          let s := modifyBank s fun b => { b with
            bTabInfo := fun i => if i = tab.toUInt32 then info else b.bTabInfo i
            bTabsChanged := true }
          saveToDB (sendGuildMessage s ("GUpdateTab:" ++ toString tab.toNat ++ ":" ++ info.name ++
            ":" ++ info.icon ++ ":" ++ toString withdrawals.toNat ++ ":" ++
            toString minrank.toNat))
    | _ => wrongSyntax s "UpdateTab" msg

def updateMinranks (b : Bank) (rank : UInt32) : Bank :=
  let hit (i : UInt32) : Bool := 1 ≤ i ∧ i ≤ maxTabs ∧ (b.bTabInfo i).minrank.toUInt32 = rank
  { b with
    bTabInfo := fun i =>
      if hit i then { b.bTabInfo i with minrank := (b.bTabInfo i).minrank - 1 }
      else b.bTabInfo i
    bTabsChanged := b.bTabsChanged || [1, 2, 3, 4, 5].any hit }

/-- The amount of a money message: a number that fits in a `uint32`. -/
def parseMoney (token : CString) : Option UInt32 :=
  match strtoul token with
  | some parsed => if parsed > 4294967295 then none else some (UInt32.ofNat parsed)
  | none => none

def depositMoneyFields (s : Session) (money : UInt32) : Session :=
  if money > 4294967295 - s.bank.bMoney then
    refuse s ("Your guild bank cannot hold that much.", "DepositMoney:Error:TooMuch")
  else if s.player.money < money then
    sendAddonMessage (sendBuyError s) "DepositMoney:Error:NotEnoughMoney"
  else
    let s := setMoney s (modifyMoney s.player.money (-money.toInt32))
    let s := modifyBank s fun b => { b with bMoney := b.bMoney + money }
    let s := logAction s .depositMoney tabMoney 0 money none
    let s := sendGuildMessage s ("GMoney:" ++ u32s s.bank.bMoney)
    saveToDB (modifyBank s fun b => { b with bMoneyChanged := true })

def depositMoney (s : Session) (msg : CString) : Session :=
  match tokenizer msg ':' with
  | [_, p1] =>
      match parseMoney p1 with
      | some money => depositMoneyFields s money
      | none => wrongSyntax s "DepositMoney" msg
  | _ => wrongSyntax s "DepositMoney" msg

def withdrawMoneyFields (env : Env) (s : Session) (money : UInt32) : Session :=
  if !canAccessTab env s 0 .withdrawMoney then
    refuse s ("You dont have access to guild money.", "WithdrawMoney:Error:NoAccess")
  else if money > s.bank.bMoney then
    refuse s ("Your guild bank does not have enough money.", "WithdrawMoney:Error:NotEnoug")
  else
    let s := modifyBank s fun b => { b with bMoney := b.bMoney - money }
    let s := setMoney s (modifyMoney s.player.money money.toInt32)
    let s := logAction s .withdrawMoney tabMoney 0 money none
    let s := sendGuildMessage s ("GMoney:" ++ u32s s.bank.bMoney)
    saveToDB (modifyBank s fun b => { b with bMoneyChanged := true })

def withdrawMoney (env : Env) (s : Session) (msg : CString) : Session :=
  match tokenizer msg ':' with
  | [_, p1] =>
      match parseMoney p1 with
      | some money => withdrawMoneyFields env s money
      | none => wrongSyntax s "WithdrawMoney" msg
  | _ => wrongSyntax s "WithdrawMoney" msg

end TortoiseWow.GuildBank
