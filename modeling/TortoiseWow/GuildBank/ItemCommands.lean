import TortoiseWow.GuildBank.Items

/-!
The item commands: deposit, withdraw, swap, move and split. Each addon message
handler tokenises the message and narrows its fields as the source does; the
work is done by a definition over the narrowed fields. Arithmetic on counts is
the `uint32` arithmetic of the source, wrap-around included.

`DepositItemInSlot` and `DepositItemInFreeSlot` call each other; the recursion is
cut by fuel, which `freeSlotFuel` provides in excess of the 98 slots of a tab.
-/

namespace TortoiseWow.GuildBank

open Lib

def itemText (x : BankItem) : String :=
  u32s x.tab ++ ":" ++ u32s x.slot ++ ":" ++ u32s x.guid ++ ":" ++ u32s x.itemTemplate ++ ":" ++
    u32s x.count

def itemTextFull (x : BankItem) : String :=
  itemText x ++ ":" ++ (if x.randomPropertyId > 0 then x.name else "0") ++ ":" ++
    toString x.randomPropertyId.toInt ++ ":" ++ u32s x.enchant

def payDeposit (s : Session) (j : Nat) (pItem : Item) (count : UInt32) : Session :=
  setBags s (setCount s.player.bags j pItem (pItem.count - count))

/-- What the player pays for a deposit. `again` is the call of `DepositItemInFreeSlot` for
what remains in the bag. -/
def payBag (again : Session → Session) (s : Session) (j : Nat) (pItem : Item)
    (count remainer : UInt32) : Session :=
  if remainer = 0 then
    if count = pItem.count then setBags s (destroyItem s.player.bags pItem.bag pItem.slot)
    else payDeposit s j pItem count
  else again (payDeposit s j pItem count)

def finishDeposit (s : Session) (i : Nat) (bItem : BankItem) (count : UInt32) : Session :=
  let x := (s.bank.bItems[i]?).getD bItem
  saveToDB (logAction (sendGuildMessage s ("GDeposit:" ++ itemTextFull x)) .depositItem
    bItem.tab bItem.itemTemplate count (some x))

def depositedItem (env : Env) (b : Bank) (bankTab bankSlot : UInt32) (pItem : Item)
    (count : UInt32) : BankItem :=
  cloneIntoBank env b
    { isInferno := b.bInfernoBank, guid := getNewGuid b, guildid := b.guildid, count := count,
      tab := bankTab, slot := bankSlot, state := .itemNew } pItem

/-- The bank item a deposit leaves in an occupied slot. -/
def restackedItem (env : Env) (b : Bank) (dItem : BankItem) (pItem : Item) (count : UInt32)
    (stack : Bool) : BankItem :=
  cloneIntoBank env b
    { dItem with
      count := if stack then dItem.count + count else count
      state := .itemChanged } pItem

/-- `DepositItemInSlot`, which is only called with `ITEM_NEW` or `ITEM_CHANGED`; `j` is the
place of `pItem` in the bags. -/
def depositItemInSlot (env : Env) (again : Session → Session) (s : Session)
    (bankTab bankSlot : UInt32) (j : Nat) (pItem : Item) (count remainer : UInt32)
    (state : ItemUpdateState) (stack : Bool) : Session :=
  if state = .itemNew then
    let bItem := depositedItem env s.bank bankTab bankSlot pItem count
    finishDeposit (payBag again (addItem (pushUpdate s bItem) bItem) j pItem count remainer)
      s.bank.bItems.length bItem count
  else
    match getItem s.bank bankTab bankSlot with
    | none =>
        sendAddonMessage s ("DepositItem:Error:CantFindStackDestinationItemAt:" ++
          u32s bankTab ++ ":" ++ u32s bankSlot)
    | some (i, dItem) =>
        let bItem := restackedItem env s.bank dItem pItem count stack
        finishDeposit (payBag again (pushUpdate (writeItem s (some i) bItem) bItem) j pItem count
          remainer) i bItem count

def tabSlots : List UInt32 := (List.range' 1 98).map UInt32.ofNat

def openStack (b : Bank) (bankTab itemId : UInt32) : Option (UInt32 × BankItem) :=
  tabSlots.findSome? fun i =>
    match getItem b bankTab i with
    | some (_, bItem) =>
        if bItem.itemTemplate = itemId ∧ bItem.count < bItem.maxStackSize then some (i, bItem)
        else none
    | none => none

def freeSlot (b : Bank) (bankTab : UInt32) : Option UInt32 :=
  tabSlots.find? fun slot => (getItem b bankTab slot).isNone

def depositItemInFreeSlot (env : Env) : Nat → UInt32 → Nat → Session → Session
  | 0, _, _, s => s
  | fuel + 1, bankTab, j, s =>
      match s.player.bags[j]? with
      | none => s
      | some pItem =>
          let deposit := depositItemInSlot env (depositItemInFreeSlot env fuel bankTab j) s bankTab
          let target :=
            if pItem.proto.getMaxStackSize > 1 then openStack s.bank bankTab pItem.proto.itemId
            else none
          match target with
          | some (i, bItem) =>
              if pItem.count + bItem.count ≤ bItem.maxStackSize then
                deposit i j pItem pItem.count 0 .itemChanged true
              else
                deposit i j pItem (bItem.maxStackSize - bItem.count)
                  (pItem.count - (bItem.maxStackSize - bItem.count)) .itemChanged true
          | none =>
              match freeSlot s.bank bankTab with
              | some slot => deposit slot j pItem pItem.count 0 .itemNew false
              | none =>
                  sendAddonMessage (sendNotification s "Your bank tab is full.")
                    "DepositItem:Error:BankTabFullAdd"

/-- Every visit fills a slot, and a slot is visited at most twice: once more when its
stored stack limit was smaller than the template's. -/
def freeSlotFuel : Nat := 2 * 98 + 1

def depositInSlot (env : Env) (s : Session) (bankTab bankSlot : UInt32) (j : Nat)
    (pItem : Item) (count : UInt32) (state : ItemUpdateState) (stack : Bool) : Session :=
  depositItemInSlot env (depositItemInFreeSlot env freeSlotFuel bankTab j) s bankTab bankSlot j
    pItem count 0 state stack

def takeFromBank (s : Session) (bankTab bankSlot : UInt32) (ref : Option Nat)
    (bItem : BankItem) (left remainer : UInt32) (swap : Bool) : Session × BankItem :=
  if remainer = 0 then
    let x := { bItem with state := .itemRemoved }
    let s := pushUpdate (writeItem s ref x) x
    (if swap then s
     else sendGuildMessage s ("GWithdraw:" ++ u32s bankTab ++ ":" ++ u32s bankSlot), x)
  else
    let x := { bItem with count := left, state := .itemChanged }
    (sendGuildMessage (pushUpdate (writeItem s ref x) x)
      ("GPartialWithdraw:" ++ itemText x ++ ":0:0:0"), x)

def grant (s : Session) (g : Grant) : Session := { s with granted := s.granted ++ [g] }

/-- Ghost record, log and removal after the items have changed hands. -/
def finishWithdraw (env : Env) (s : Session) (bankTab count : UInt32) (ref : Option Nat)
    (bItem : BankItem) : Session :=
  let s := grant s
    { player := s.player.guid, tab := bItem.tab, itemTemplate := bItem.itemTemplate,
      count := count }
  let s := logAction s .withdrawItem bItem.tab bItem.itemTemplate count (some bItem)
  let s := if bItem.state = .itemRemoved then deleteItem s ref else s
  sendTabWithdrawalsLeft env s bankTab.toUInt8

/-- `WithdrawItem(bankTab, ...)`. `ref` is the place of `bItem` in `b_items`, or `none`
for the local copy `SwapItems` passes. -/
def withdrawItemTo (env : Env) (s : Session) (bankTab bankSlot count playerBag playerSlot : UInt32)
    (ref : Option Nat) (bItem : BankItem) (pItem : Option (Nat × Item)) (remainer : UInt32)
    (swap : Bool) : Session :=
  match env.storage.canStoreNewItem s.player.bags playerBag.toUInt8 playerSlot.toUInt8
      bItem.itemTemplate count with
  | (.equipErrOk, dest) =>
      match pItem with
      | some (j, item) =>
          let (s, x) :=
            takeFromBank s bankTab bankSlot ref bItem (bItem.count - count) remainer swap
          let s := setBags s (setCount s.player.bags j item (item.count + count))
          saveToDB (finishWithdraw env s bankTab count ref x)
      | none =>
          match env.storage.storeNewItem s.player.bags dest bItem.itemTemplate
              (env.generateItemRandomPropertyId bItem.itemTemplate) with
          | some (bags, j) =>
              let s := setBags s
                (match bags[j]? with
                 | some item => bags.set j (cloneIntoBag s.player.guid item bItem)
                 | none => bags)
              let (s, x) := takeFromBank s bankTab bankSlot ref bItem remainer remainer swap
              saveToDB (finishWithdraw env s bankTab count ref x)
          | none => saveToDB s
  | (result, _) => sendEquipError s result

/-- `SwapItems`. The deposit overwrites the bank slot in place and destroys the bag item,
whose position then reads as `(INVENTORY_SLOT_BAG_0, NULL_SLOT)`; the withdrawal works on
the copy taken before. -/
def swapItems (env : Env) (s : Session) (j : Nat) (bagItem : Item) (bankItem : BankItem) :
    Session :=
  match (env.storage.canStoreNewItem s.player.bags nullBag nullSlot bankItem.itemTemplate
      bankItem.count).1 with
  | .equipErr code => sendEquipError s (.equipErr code)
  | _ =>
      let s := depositInSlot env s bankItem.tab bankItem.slot j bagItem bagItem.count
        .itemChanged false
      withdrawItemTo env s bankItem.tab bankItem.slot bankItem.count
        inventorySlotBag0.toUInt32 nullSlot.toUInt32 none bankItem none 0 true

/-- The bag position a client names, as the server numbers it. -/
def serverPos (playerBag playerSlot : UInt8) : UInt8 × UInt8 :=
  if playerBag = 0 then (inventorySlotBag0, playerSlot + inventorySlotItemStart - 1)
  else (playerBag + inventorySlotBagStart - 1, playerSlot - 1)

def depositOver (env : Env) (s : Session) (bankTab bankSlot : UInt32) (j : Nat) (pItem : Item)
    (count : UInt32) (i : Nat) (dItem : BankItem) : Session :=
  if dItem.itemTemplate = pItem.proto.itemId ∧ dItem.count = pItem.count ∧
      dItem.count = dItem.maxStackSize ∧
      dItem.randomPropertyId = pItem.getItemRandomPropertyId then
    sendAddonMessage s "DepositItem:Swap:Error:SameItemSameCount"
  else if dItem.itemTemplate = pItem.proto.itemId ∧ dItem.maxStackSize > 1 then
    if dItem.count + count ≤ dItem.maxStackSize then
      depositInSlot env s bankTab bankSlot j pItem count .itemChanged true
    else if count < dItem.count ∧ dItem.count = dItem.maxStackSize then
      -- a part stack over a full one: the difference is withdrawn instead
      withdrawItemTo env s bankTab bankSlot (dItem.maxStackSize - count) pItem.bag.toUInt32
        pItem.slot.toUInt32 (some i) dItem (some (j, pItem))
        (dItem.maxStackSize - (dItem.maxStackSize - count)) false
    else
      depositInSlot env s bankTab bankSlot j pItem (dItem.maxStackSize - dItem.count)
        .itemChanged true
  else swapItems env s j pItem dItem

def depositItemFields (env : Env) (s : Session)
    (playerBag playerSlot bankTab bankSlot count : UInt8) : Session :=
  if bankTab = 0 ∨ bankTab > maxTabs.toUInt8 ∨ bankSlot > bankTabSize.toUInt8 then
    sendAddonMessage s "DepositItem:Error:ParamsOutOfRange"
  else if !canAccessTab env s bankTab .depositItem then
    refuse s ("You dont have access to this tab.", "DepositItem:Error:NoRights")
  else
    let (bag, slot) := serverPos playerBag playerSlot
    match getItemByPos s.player.bags bag slot with
    | none =>
        sendAddonMessage s ("DepositItem:Error:CantGetPlayerItem:" ++ toString bag.toNat ++ ":" ++
          toString slot.toNat)
    | some (j, pItem) =>
        match isItemBankable pItem with
        | some notice => refuse s notice
        | none =>
            if count.toUInt32 > pItem.getMaxStackCount then
              sendAddonMessage s "DepositItem:Error:Count>GetMaxStackCount"
            else if bankSlot = 0 then
              depositItemInFreeSlot env freeSlotFuel bankTab.toUInt32 j s
            else
              match getItem s.bank bankTab.toUInt32 bankSlot.toUInt32 with
              | some (i, dItem) =>
                  depositOver env s bankTab.toUInt32 bankSlot.toUInt32 j pItem count.toUInt32
                    i dItem
              | none =>
                  depositInSlot env s bankTab.toUInt32 bankSlot.toUInt32 j pItem count.toUInt32
                    .itemNew false

abbrev wrongSyntax (s : Session) (command : String) (msg : CString) : Session :=
  sendAddonMessage s (command ++ ":Error:WrongSyntax(" ++ String.ofList msg ++ ")")

def atoiUInt8 (token : CString) : UInt8 := (atoi token).toUInt32.toUInt8
def atoiUInt32 (token : CString) : UInt32 := (atoi token).toUInt32

def depositItem (env : Env) (s : Session) (msg : CString) : Session :=
  match tokenizer msg ':' with
  | [_, p1, p2, p3, p4, p5] =>
      depositItemFields env s (atoiUInt8 p1) (atoiUInt8 p2) (atoiUInt8 p3) (atoiUInt8 p4)
        (atoiUInt8 p5)
  | _ => wrongSyntax s "DepositItem" msg

def withdrawOver (env : Env) (s : Session) (bankTab bankSlot withdrawCount bag slot : UInt32)
    (i : Nat) (bItem : BankItem) (j : Nat) (pItem : Item) : Session :=
  match isItemBankable pItem with
  | some notice => refuse s notice
  | none =>
      if pItem.proto.itemId = bItem.itemTemplate ∧ bItem.maxStackSize > 1 then
        let count :=
          if withdrawCount + pItem.count > pItem.getMaxStackCount then
            pItem.proto.getMaxStackSize - pItem.count
          else withdrawCount
        withdrawItemTo env s bankTab bankSlot count bag slot (some i) bItem (some (j, pItem))
          (bItem.count - count) false
      else swapItems env s j pItem bItem

def withdrawItemFields (env : Env) (s : Session)
    (bankTab bankSlot playerBag playerSlot withdrawCount : UInt32) : Session :=
  if bankTab = 0 ∨ bankTab > maxTabs ∨ bankSlot = 0 ∨ bankSlot > bankTabSize then
    sendAddonMessage s "WithdrawItem:Error:ParamsOutOfRange"
  else if !canAccessTab env s bankTab.toUInt8 .withdrawItem then
    refuse s ("You dont have access to this tab.", "WithdrawItem:Error:NoRights")
  else
    match getItem s.bank bankTab bankSlot with
    | none => sendAddonMessage s "WithdrawItem:Error:CantFindBankItem"
    | some (i, bItem) =>
        if withdrawCount > bItem.count then
          sendAddonMessage s "WithdrawItem:Error:CantWithdrawMoreThanCount"
        else if playerBag = 0 ∧ playerSlot = 0 then
          if bItem.count = withdrawCount then
            withdrawItemTo env s bankTab bankSlot bItem.count nullBag.toUInt32 nullSlot.toUInt32
              (some i) bItem none 0 false
          else sendAddonMessage s "WithdrawItem:Error:CantAutoWithdrawDifferentCount"
        else
          let bag := if playerBag = 0 then 255 else playerBag + 18
          let slot := if bag = 255 then playerSlot + 22 else playerSlot - 1
          match getItemByPos s.player.bags bag.toUInt8 slot.toUInt8 with
          | some (j, pItem) =>
              withdrawOver env s bankTab bankSlot withdrawCount bag slot i bItem j pItem
          | none =>
              withdrawItemTo env s bankTab bankSlot withdrawCount bag slot (some i) bItem none
                (bItem.count - withdrawCount) false

def withdrawItem (env : Env) (s : Session) (msg : CString) : Session :=
  match tokenizer msg ':' with
  | [_, p1, p2, p3, p4, p5] =>
      withdrawItemFields env s (atoiUInt32 p1) (atoiUInt32 p2) (atoiUInt32 p3) (atoiUInt32 p4)
        (atoiUInt32 p5)
  | _ => wrongSyntax s "WithdrawItem" msg

def changeItem (s : Session) (i : Nat) (x : BankItem) : Session :=
  pushUpdate (writeItem s (some i) x) x

/-- `MoveItem(sItem, dItem, ...)` with a source. Only the exchange ends in `SaveToDB`;
the other branches return before it. -/
def moveItemTo (s : Session) (bankTab fromSlot toSlot : UInt32) (i : Nat) (sItem : BankItem)
    (dest : Option (Nat × BankItem)) : Session :=
  let emptied := "GMoveItem:from:" ++ u32s bankTab ++ ":" ++ u32s fromSlot ++ ":0:0:0:0:0:0:to:"
  match dest with
  | none =>
      let x := { sItem with slot := toSlot, state := .itemChanged }
      sendGuildMessage (changeItem s i x) (emptied ++ itemTextFull x)
  | some (k, dItem) =>
      if sItem.itemTemplate = dItem.itemTemplate ∧
          ¬ (sItem.count = sItem.maxStackSize ∨ dItem.count = dItem.maxStackSize) then
        if sItem.count + dItem.count ≤ sItem.maxStackSize then
          let y := { dItem with count := sItem.count + dItem.count, state := .itemChanged }
          let x := { sItem with state := .itemRemoved }
          let s := pushUpdate (writeItem (changeItem s k y) (some i) x) x
          sendGuildMessage (deleteItem s (some i)) (emptied ++ itemTextFull y)
        else
          let x := { sItem with
            count := sItem.count - (sItem.maxStackSize - dItem.count), state := .itemChanged }
          let y := { dItem with count := dItem.maxStackSize, state := .itemChanged }
          sendGuildMessage (changeItem (changeItem s i x) k y)
            ("GMoveItem:from:" ++ itemTextFull x ++ ":to:" ++ itemTextFull y)
      else
        let x := { sItem with slot := toSlot, state := .itemChanged }
        let y := { dItem with slot := fromSlot, state := .itemChanged }
        saveToDB (sendGuildMessage (changeItem (changeItem s i x) k y)
          ("GMoveItem:from:" ++ itemTextFull x ++ ":to:" ++ itemTextFull y))

def slotsOutOfRange (bankTab fromSlot toSlot : UInt8) : Bool :=
  bankTab == 0 || bankTab > maxTabs.toUInt8 || fromSlot == 0 ||
    fromSlot > bankTabSize.toUInt8 || toSlot == 0 || toSlot > bankTabSize.toUInt8

def moveItemFields (env : Env) (s : Session) (bankTab fromSlot toSlot : UInt8) : Session :=
  if !canAccessTab env s bankTab .moveItem then
    refuse s ("You dont have access in this tab.", "MoveItem:Error:NoRights")
  else if fromSlot = toSlot then sendAddonMessage s "MoveItem:Error:SameSourceDest"
  else if slotsOutOfRange bankTab fromSlot toSlot then
    sendAddonMessage s "MoveItem:Error:ParamsOutOfRange"
  else
    match getItem s.bank bankTab.toUInt32 fromSlot.toUInt32 with
    | none => sendAddonMessage s "MoveItem:Error:CantGetSource"
    | some (i, sItem) =>
        moveItemTo s bankTab.toUInt32 fromSlot.toUInt32 toSlot.toUInt32 i sItem
          (getItem s.bank bankTab.toUInt32 toSlot.toUInt32)

def moveItem (env : Env) (s : Session) (msg : CString) : Session :=
  match tokenizer msg ':' with
  | [_, p1, p2, p3] =>
      moveItemFields env s (atoiUInt8 p1) (atoiUInt8 p2) (atoiUInt8 p3)
  | _ => wrongSyntax s "MoveItem" msg

def splitText (x y : BankItem) : String :=
  "GSplitItem:from:" ++ itemText x ++ ":0:0:0:to:" ++ itemText y ++ ":0:0:0"

def splitToEmpty (s : Session) (toSlot split : UInt32) (i : Nat) (sItem : BankItem) : Session :=
  if split ≥ sItem.maxStackSize then
    sendAddonMessage s "SplitItem:Error:DestinationCountTooBig"
  else if sItem.count.toInt32 - split.toInt32 ≤ 0 then
    sendAddonMessage s "SplitItem:Error:SourceLeftCount0"
  else
    let x := { sItem with
      count := (sItem.count.toInt32 - split.toInt32).toUInt32, state := .itemChanged }
    let s := changeItem s i x
    let y := { cloneBankItem s.bank x with slot := toSlot, count := split, state := .itemNew }
    saveToDB (sendGuildMessage (addItem (pushUpdate s y) y) (splitText x y))

/-- A split onto another stack; this branch returns before `SaveToDB`. -/
def splitToStack (s : Session) (split : UInt32) (i : Nat) (sItem : BankItem) (k : Nat)
    (dItem : BankItem) : Session :=
  if sItem.itemTemplate = dItem.itemTemplate then
    if dItem.count + split ≤ dItem.maxStackSize then
      let sourceNewCount := sItem.count - split
      let destNewCount := dItem.count + split
      if sourceNewCount = 0 then sendAddonMessage s "SplitItem:Error:SourceCount0"
      else if sourceNewCount > sItem.maxStackSize then
        sendAddonMessage s "SplitItem:Error:BadSourceCount"
      else if destNewCount = 0 then sendAddonMessage s "SplitItem:Error:DestCount0"
      else if destNewCount > sItem.maxStackSize then
        sendAddonMessage s "SplitItem:Error:BadDestCount"
      else
        let x := { sItem with count := sourceNewCount, state := .itemChanged }
        let y := { dItem with count := destNewCount, state := .itemChanged }
        sendGuildMessage (changeItem (changeItem s i x) k y) (splitText x y)
    else sendAddonMessage s "SplitItem:cantStackOnTarget"
  else sendAddonMessage s "SplitItem:destinationItemDifferent"

def splitItemFields (env : Env) (s : Session) (bankTab fromSlot toSlot split : UInt8) : Session :=
  if !canAccessTab env s bankTab .splitItem then
    refuse s ("You dont have access to this tab.", "SplitItem:Error:NoRights")
  else if fromSlot = toSlot then sendAddonMessage s "SplitItem:Error:fromSlot=toSlot"
  else if slotsOutOfRange bankTab fromSlot toSlot then
    sendAddonMessage s "SplitItem:Error:ParamsOutOfRange"
  else
    match getItem s.bank bankTab.toUInt32 fromSlot.toUInt32 with
    | none => s
    | some (i, sItem) =>
        match getItem s.bank bankTab.toUInt32 toSlot.toUInt32 with
        | none => splitToEmpty s toSlot.toUInt32 split.toUInt32 i sItem
        | some (k, dItem) => splitToStack s split.toUInt32 i sItem k dItem

def splitItem (env : Env) (s : Session) (msg : CString) : Session :=
  match tokenizer msg ':' with
  | [_, p1, p2, p3, p4] =>
      splitItemFields env s (atoiUInt8 p1) (atoiUInt8 p2) (atoiUInt8 p3) (atoiUInt8 p4)
  | _ => wrongSyntax s "SplitItem" msg

end TortoiseWow.GuildBank
