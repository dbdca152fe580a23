import TortoiseWow.GuildBank.Frame

/-!
What an item message amounts to. `itemAction` reads the message and the state and
returns the one action the handler takes, or nothing when it only answers; the
handler is that action performed. The facts the handlers have established by then
are collected in `ItemAction.Valid`, so later proofs start from the action and
never look at a message again.
-/

namespace TortoiseWow.GuildBank

open Lib

inductive ItemAction where
  | depositFree (tab : UInt32) (j : Nat) (pItem : Item)
  | depositNew (tab slot : UInt32) (j : Nat) (pItem : Item) (count : UInt32)
  | depositOnto (tab slot : UInt32) (j : Nat) (pItem : Item) (count : UInt32) (i : Nat)
      (dItem : BankItem)
  | withdraw (tab slot count bag bagSlot : UInt32) (i : Nat) (bItem : BankItem)
      (pItem : Option (Nat × Item)) (remainer : UInt32)
  | swap (j : Nat) (pItem : Item) (i : Nat) (bItem : BankItem)
  | move (tab fromSlot toSlot : UInt32) (i : Nat) (sItem : BankItem)
      (dest : Option (Nat × BankItem))
  | splitEmpty (tab fromSlot toSlot split : UInt32) (i : Nat) (sItem : BankItem)
  | splitStack (tab fromSlot toSlot split : UInt32) (i : Nat) (sItem : BankItem) (k : Nat)
      (dItem : BankItem)

def ItemAction.perform (env : Env) (s : Session) : ItemAction → Session
  | depositFree tab j _ => depositItemInFreeSlot env freeSlotFuel tab j s
  | depositNew tab slot j pItem count =>
      depositInSlot env s tab slot j pItem count .itemNew false
  | depositOnto tab slot j pItem count _ _ =>
      depositInSlot env s tab slot j pItem count .itemChanged true
  | withdraw tab slot count bag bagSlot i bItem pItem remainer =>
      withdrawItemTo env s tab slot count bag bagSlot (some i) bItem pItem remainer false
  | swap j pItem _ bItem => swapItems env s j pItem bItem
  | move tab fromSlot toSlot i sItem dest => moveItemTo s tab fromSlot toSlot i sItem dest
  | splitEmpty _ _ toSlot split i sItem => splitToEmpty s toSlot split i sItem
  | splitStack _ _ _ split i sItem k dItem => splitToStack s split i sItem k dItem

def depositOverAction (tab slot : UInt32) (j : Nat) (pItem : Item) (count : UInt32) (i : Nat)
    (dItem : BankItem) : Option ItemAction :=
  if dItem.itemTemplate = pItem.proto.itemId ∧ dItem.count = pItem.count ∧
      dItem.count = dItem.maxStackSize ∧
      dItem.randomPropertyId = pItem.getItemRandomPropertyId then none
  else if dItem.itemTemplate = pItem.proto.itemId ∧ dItem.maxStackSize > 1 then
    if dItem.count + count ≤ dItem.maxStackSize then
      some (.depositOnto tab slot j pItem count i dItem)
    else if count < dItem.count ∧ dItem.count = dItem.maxStackSize then
      some (.withdraw tab slot (dItem.maxStackSize - count) pItem.bag.toUInt32
        pItem.slot.toUInt32 i dItem (some (j, pItem))
        (dItem.maxStackSize - (dItem.maxStackSize - count)))
    else some (.depositOnto tab slot j pItem (dItem.maxStackSize - dItem.count) i dItem)
  else some (.swap j pItem i dItem)

def depositAction (env : Env) (s : Session)
    (playerBag playerSlot bankTab bankSlot count : UInt8) : Option ItemAction :=
  if bankTab = 0 ∨ bankTab > maxTabs.toUInt8 ∨ bankSlot > bankTabSize.toUInt8 then none
  else if !canAccessTab env s bankTab .depositItem then none
  else
    match getItemByPos s.player.bags (serverPos playerBag playerSlot).1
        (serverPos playerBag playerSlot).2 with
    | none => none
    | some (j, pItem) =>
        match isItemBankable pItem with
        | some _ => none
        | none =>
            if count.toUInt32 > pItem.getMaxStackCount then none
            else if bankSlot = 0 then some (.depositFree bankTab.toUInt32 j pItem)
            else
              match getItem s.bank bankTab.toUInt32 bankSlot.toUInt32 with
              | some (i, dItem) =>
                  depositOverAction bankTab.toUInt32 bankSlot.toUInt32 j pItem count.toUInt32
                    i dItem
              | none =>
                  some (.depositNew bankTab.toUInt32 bankSlot.toUInt32 j pItem count.toUInt32)

def withdrawOntoCount (withdrawCount : UInt32) (pItem : Item) : UInt32 :=
  if withdrawCount + pItem.count > pItem.getMaxStackCount then
    pItem.proto.getMaxStackSize - pItem.count
  else withdrawCount

def withdrawOverAction (bankTab bankSlot withdrawCount bag slot : UInt32) (i : Nat)
    (bItem : BankItem) (j : Nat) (pItem : Item) : Option ItemAction :=
  match isItemBankable pItem with
  | some _ => none
  | none =>
      if pItem.proto.itemId = bItem.itemTemplate ∧ bItem.maxStackSize > 1 then
        some (.withdraw bankTab bankSlot (withdrawOntoCount withdrawCount pItem) bag slot i bItem
          (some (j, pItem)) (bItem.count - withdrawOntoCount withdrawCount pItem))
      else some (.swap j pItem i bItem)

def withdrawBag (playerBag : UInt32) : UInt32 := if playerBag = 0 then 255 else playerBag + 18

def withdrawSlot (playerBag playerSlot : UInt32) : UInt32 :=
  if withdrawBag playerBag = 255 then playerSlot + 22 else playerSlot - 1

def withdrawAction (env : Env) (s : Session)
    (bankTab bankSlot playerBag playerSlot withdrawCount : UInt32) : Option ItemAction :=
  if bankTab = 0 ∨ bankTab > maxTabs ∨ bankSlot = 0 ∨ bankSlot > bankTabSize then none
  else if !canAccessTab env s bankTab.toUInt8 .withdrawItem then none
  else
    match getItem s.bank bankTab bankSlot with
    | none => none
    | some (i, bItem) =>
        if withdrawCount > bItem.count then none
        else if playerBag = 0 ∧ playerSlot = 0 then
          if bItem.count = withdrawCount then
            some (.withdraw bankTab bankSlot bItem.count nullBag.toUInt32 nullSlot.toUInt32 i
              bItem none 0)
          else none
        else
          match getItemByPos s.player.bags (withdrawBag playerBag).toUInt8
              (withdrawSlot playerBag playerSlot).toUInt8 with
          | some (j, pItem) =>
              withdrawOverAction bankTab bankSlot withdrawCount (withdrawBag playerBag)
                (withdrawSlot playerBag playerSlot) i bItem j pItem
          | none =>
              some (.withdraw bankTab bankSlot withdrawCount (withdrawBag playerBag)
                (withdrawSlot playerBag playerSlot) i bItem none (bItem.count - withdrawCount))

def moveAction (env : Env) (s : Session) (bankTab fromSlot toSlot : UInt8) :
    Option ItemAction :=
  if !canAccessTab env s bankTab .moveItem then none
  else if fromSlot = toSlot then none
  else if slotsOutOfRange bankTab fromSlot toSlot then none
  else
    (getItem s.bank bankTab.toUInt32 fromSlot.toUInt32).map fun r =>
      .move bankTab.toUInt32 fromSlot.toUInt32 toSlot.toUInt32 r.1 r.2
        (getItem s.bank bankTab.toUInt32 toSlot.toUInt32)

def splitAction (env : Env) (s : Session) (bankTab fromSlot toSlot split : UInt8) :
    Option ItemAction :=
  if !canAccessTab env s bankTab .splitItem then none
  else if fromSlot = toSlot then none
  else if slotsOutOfRange bankTab fromSlot toSlot then none
  else
    (getItem s.bank bankTab.toUInt32 fromSlot.toUInt32).map fun r =>
      match getItem s.bank bankTab.toUInt32 toSlot.toUInt32 with
      | none =>
          .splitEmpty bankTab.toUInt32 fromSlot.toUInt32 toSlot.toUInt32 split.toUInt32 r.1 r.2
      | some (k, dItem) =>
          .splitStack bankTab.toUInt32 fromSlot.toUInt32 toSlot.toUInt32 split.toUInt32 r.1 r.2
            k dItem

def itemAction (env : Env) (msg : CString) (s : Session) (h : Handler) : Option ItemAction :=
  match h, tokenizer msg ':' with
  | .depositItem, [_, p1, p2, p3, p4, p5] =>
      depositAction env s (atoiUInt8 p1) (atoiUInt8 p2) (atoiUInt8 p3) (atoiUInt8 p4)
        (atoiUInt8 p5)
  | .withdrawItem, [_, p1, p2, p3, p4, p5] =>
      withdrawAction env s (atoiUInt32 p1) (atoiUInt32 p2) (atoiUInt32 p3) (atoiUInt32 p4)
        (atoiUInt32 p5)
  | .moveItem, [_, p1, p2, p3] => moveAction env s (atoiUInt8 p1) (atoiUInt8 p2) (atoiUInt8 p3)
  | .splitItem, [_, p1, p2, p3, p4] =>
      splitAction env s (atoiUInt8 p1) (atoiUInt8 p2) (atoiUInt8 p3) (atoiUInt8 p4)
  | _, _ => none

theorem itemAction_moveItem {env : Env} {msg : CString} {s : Session} {a : ItemAction}
    (act : itemAction env msg s .moveItem = some a) :
    ∃ tab fromSlot toSlot i sItem dest, a = .move tab fromSlot toSlot i sItem dest := by
  unfold itemAction at act
  generalize tokenizer msg ':' = tokens at act
  rcases tokens with _ | ⟨a, _ | ⟨b, _ | ⟨c, _ | ⟨d, _ | ⟨e, l⟩⟩⟩⟩⟩
  case cons.cons.cons.cons.nil =>
    dsimp only [moveAction] at act
    split_ifs at act
    obtain ⟨r, -, rfl⟩ := Option.map_eq_some_iff.mp act
    exact ⟨_, _, _, _, _, _, rfl⟩
  all_goals cases act

def Session.Performs (env : Env) (s : Session) (action : Option ItemAction) (s' : Session) :
    Prop :=
  match action with
  | some a => s' = a.perform env s
  | none => s.Answers s'

theorem depositOver_performs (env : Env) (s : Session) (tab slot : UInt32) (j : Nat)
    (pItem : Item) (count : UInt32) (i : Nat) (dItem : BankItem) :
    s.Performs env (depositOverAction tab slot j pItem count i dItem)
      (depositOver env s tab slot j pItem count i dItem) := by
  unfold depositOverAction depositOver
  split_ifs
  · exact answers_send s _
  · rfl
  · rfl
  · rfl
  · rfl

theorem depositItemFields_performs (env : Env) (s : Session)
    (playerBag playerSlot bankTab bankSlot count : UInt8) :
    s.Performs env (depositAction env s playerBag playerSlot bankTab bankSlot count)
      (depositItemFields env s playerBag playerSlot bankTab bankSlot count) := by
  unfold depositAction depositItemFields
  generalize serverPos playerBag playerSlot = pos
  obtain ⟨bag, slot⟩ := pos
  by_cases range : bankTab = 0 ∨ bankTab > maxTabs.toUInt8 ∨ bankSlot > bankTabSize.toUInt8
  · rw [if_pos range, if_pos range]
    exact answers_send s _
  · rw [if_neg range, if_neg range]
    cases canAccessTab env s bankTab .depositItem with
    | false => exact answers_refuse s _
    | true =>
        dsimp only [Bool.not_true]
        cases getItemByPos s.player.bags bag slot with
        | none => exact answers_send s _
        | some r =>
            obtain ⟨j, pItem⟩ := r
            dsimp only
            cases isItemBankable pItem with
            | some notice => exact answers_refuse s _
            | none =>
                dsimp only
                by_cases much : count.toUInt32 > pItem.getMaxStackCount
                · rw [if_pos much, if_pos much]
                  exact answers_send s _
                · rw [if_neg much, if_neg much]
                  by_cases auto : bankSlot = 0
                  · rw [if_pos auto, if_pos auto]
                    rfl
                  · rw [if_neg auto, if_neg auto]
                    cases getItem s.bank bankTab.toUInt32 bankSlot.toUInt32 with
                    | none => rfl
                    | some d => exact depositOver_performs env s _ _ _ _ _ _ _

theorem withdrawOver_performs (env : Env) (s : Session)
    (bankTab bankSlot withdrawCount bag slot : UInt32) (i : Nat) (bItem : BankItem) (j : Nat)
    (pItem : Item) :
    s.Performs env (withdrawOverAction bankTab bankSlot withdrawCount bag slot i bItem j pItem)
      (withdrawOver env s bankTab bankSlot withdrawCount bag slot i bItem j pItem) := by
  unfold withdrawOverAction withdrawOver
  cases isItemBankable pItem with
  | some notice => exact answers_refuse s _
  | none =>
      dsimp only
      by_cases same : pItem.proto.itemId = bItem.itemTemplate ∧ bItem.maxStackSize > 1
      · rw [if_pos same, if_pos same]
        rfl
      · rw [if_neg same, if_neg same]
        rfl

theorem withdrawItemFields_performs (env : Env) (s : Session)
    (bankTab bankSlot playerBag playerSlot withdrawCount : UInt32) :
    s.Performs env (withdrawAction env s bankTab bankSlot playerBag playerSlot withdrawCount)
      (withdrawItemFields env s bankTab bankSlot playerBag playerSlot withdrawCount) := by
  unfold withdrawAction withdrawItemFields
  by_cases range : bankTab = 0 ∨ bankTab > maxTabs ∨ bankSlot = 0 ∨ bankSlot > bankTabSize
  · rw [if_pos range, if_pos range]
    exact answers_send s _
  · rw [if_neg range, if_neg range]
    cases canAccessTab env s bankTab.toUInt8 .withdrawItem with
    | false => exact answers_refuse s _
    | true =>
        cases getItem s.bank bankTab bankSlot with
        | none => exact answers_send s _
        | some r =>
            obtain ⟨i, bItem⟩ := r
            dsimp only [Bool.not_true]
            by_cases more : withdrawCount > bItem.count
            · rw [if_pos more, if_pos more]
              exact answers_send s _
            · rw [if_neg more, if_neg more]
              by_cases auto : playerBag = 0 ∧ playerSlot = 0
              · rw [if_pos auto, if_pos auto]
                by_cases whole : bItem.count = withdrawCount
                · rw [if_pos whole, if_pos whole]
                  rfl
                · rw [if_neg whole, if_neg whole]
                  exact answers_send s _
              · rw [if_neg auto, if_neg auto]
                change s.Performs env _
                  (match getItemByPos s.player.bags (withdrawBag playerBag).toUInt8
                      (withdrawSlot playerBag playerSlot).toUInt8 with
                  | some (j, pItem) =>
                      withdrawOver env s bankTab bankSlot withdrawCount (withdrawBag playerBag)
                        (withdrawSlot playerBag playerSlot) i bItem j pItem
                  | none =>
                      withdrawItemTo env s bankTab bankSlot withdrawCount (withdrawBag playerBag)
                        (withdrawSlot playerBag playerSlot) (some i) bItem none
                        (bItem.count - withdrawCount) false)
                cases getItemByPos s.player.bags (withdrawBag playerBag).toUInt8
                    (withdrawSlot playerBag playerSlot).toUInt8 with
                | none => rfl
                | some p => exact withdrawOver_performs env s _ _ _ _ _ _ _ _ _

theorem moveItemFields_performs (env : Env) (s : Session) (bankTab fromSlot toSlot : UInt8) :
    s.Performs env (moveAction env s bankTab fromSlot toSlot)
      (moveItemFields env s bankTab fromSlot toSlot) := by
  unfold moveAction moveItemFields
  split_ifs
  · exact answers_refuse s _
  · exact answers_send s _
  · exact answers_send s _
  · cases getItem s.bank bankTab.toUInt32 fromSlot.toUInt32 with
    | none => exact answers_send s _
    | some r => rfl

theorem splitItemFields_performs (env : Env) (s : Session)
    (bankTab fromSlot toSlot split : UInt8) :
    s.Performs env (splitAction env s bankTab fromSlot toSlot split)
      (splitItemFields env s bankTab fromSlot toSlot split) := by
  unfold splitAction splitItemFields
  split_ifs
  · exact answers_refuse s _
  · exact answers_send s _
  · exact answers_send s _
  · cases getItem s.bank bankTab.toUInt32 fromSlot.toUInt32 with
    | none => exact answers_refl s
    | some r =>
        cases getItem s.bank bankTab.toUInt32 toSlot.toUInt32 with
        | none => rfl
        | some d => rfl

def Handler.isItem : Handler → Bool
  | depositItem | withdrawItem | moveItem | splitItem => true
  | _ => false

theorem handle_performs {h : Handler} (item : h.isItem = true) (env : Env) (msg : CString)
    (s : Session) : s.Performs env (itemAction env msg s h) (handle env msg s h) := by
  cases h with
  | depositItem =>
      change s.Performs env (itemAction env msg s .depositItem) (depositItem env s msg)
      unfold itemAction depositItem
      generalize tokenizer msg ':' = tokens
      rcases tokens with _ | ⟨a, _ | ⟨b, _ | ⟨c, _ | ⟨d, _ | ⟨e, _ | ⟨f, _ | ⟨g, l⟩⟩⟩⟩⟩⟩⟩
      case cons.cons.cons.cons.cons.cons.nil =>
        exact depositItemFields_performs env s _ _ _ _ _
      all_goals exact answers_send s _
  | withdrawItem =>
      change s.Performs env (itemAction env msg s .withdrawItem) (withdrawItem env s msg)
      unfold itemAction withdrawItem
      generalize tokenizer msg ':' = tokens
      rcases tokens with _ | ⟨a, _ | ⟨b, _ | ⟨c, _ | ⟨d, _ | ⟨e, _ | ⟨f, _ | ⟨g, l⟩⟩⟩⟩⟩⟩⟩
      case cons.cons.cons.cons.cons.cons.nil =>
        exact withdrawItemFields_performs env s _ _ _ _ _
      all_goals exact answers_send s _
  | moveItem =>
      change s.Performs env (itemAction env msg s .moveItem) (moveItem env s msg)
      unfold itemAction moveItem
      generalize tokenizer msg ':' = tokens
      rcases tokens with _ | ⟨a, _ | ⟨b, _ | ⟨c, _ | ⟨d, _ | ⟨e, l⟩⟩⟩⟩⟩
      case cons.cons.cons.cons.nil => exact moveItemFields_performs env s _ _ _
      all_goals exact answers_send s _
  | splitItem =>
      change s.Performs env (itemAction env msg s .splitItem) (splitItem env s msg)
      unfold itemAction splitItem
      generalize tokenizer msg ':' = tokens
      rcases tokens with _ | ⟨a, _ | ⟨b, _ | ⟨c, _ | ⟨d, _ | ⟨e, _ | ⟨f, l⟩⟩⟩⟩⟩⟩
      case cons.cons.cons.cons.cons.nil => exact splitItemFields_performs env s _ _ _ _
      all_goals exact answers_send s _
  | unlockTab | unlockTabCost | getBankInfo | getTabItems | getTabWithdrawalsLeft | getTabLog
  | getMoneyLog | updateTab | depositMoney | withdrawMoney => cases item

theorem handle_quiet {h : Handler} (item : h.isItem = false) (tab : h ≠ .unlockTab) (env : Env)
    (msg : CString) (s : Session) : s.Quiet (handle env msg s h) := by
  cases h with
  | unlockTab => exact absurd rfl tab
  | unlockTabCost => exact (unlockTabCost_answers s msg).quiet
  | getBankInfo => exact ((answers_send s _).trans (answers_send _ _)).quiet
  | getTabItems => exact (sendTabItems_answers env s msg).quiet
  | getTabWithdrawalsLeft => exact (sendTabWithdrawalsLeftMsg_answers env s msg).quiet
  | getTabLog => exact (sendTabLog_answers s msg).quiet
  | getMoneyLog => exact (sendLines_answers s _ _).quiet
  | updateTab => exact updateTab_quiet s msg
  | depositMoney => exact depositMoney_quiet s msg
  | withdrawMoney => exact withdrawMoney_quiet env s msg
  | depositItem | withdrawItem | moveItem | splitItem => cases item

def OnTab (tab : UInt32) : Prop := 1 ≤ tab.toNat ∧ tab.toNat ≤ 5

def InTab (slot : UInt32) : Prop := 1 ≤ slot.toNat ∧ slot.toNat ≤ 98

def Session.Carries (s : Session) (j : Nat) (pItem : Item) : Prop :=
  getItemByPos s.player.bags pItem.bag pItem.slot = some (j, pItem)

def ItemAction.Valid (s : Session) : ItemAction → Prop
  | depositFree tab j pItem => OnTab tab ∧ s.Carries j pItem
  | depositNew tab slot j pItem count =>
      OnTab tab ∧ InTab slot ∧ s.Carries j pItem ∧ count.toNat ≤ 255 ∧
        count ≤ pItem.getMaxStackCount ∧ getItem s.bank tab slot = none
  | depositOnto tab slot j pItem count i dItem =>
      OnTab tab ∧ InTab slot ∧ s.Carries j pItem ∧
        getItem s.bank tab slot = some (i, dItem) ∧ dItem.itemTemplate = pItem.proto.itemId ∧
        (count.toNat ≤ 255 ∧ dItem.count + count ≤ dItem.maxStackSize ∨
          1 < dItem.maxStackSize.toNat ∧ count = dItem.maxStackSize - dItem.count)
  | withdraw tab slot count _ _ i bItem pItem remainer =>
      OnTab tab ∧ InTab slot ∧ getItem s.bank tab slot = some (i, bItem) ∧
        remainer = bItem.count - count ∧
        match pItem with
        | none => count ≤ bItem.count
        | some (j, pItem) =>
            s.Carries j pItem ∧ pItem.proto.itemId = bItem.itemTemplate ∧
              (count ≤ bItem.count ∨
                pItem.getMaxStackCount < pItem.count ∧ count = pItem.getMaxStackCount - pItem.count)
  | swap j pItem i bItem =>
      OnTab bItem.tab ∧ InTab bItem.slot ∧ s.Carries j pItem ∧
        getItem s.bank bItem.tab bItem.slot = some (i, bItem)
  | move tab fromSlot toSlot i sItem dest =>
      OnTab tab ∧ InTab fromSlot ∧ InTab toSlot ∧ fromSlot ≠ toSlot ∧
        getItem s.bank tab fromSlot = some (i, sItem) ∧ getItem s.bank tab toSlot = dest
  | splitEmpty tab fromSlot toSlot split i sItem =>
      OnTab tab ∧ InTab fromSlot ∧ InTab toSlot ∧ fromSlot ≠ toSlot ∧ split.toNat ≤ 255 ∧
        getItem s.bank tab fromSlot = some (i, sItem) ∧ getItem s.bank tab toSlot = none
  | splitStack tab fromSlot toSlot split i sItem k dItem =>
      OnTab tab ∧ InTab fromSlot ∧ InTab toSlot ∧ fromSlot ≠ toSlot ∧ split.toNat ≤ 255 ∧
        getItem s.bank tab fromSlot = some (i, sItem) ∧
        getItem s.bank tab toSlot = some (k, dItem)

theorem getItem_place {b : Bank} {tab slot : UInt32} {i : Nat} {x : BankItem}
    (h : getItem b tab slot = some (i, x)) : x.tab = tab ∧ x.slot = slot := by
  simpa [atSlot] using findRef_pred h

theorem carries_of_getItemByPos {s : Session} {bag slot : UInt8} {j : Nat} {pItem : Item}
    (h : getItemByPos s.player.bags bag slot = some (j, pItem)) : s.Carries j pItem := by
  obtain ⟨rfl, rfl⟩ := getItemByPos_pos h
  exact h

theorem onTab_of_range {tab : UInt8} (low : tab ≠ 0) (high : ¬ tab > maxTabs.toUInt8) :
    OnTab tab.toUInt32 := by
  unfold OnTab
  rw [UInt8.toNat_toUInt32]
  have := UInt8.le_iff_toNat_le.mp (UInt8.not_lt.mp high)
  have nonzero : tab.toNat ≠ 0 := fun zero => low (UInt8.toNat_inj.mp zero)
  change tab.toNat ≤ 5 at this
  omega

theorem inTab_of_range {slot : UInt8} (low : slot ≠ 0) (high : ¬ slot > bankTabSize.toUInt8) :
    InTab slot.toUInt32 := by
  unfold InTab
  rw [UInt8.toNat_toUInt32]
  have := UInt8.le_iff_toNat_le.mp (UInt8.not_lt.mp high)
  have nonzero : slot.toNat ≠ 0 := fun zero => low (UInt8.toNat_inj.mp zero)
  change slot.toNat ≤ 98 at this
  omega

theorem toNat_toUInt32_le (n : UInt8) : n.toUInt32.toNat ≤ 255 := by
  rw [UInt8.toNat_toUInt32]
  have := n.toNat_lt
  omega

theorem depositOverAction_valid {s : Session} {tab slot : UInt32} {j : Nat} {pItem : Item}
    {count : UInt32} {i : Nat} {dItem : BankItem} {a : ItemAction} (onTab : OnTab tab)
    (inTab : InTab slot) (carries : s.Carries j pItem) (small : count.toNat ≤ 255)
    (there : getItem s.bank tab slot = some (i, dItem))
    (h : depositOverAction tab slot j pItem count i dItem = some a) : a.Valid s := by
  unfold depositOverAction at h
  split_ifs at h with same merges fits full
  · cases h
    exact ⟨onTab, inTab, carries, there, merges.1, .inl ⟨small, fits⟩⟩
  · cases h
    refine ⟨onTab, inTab, there, by rw [full.2], carries, merges.1.symm, .inl ?_⟩
    rw [full.2]
    have below := UInt32.lt_iff_toNat_lt.mp full.1
    rw [full.2] at below
    rw [UInt32.le_iff_toNat_le, UInt32.toNat_sub_of_le _ _ (UInt32.le_iff_toNat_le.mpr below.le)]
    omega
  · cases h
    exact ⟨onTab, inTab, carries, there, merges.1,
      .inr ⟨UInt32.lt_iff_toNat_lt.mp merges.2, rfl⟩⟩
  · cases h
    obtain ⟨rfl, rfl⟩ := getItem_place there
    exact ⟨onTab, inTab, carries, there⟩

theorem depositAction_valid {env : Env} {s : Session}
    {playerBag playerSlot bankTab bankSlot count : UInt8} {a : ItemAction}
    (h : depositAction env s playerBag playerSlot bankTab bankSlot count = some a) :
    a.Valid s := by
  unfold depositAction at h
  by_cases range : bankTab = 0 ∨ bankTab > maxTabs.toUInt8 ∨ bankSlot > bankTabSize.toUInt8
  · rw [if_pos range] at h
    cases h
  rw [if_neg range] at h
  simp only [not_or] at range
  obtain ⟨tabLow, tabHigh, slotHigh⟩ := range
  have onTab := onTab_of_range tabLow tabHigh
  by_cases access : (!canAccessTab env s bankTab .depositItem) = true
  · rw [if_pos access] at h
    cases h
  rw [if_neg access] at h
  split at h
  · cases h
  rename_i j pItem found
  have carries := carries_of_getItemByPos found
  split at h
  · cases h
  by_cases much : count.toUInt32 > pItem.getMaxStackCount
  · rw [if_pos much] at h
    cases h
  rw [if_neg much] at h
  by_cases auto : bankSlot = 0
  · rw [if_pos auto] at h
    cases h
    exact ⟨onTab, carries⟩
  rw [if_neg auto] at h
  have inTab := inTab_of_range auto slotHigh
  split at h
  · rename_i i dItem there
    exact depositOverAction_valid onTab inTab carries (toNat_toUInt32_le count) there h
  · rename_i free
    cases h
    exact ⟨onTab, inTab, carries, toNat_toUInt32_le count, UInt32.not_lt.mp much, free⟩

theorem withdrawOntoCount_le {withdrawCount : UInt32} {pItem : Item} {n : UInt32}
    (le : withdrawCount ≤ n) :
    withdrawOntoCount withdrawCount pItem ≤ n ∨
      pItem.getMaxStackCount < pItem.count ∧
        withdrawOntoCount withdrawCount pItem = pItem.getMaxStackCount - pItem.count := by
  unfold withdrawOntoCount
  split_ifs with beyond
  · by_cases oversized : pItem.getMaxStackCount < pItem.count
    · exact .inr ⟨oversized, rfl⟩
    · left
      have fits := UInt32.not_lt.mp oversized
      have max : pItem.proto.getMaxStackSize = pItem.getMaxStackCount := rfl
      have wrap := UInt32.toNat_add withdrawCount pItem.count
      rw [UInt32.le_iff_toNat_le] at le fits
      rw [gt_iff_lt, UInt32.lt_iff_toNat_lt, wrap] at beyond
      rw [max, UInt32.le_iff_toNat_le,
        UInt32.toNat_sub_of_le _ _ (UInt32.le_iff_toNat_le.mpr fits)]
      have := Nat.mod_le (withdrawCount.toNat + pItem.count.toNat) (2 ^ 32)
      omega
  · exact .inl le

theorem withdrawOverAction_valid {s : Session}
    {bankTab bankSlot withdrawCount bag slot : UInt32} {i : Nat} {bItem : BankItem} {j : Nat}
    {pItem : Item} {a : ItemAction} (onTab : OnTab bankTab) (inTab : InTab bankSlot)
    (there : getItem s.bank bankTab bankSlot = some (i, bItem)) (carries : s.Carries j pItem)
    (le : withdrawCount ≤ bItem.count)
    (h : withdrawOverAction bankTab bankSlot withdrawCount bag slot i bItem j pItem = some a) :
    a.Valid s := by
  unfold withdrawOverAction at h
  split at h
  · cases h
  · split_ifs at h with same
    · cases h
      exact ⟨onTab, inTab, there, rfl, carries, same.1, withdrawOntoCount_le le⟩
    · cases h
      obtain ⟨rfl, rfl⟩ := getItem_place there
      exact ⟨onTab, inTab, carries, there⟩

theorem withdrawAction_valid {env : Env} {s : Session}
    {bankTab bankSlot playerBag playerSlot withdrawCount : UInt32} {a : ItemAction}
    (h : withdrawAction env s bankTab bankSlot playerBag playerSlot withdrawCount = some a) :
    a.Valid s := by
  unfold withdrawAction at h
  by_cases range : bankTab = 0 ∨ bankTab > maxTabs ∨ bankSlot = 0 ∨ bankSlot > bankTabSize
  · rw [if_pos range] at h
    cases h
  rw [if_neg range] at h
  simp only [not_or] at range
  obtain ⟨tabLow, tabHigh, slotLow, slotHigh⟩ := range
  have onTab : OnTab bankTab := by
    have nonzero : bankTab.toNat ≠ 0 := fun zero => tabLow (UInt32.toNat_inj.mp zero)
    have le : bankTab.toNat ≤ 5 := UInt32.le_iff_toNat_le.mp (UInt32.not_lt.mp tabHigh)
    exact ⟨by omega, le⟩
  have inTab : InTab bankSlot := by
    have nonzero : bankSlot.toNat ≠ 0 := fun zero => slotLow (UInt32.toNat_inj.mp zero)
    have le : bankSlot.toNat ≤ 98 := UInt32.le_iff_toNat_le.mp (UInt32.not_lt.mp slotHigh)
    exact ⟨by omega, le⟩
  by_cases access : (!canAccessTab env s bankTab.toUInt8 .withdrawItem) = true
  · rw [if_pos access] at h
    cases h
  rw [if_neg access] at h
  split at h
  · cases h
  rename_i i bItem there
  by_cases more : withdrawCount > bItem.count
  · rw [if_pos more] at h
    cases h
  rw [if_neg more] at h
  by_cases auto : playerBag = 0 ∧ playerSlot = 0
  · rw [if_pos auto] at h
    split_ifs at h with whole
    cases h
    exact ⟨onTab, inTab, there, by simp, UInt32.le_refl _⟩
  rw [if_neg auto] at h
  split at h
  · rename_i j pItem found
    exact withdrawOverAction_valid onTab inTab there (carries_of_getItemByPos found)
      (UInt32.not_lt.mp more) h
  · cases h
    exact ⟨onTab, inTab, there, rfl, UInt32.not_lt.mp more⟩

theorem slots_of_range {bankTab fromSlot toSlot : UInt8} (differ : fromSlot ≠ toSlot)
    (range : ¬ slotsOutOfRange bankTab fromSlot toSlot = true) :
    OnTab bankTab.toUInt32 ∧ InTab fromSlot.toUInt32 ∧ InTab toSlot.toUInt32 ∧
      fromSlot.toUInt32 ≠ toSlot.toUInt32 := by
  simp only [slotsOutOfRange, Bool.or_eq_true, not_or, beq_iff_eq, decide_eq_true_eq] at range
  obtain ⟨⟨⟨⟨⟨tabLow, tabHigh⟩, fromLow⟩, fromHigh⟩, toLow⟩, toHigh⟩ := range
  refine ⟨onTab_of_range tabLow tabHigh, inTab_of_range fromLow fromHigh,
    inTab_of_range toLow toHigh, fun same => differ ?_⟩
  rw [← UInt32.toNat_inj, UInt8.toNat_toUInt32, UInt8.toNat_toUInt32] at same
  exact UInt8.toNat_inj.mp same

theorem moveAction_valid {env : Env} {s : Session} {bankTab fromSlot toSlot : UInt8}
    {a : ItemAction} (h : moveAction env s bankTab fromSlot toSlot = some a) : a.Valid s := by
  unfold moveAction at h
  split_ifs at h with access differ range
  obtain ⟨onTab, fromIn, toIn, ne⟩ := slots_of_range differ range
  obtain ⟨⟨i, sItem⟩, there, rfl⟩ := Option.map_eq_some_iff.mp h
  exact ⟨onTab, fromIn, toIn, ne, there, rfl⟩

theorem splitAction_valid {env : Env} {s : Session} {bankTab fromSlot toSlot split : UInt8}
    {a : ItemAction} (h : splitAction env s bankTab fromSlot toSlot split = some a) :
    a.Valid s := by
  unfold splitAction at h
  split_ifs at h with access differ range
  obtain ⟨onTab, fromIn, toIn, ne⟩ := slots_of_range differ range
  obtain ⟨⟨i, sItem⟩, there, made⟩ := Option.map_eq_some_iff.mp h
  split at made
  · rename_i free
    subst made
    exact ⟨onTab, fromIn, toIn, ne, toNat_toUInt32_le split, there, free⟩
  · rename_i k dItem dest
    subst made
    exact ⟨onTab, fromIn, toIn, ne, toNat_toUInt32_le split, there, dest⟩

theorem getItem_get {b : Bank} {tab slot : UInt32} {i : Nat} {x : BankItem}
    (h : getItem b tab slot = some (i, x)) : b.bItems[i]? = some x := findRef_get h

theorem inTab_of_mem_tabSlots {slot : UInt32} (h : slot ∈ tabSlots) : InTab slot := by
  obtain ⟨n, mem, rfl⟩ := List.mem_map.mp h
  rw [List.mem_range'_1] at mem
  have value : (UInt32.ofNat n).toNat = n := UInt32.toNat_ofNat_of_lt' (by
    change n < 4294967296
    omega)
  rw [InTab, value]
  omega

theorem openStack_eq_some {b : Bank} {tab itemId slot : UInt32} {dItem : BankItem}
    (h : openStack b tab itemId = some (slot, dItem)) :
    InTab slot ∧ dItem.itemTemplate = itemId ∧ dItem.count < dItem.maxStackSize ∧
      ∃ i, getItem b tab slot = some (i, dItem) := by
  obtain ⟨slot', mem, hit⟩ := List.exists_of_findSome?_eq_some h
  split at hit
  · rename_i i bItem there
    split_ifs at hit with fits
    cases hit
    exact ⟨inTab_of_mem_tabSlots mem, fits.1, fits.2, i, there⟩
  · cases hit

theorem freeSlot_eq_some {b : Bank} {tab slot : UInt32} (h : freeSlot b tab = some slot) :
    InTab slot ∧ getItem b tab slot = none :=
  ⟨inTab_of_mem_tabSlots (List.mem_of_find?_eq_some h), by simpa using List.find?_some h⟩

/-- One round of `DepositItemInFreeSlot`: it tops up an open stack, whole or in part, or
opens a slot, or finds the tab full. -/
theorem depositItemInFreeSlot_cases {env : Env} {fuel : Nat} {tab : UInt32} {j : Nat}
    {s : Session} {pItem : Item} (carries : s.player.bags[j]? = some pItem) :
    let deposit := depositItemInSlot env (depositItemInFreeSlot env fuel tab j) s tab
    let s' := depositItemInFreeSlot env (fuel + 1) tab j s
    (∃ slot i dItem, InTab slot ∧ getItem s.bank tab slot = some (i, dItem) ∧
      dItem.itemTemplate = pItem.proto.itemId ∧ dItem.count < dItem.maxStackSize ∧
      (pItem.count + dItem.count ≤ dItem.maxStackSize ∧
          s' = deposit slot j pItem pItem.count 0 .itemChanged true ∨
        ¬ pItem.count + dItem.count ≤ dItem.maxStackSize ∧
          s' = deposit slot j pItem (dItem.maxStackSize - dItem.count)
            (pItem.count - (dItem.maxStackSize - dItem.count)) .itemChanged true)) ∨
    (∃ slot, InTab slot ∧ getItem s.bank tab slot = none ∧
      s' = deposit slot j pItem pItem.count 0 .itemNew false) ∨
    s.Answers s' := by
  intro deposit s'
  have unfolded : s' = depositItemInFreeSlot env (fuel + 1) tab j s := rfl
  simp only [depositItemInFreeSlot, carries] at unfolded
  cases target : (if pItem.proto.getMaxStackSize > 1 then
      openStack s.bank tab pItem.proto.itemId else none) with
  | some r =>
      obtain ⟨slot, dItem⟩ := r
      rw [target] at unfolded
      dsimp only at unfolded
      split_ifs at target
      obtain ⟨inTab, entry, isOpen, i, there⟩ := openStack_eq_some target
      refine .inl ⟨slot, i, dItem, inTab, there, entry, isOpen, ?_⟩
      by_cases fits : pItem.count + dItem.count ≤ dItem.maxStackSize
      · rw [if_pos fits] at unfolded
        exact .inl ⟨fits, unfolded⟩
      · rw [if_neg fits] at unfolded
        exact .inr ⟨fits, unfolded⟩
  | none =>
      rw [target] at unfolded
      cases free : freeSlot s.bank tab with
      | some slot =>
          rw [free] at unfolded
          obtain ⟨inTab, empty⟩ := freeSlot_eq_some free
          exact .inr (.inl ⟨slot, inTab, empty, unfolded⟩)
      | none =>
          rw [free] at unfolded
          rw [unfolded]
          exact .inr (.inr ((answers_send s _).trans (answers_send _ _)))

theorem getItem_writeItem {s : Session} {tab slot : UInt32} {i : Nat} {x y : BankItem}
    (there : getItem s.bank tab slot = some (i, x)) (atTab : y.tab = x.tab)
    (atSlot' : y.slot = x.slot) (slot' : UInt32) :
    getItem (writeItem s (some i) y).bank tab slot' =
      if slot' = slot then some (i, y) else getItem s.bank tab slot' := by
  obtain ⟨rfl, rfl⟩ := getItem_place there
  by_cases same : slot' = x.slot
  · subst same
    rw [if_pos rfl]
    exact findRef_set there (by simp [atSlot, atTab, atSlot'])
  · rw [if_neg same]
    have ne : ¬ x.slot = slot' := fun h => same h.symm
    exact findRef_set_other (getItem_get there) (by simp [atSlot, ne])
      (by simp [atSlot, atSlot', ne])

/-- How often the search can still come back to a slot: a slot filled to a limit that is
below the template's is found open once more. -/
def stackRounds (proto : ItemPrototype) (found : Option (Nat × BankItem)) : Nat :=
  match found with
  | some (_, dItem) =>
      if dItem.itemTemplate = proto.itemId ∧ dItem.count < dItem.maxStackSize then
        if dItem.maxStackSize = proto.getMaxStackSize then 1 else 2
      else 0
  | none => 0

def rounds (b : Bank) (tab : UInt32) (proto : ItemPrototype) : Nat :=
  (tabSlots.map fun slot => stackRounds proto (getItem b tab slot)).sum

theorem rounds_lt_freeSlotFuel (b : Bank) (tab : UInt32) (proto : ItemPrototype) :
    rounds b tab proto < freeSlotFuel := by
  have each : ∀ n ∈ tabSlots.map fun slot => stackRounds proto (getItem b tab slot), n ≤ 2 := by
    intro n mem
    obtain ⟨slot, -, rfl⟩ := List.mem_map.mp mem
    unfold stackRounds
    split
    · split_ifs <;> decide
    · decide
  have total := List.sum_le_card_nsmul _ 2 each
  have length : (tabSlots.map fun slot => stackRounds proto (getItem b tab slot)).length = 98 := by
    rw [List.length_map, tabSlots, List.length_map, List.length_range']
  rw [length] at total
  unfold rounds freeSlotFuel
  simp only [smul_eq_mul] at total
  omega

theorem nodup_tabSlots : tabSlots.Nodup := by decide +kernel

theorem mem_tabSlots {slot : UInt32} (h : InTab slot) : slot ∈ tabSlots := by
  refine List.mem_map.mpr ⟨slot.toNat, ?_, UInt32.ofNat_toNat⟩
  rw [List.mem_range'_1]
  obtain ⟨low, high⟩ := h
  omega

theorem depositItemInSlot_once (env : Env) (again again' : Session → Session) (s : Session)
    (tab slot : UInt32) (j : Nat) (pItem : Item) (count : UInt32) (state : ItemUpdateState)
    (stack : Bool) :
    depositItemInSlot env again s tab slot j pItem count 0 state stack =
      depositItemInSlot env again' s tab slot j pItem count 0 state stack := by
  unfold depositItemInSlot payBag
  rfl

theorem rounds_topUp {env : Env} {s : Session} {tab slot : UInt32} {i : Nat}
    {dItem : BankItem} {pItem : Item} (there : getItem s.bank tab slot = some (i, dItem))
    (mem : slot ∈ tabSlots) (same : dItem.itemTemplate = pItem.proto.itemId)
    (isOpen : dItem.count < dItem.maxStackSize) :
    let x := restackedItem env s.bank dItem pItem (dItem.maxStackSize - dItem.count) true
    rounds (writeItem s (some i) x).bank tab pItem.proto <
      rounds s.bank tab pItem.proto := by
  intro x
  have filled : x.count = dItem.maxStackSize := by
    change dItem.count + (dItem.maxStackSize - dItem.count) = _
    rw [UInt32.add_comm, UInt32.sub_add_cancel]
  have limit : x.maxStackSize = pItem.proto.getMaxStackSize := rfl
  have entry : x.itemTemplate = pItem.proto.itemId := rfl
  have after := getItem_writeItem there (y := x) rfl rfl
  have less :
    stackRounds pItem.proto (some (i, x)) < stackRounds pItem.proto (some (i, dItem)) := by
    unfold stackRounds
    dsimp only
    rw [if_pos (⟨same, isOpen⟩ : _ ∧ _), entry, filled, limit]
    by_cases limits : dItem.maxStackSize = pItem.proto.getMaxStackSize
    · rw [if_pos limits, limits, if_neg (fun h => UInt32.lt_irrefl _ h.2)]
      decide
    · rw [if_neg limits, if_pos rfl]
      split_ifs <;> decide
  unfold rounds
  simp only [after]
  obtain ⟨before, behind, split⟩ := List.append_of_mem mem
  have nodup := nodup_tabSlots
  rw [split] at nodup ⊢
  obtain ⟨-, tail, apart⟩ := List.nodup_append.mp nodup
  have hb : ∀ a ∈ before, a ≠ slot := fun a h => apart a h slot (by simp)
  have ha : ∀ a ∈ behind, a ≠ slot := fun a h e => (List.nodup_cons.mp tail).1 (e ▸ h)
  have kept : ∀ l : List UInt32, (∀ a ∈ l, a ≠ slot) →
      (l.map fun slot' => stackRounds pItem.proto
        (if slot' = slot then some (i, x) else getItem s.bank tab slot')) =
      l.map fun slot' => stackRounds pItem.proto (getItem s.bank tab slot') := by
    intro l differ
    apply List.map_congr_left
    intro a mem
    rw [if_neg (differ a mem)]
  simp only [List.map_append, List.map_cons, List.sum_append, List.sum_cons, if_true, kept _ hb,
    kept _ ha, there]
  omega

/-- More fuel than rounds left changes nothing: the recursion of the source has returned. -/
theorem depositItemInFreeSlot_stable {env : Env} {tab : UInt32} {j : Nat} (fuel : Nat)
    {s : Session} {pItem : Item} (carries : s.player.bags[j]? = some pItem)
    (enough : rounds s.bank tab pItem.proto < fuel) :
    depositItemInFreeSlot env (fuel + 1) tab j s = depositItemInFreeSlot env fuel tab j s := by
  induction fuel generalizing s pItem with
  | zero => omega
  | succ fuel ih =>
      rw [depositItemInFreeSlot, depositItemInFreeSlot, carries]
      dsimp only
      cases target : (if pItem.proto.getMaxStackSize > 1 then
          openStack s.bank tab pItem.proto.itemId else none) with
      | none =>
          dsimp only
          cases freeSlot s.bank tab with
          | none => rfl
          | some slot => exact depositItemInSlot_once env _ _ s tab slot j pItem _ _ _
      | some r =>
          obtain ⟨slot, dItem⟩ := r
          dsimp only
          split_ifs at target
          obtain ⟨inTab, same, isOpen, i, there⟩ := openStack_eq_some target
          split_ifs
          · exact depositItemInSlot_once env _ _ s tab slot j pItem _ _ _
          · rw [depositItemInSlot_changed there, depositItemInSlot_changed there]
            unfold payBag
            split_ifs
            · rfl
            · rfl
            · have fewer := @rounds_topUp env _ _ _ _ _ _ there (mem_tabSlots inTab) same isOpen
              have left := (List.getElem?_eq_some_iff.mp carries).1
              rw [@ih _ { pItem with
                count := pItem.count - (dItem.maxStackSize - dItem.count) }]
              · simp [payDeposit, setCount, setBags, pushUpdate, writeItem, modifyBank, left]
              · exact Nat.lt_of_lt_of_le fewer (Nat.le_of_lt_succ enough)

/-- The automatic deposit of the model is the one of the source, whose recursion needs no
more than `freeSlotFuel` rounds. -/
theorem depositItemInFreeSlot_fuel (env : Env) (tab : UInt32) (j : Nat) (s : Session)
    (more : Nat) : depositItemInFreeSlot env (freeSlotFuel + more) tab j s =
      depositItemInFreeSlot env freeSlotFuel tab j s := by
  cases carries : s.player.bags[j]? with
  | none =>
      have nothing : ∀ fuel, depositItemInFreeSlot env fuel tab j s = s := fun fuel => by
        cases fuel with
        | zero => rfl
        | succ fuel => simp only [depositItemInFreeSlot, carries]
      rw [nothing, nothing]
  | some pItem =>
      induction more with
      | zero => rfl
      | succ more ih =>
          rw [← Nat.add_assoc, depositItemInFreeSlot_stable _ carries, ih]
          exact Nat.lt_of_lt_of_le (rounds_lt_freeSlotFuel s.bank tab pItem.proto)
            (Nat.le_add_right _ _)

theorem itemAction_valid {env : Env} {msg : CString} {s : Session} {h : Handler}
    {a : ItemAction} (act : itemAction env msg s h = some a) : a.Valid s := by
  unfold itemAction at act
  split at act
  · exact depositAction_valid act
  · exact withdrawAction_valid act
  · exact moveAction_valid act
  · exact splitAction_valid act
  · cases act

end TortoiseWow.GuildBank
