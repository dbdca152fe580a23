import TortoiseWow.GuildBank.BankCommands
import TortoiseWow.Lib.Run
import TortoiseWow.Player.Backpack

/-!
`HandleAddonMessages` and the runs of a guild's two banks. After the checks, every
handler whose keyword occurs anywhere in the message runs, in the order of the
source; `DestroyItem` is compiled out by `DESTROY_ITEM_ALLOWED`.

A world holds the normal and the inferno bank of one guild, the players, and the
tables they share. Between messages anything may happen to a player.
-/

namespace TortoiseWow.GuildBank

open Lib

inductive Handler where
  | unlockTab
  | unlockTabCost
  | getBankInfo
  | getTabItems
  | getTabWithdrawalsLeft
  | getTabLog
  | getMoneyLog
  | depositItem
  | withdrawItem
  | moveItem
  | splitItem
  | updateTab
  | depositMoney
  | withdrawMoney
  deriving DecidableEq

def Handler.keyword : Handler → CString
  | unlockTab => "UnlockTab:".toList
  | unlockTabCost => "UnlockTabCost:".toList
  | getBankInfo => "GetBankInfo:".toList
  | getTabItems => "GetTabItems:".toList
  | getTabWithdrawalsLeft => "GetTabWithdrawalsLeft:".toList
  | getTabLog => "GetTabLog:".toList
  | getMoneyLog => "GetMoneyLog:".toList
  | depositItem => "DepositItem:".toList
  | withdrawItem => "WithdrawItem:".toList
  | moveItem => "MoveItem:".toList
  | splitItem => "SplitItem:".toList
  | updateTab => "UpdateTab:".toList
  | depositMoney => "DepositMoney:".toList
  | withdrawMoney => "WithdrawMoney:".toList

/-- The order of the tests in `HandleAddonMessages`. -/
def allHandlers : List Handler :=
  [.unlockTab, .unlockTabCost, .getBankInfo, .getTabItems, .getTabWithdrawalsLeft, .getTabLog,
   .getMoneyLog, .depositItem, .withdrawItem, .moveItem, .splitItem, .updateTab, .depositMoney,
   .withdrawMoney]

def handlers (msg : CString) : List Handler :=
  allHandlers.filter fun h => strstr (cstr msg) h.keyword

def handle (env : Env) (msg : CString) (s : Session) : Handler → Session
  | .unlockTab => unlockTab s msg
  | .unlockTabCost => unlockTabCost s msg
  | .getBankInfo => sendBankInfo s
  | .getTabItems => sendTabItems env s msg
  | .getTabWithdrawalsLeft => sendTabWithdrawalsLeftMsg env s msg
  | .getTabLog => sendTabLog s msg
  | .getMoneyLog => sendMoneyLog s
  | .depositItem => depositItem env s msg
  | .withdrawItem => withdrawItem env s msg
  | .moveItem => moveItem env s msg
  | .splitItem => splitItem env s msg
  | .updateTab => updateTab s msg
  | .depositMoney => depositMoney s msg
  | .withdrawMoney => withdrawMoney env s msg

def handleAddonMessages (env : Env) (canUseGuildBank : Bool) (msg : CString) (s : Session) :
    Session :=
  if !canUseGuildBank then s
  else if s.bank.bSaveLock then sendAddonMessage s "ActionBlockedBySaveLock"
  else if strstr (cstr msg) "UnlockGuildBank:".toList then unlockGuildBank env s msg
  else if s.bank.bTabs = 0 then sendAddonMessage s "BankInfo:NoGuildBank"
  else run (handle env msg) s (handlers msg)

/-- The message gets past the checks to the keyword tests. -/
def dispatches (canUseGuildBank : Bool) (msg : CString) (s : Session) : Bool :=
  canUseGuildBank && !s.bank.bSaveLock && !strstr (cstr msg) "UnlockGuildBank:".toList &&
    s.bank.bTabs != 0

def unlocks (canUseGuildBank : Bool) (msg : CString) (s : Session) : Bool :=
  canUseGuildBank && !s.bank.bSaveLock && strstr (cstr msg) "UnlockGuildBank:".toList

theorem handleAddonMessages_cases (env : Env) (canUse : Bool) (msg : CString) (s : Session) :
    dispatches canUse msg s = true ∧ unlocks canUse msg s = false ∧
        handleAddonMessages env canUse msg s = run (handle env msg) s (handlers msg) ∨
      unlocks canUse msg s = true ∧ dispatches canUse msg s = false ∧
        handleAddonMessages env canUse msg s = unlockGuildBank env s msg ∨
      unlocks canUse msg s = false ∧ dispatches canUse msg s = false ∧
        (handleAddonMessages env canUse msg s = s ∨
          ∃ p, handleAddonMessages env canUse msg s = send s p) := by
  unfold handleAddonMessages dispatches unlocks
  cases canUse with
  | false => exact .inr (.inr ⟨rfl, rfl, .inl rfl⟩)
  | true =>
      cases lock : s.bank.bSaveLock with
      | true => exact .inr (.inr ⟨rfl, rfl, .inr ⟨_, rfl⟩⟩)
      | false =>
          cases key : strstr (cstr msg) "UnlockGuildBank:".toList with
          | true => exact .inr (.inl ⟨rfl, rfl, rfl⟩)
          | false =>
              by_cases tabs : s.bank.bTabs = 0
              · exact .inr (.inr ⟨rfl, by simp [tabs], .inr ⟨_, by simp [tabs]; rfl⟩⟩)
              · exact .inl ⟨by simp [tabs], rfl, by simp [tabs]⟩

structure World where
  bank : Bool → Bank
  players : UInt32 → Player
  db : CharacterDatabase
  granted : List Grant := []

inductive Event where
  | message (guid : UInt32) (time : Int) (ranksSize : UInt32) (canUseGuildBank : Bool)
      (msg : CString)
  | save (inferno : Bool)
  | rankDeleted (inferno : Bool) (rank : UInt32)
  | playerChanged (guid : UInt32) (player : Player)

def World.session (w : World) (guid : UInt32) (time : Int) (ranksSize : UInt32) : Session :=
  { bank := w.bank (w.players guid).isHC60
    player := w.players guid
    db := w.db
    time := time
    ranksSize := ranksSize
    granted := w.granted }

def World.close (w : World) (guid : UInt32) (s : Session) : World :=
  { bank := fun i => if i = (w.players guid).isHC60 then s.bank else w.bank i
    players := fun g => if g = guid then s.player else w.players g
    db := s.db
    granted := s.granted }

def step (env : Env) (w : World) : Event → World
  | .message guid time ranksSize canUse msg =>
      w.close guid (handleAddonMessages env canUse msg (w.session guid time ranksSize))
  | .save inferno =>
      { w with
        bank := fun i => if i = inferno then (saveBank (w.bank i) w.db).1 else w.bank i
        db := (saveBank (w.bank inferno) w.db).2 }
  | .rankDeleted inferno rank =>
      { w with
        bank := fun i => if i = inferno then updateMinranks (w.bank i) rank else w.bank i }
  | .playerChanged guid player =>
      { w with players := fun g => if g = guid then player else w.players g }

/-- Templates below 1000 stack to twenty, the others do not stack. -/
def plainProto (entry : UInt32) : ItemPrototype :=
  { itemId := entry, stackable := if entry < 1000 then 20 else 1 }

/-- A realm on Greenwich time whose characters carry a backpack. -/
def plainEnv : Env where
  storage := backpack plainProto fun _ => rfl
  getItemPrototype entry := some (plainProto entry)
  nameSuffix _ := ""
  generateItemRandomPropertyId _ := 0
  playerName _ := none
  localtime now :=
    { tmWday := (now / 86400 + 4) % 7, tmHour := now / 3600 % 24, tmMin := now / 60 % 60,
      tmSec := now % 60 }

/-- `P` holds of every handler a message runs, in the state in which it runs. -/
def World.EachHandler (env : Env) (P : CString → Session → Handler → Prop) (w : World) :
    Event → Prop
  | .message guid time ranksSize canUse msg =>
      dispatches canUse msg (w.session guid time ranksSize) = true →
        Along (handle env msg) (P msg) (w.session guid time ranksSize) (handlers msg)
  | _ => True

theorem eachHandler_congr {env : Env} {P Q : CString → Session → Handler → Prop}
    (h : ∀ msg s hd, P msg s hd ↔ Q msg s hd) (w : World) (e : Event) :
    w.EachHandler env P e ↔ w.EachHandler env Q e := by
  cases e with
  | message guid time ranksSize canUse msg =>
      exact imp_congr_right fun _ => along_congr (h msg) _ _
  | save _ => exact Iff.rfl
  | rankDeleted _ _ => exact Iff.rfl
  | playerChanged _ _ => exact Iff.rfl

end TortoiseWow.GuildBank
