import TortoiseWow.GuildBank.Frame
import TortoiseWow.Lib.Fields

/-!
One message, one command: which messages run a command that the text before their first
colon does not name. A handler is called when a field of the message that a colon ends
ends with the name of the handler.
-/

namespace TortoiseWow.GuildBank

open Lib

inductive Command where
  | unlockGuildBank
  | handler (h : Handler)
  deriving DecidableEq

def Command.keyword : Command → CString
  | unlockGuildBank => "UnlockGuildBank:".toList
  | handler h => h.keyword

def Command.name (c : Command) : CString := c.keyword.dropLast

/-- The handlers that do more than answer. -/
def Command.changesState : Command → Bool
  | unlockGuildBank => true
  | handler .unlockTab => true
  | handler .depositItem => true
  | handler .withdrawItem => true
  | handler .moveItem => true
  | handler .splitItem => true
  | handler .updateTab => true
  | handler .depositMoney => true
  | handler .withdrawMoney => true
  | handler _ => false

def executeCommand (env : Env) (msg : CString) (s : Session) : Command → Session
  | .unlockGuildBank => unlockGuildBank env s msg
  | .handler h => handle env msg s h

def calledCommands (canUseGuildBank : Bool) (msg : CString) (s : Session) : List Command :=
  if unlocks canUseGuildBank msg s then [.unlockGuildBank]
  else if dispatches canUseGuildBank msg s then (handlers msg).map .handler
  else []

/-- The fields of a message that a colon ends. -/
def msgFields (msg : CString) : List CString := closedFields ':' (cstr msg)

/-- What a message for the guild bank begins with. -/
def addonPrefix : CString := "TW_GUILDBANK\t".toList

/-- The text before the first colon, after the prefix if there is one. -/
def commandOf (msg : CString) : Option CString :=
  (msgFields msg).head?.map fun field => (field.dropPrefix? addonPrefix).getD field

variable (env : Env) (canUse : Bool) (msg : CString) (s : Session)

/-- Of the commands that change something only the one the message names is called, and
the message does what one execution of this command does, or only answers. -/
structure OneCommand : Prop where
  named : ∀ c ∈ calledCommands canUse msg s, c.changesState = true → commandOf msg = some c.name
  once : s.Answers (handleAddonMessages env canUse msg s) ∨
    ∃ c t, c.changesState = true ∧ commandOf msg = some c.name ∧ s.Answers t ∧
      (executeCommand env msg t c).Answers (handleAddonMessages env canUse msg s)

def Unambiguous (c : Command) : Prop :=
  ∀ field ∈ msgFields msg, c.name <:+ field → commandOf msg = some c.name

theorem name_plain (c : Command) : ':' ∉ c.name := by
  cases c with
  | unlockGuildBank => decide
  | handler h => cases h <;> decide

theorem keyword_eq (c : Command) : c.keyword = c.name ++ [':'] := by
  cases c with
  | unlockGuildBank => decide
  | handler h => cases h <;> decide

def allCommands : List Command := .unlockGuildBank :: allHandlers.map .handler

theorem mem_allHandlers (h : Handler) : h ∈ allHandlers := by
  cases h <;> decide

theorem mem_allCommands (c : Command) : c ∈ allCommands := by
  cases c with
  | unlockGuildBank => exact List.mem_cons_self
  | handler h => exact List.mem_cons_of_mem _ (List.mem_map_of_mem (mem_allHandlers h))

theorem name_injective {c d : Command} (same : c.name = d.name) : c = d := by
  have distinct : (allCommands.map Command.keyword).Nodup := by decide
  have keys : c.keyword = d.keyword := by rw [keyword_eq, keyword_eq, same]
  exact List.inj_on_of_nodup_map distinct (mem_allCommands c) (mem_allCommands d) keys

theorem strstr_keyword_iff (c : Command) :
    strstr (cstr msg) c.keyword = true ↔ ∃ field ∈ msgFields msg, c.name <:+ field := by
  rw [keyword_eq]
  exact strstr_iff_field (name_plain c) (cstr msg)

theorem mem_handlers_iff (h : Handler) :
    h ∈ handlers msg ↔ ∃ field ∈ msgFields msg, (Command.handler h).name <:+ field := by
  rw [handlers, List.mem_filter, and_iff_right (mem_allHandlers h)]
  exact strstr_keyword_iff msg (.handler h)

theorem execute_answers {c : Command} (quiet : c.changesState = false) :
    s.Answers (executeCommand env msg s c) := by
  cases c with
  | unlockGuildBank => cases quiet
  | handler h =>
      cases h with
      | unlockTabCost => exact unlockTabCost_answers s msg
      | getBankInfo => exact (answers_send s _).trans (answers_send _ _)
      | getTabItems => exact sendTabItems_answers env s msg
      | getTabWithdrawalsLeft => exact sendTabWithdrawalsLeftMsg_answers env s msg
      | getTabLog => exact sendTabLog_answers s msg
      | getMoneyLog => exact sendLines_answers s _ _
      | _ => cases quiet

theorem run_answers {cs : List Command} (quiet : ∀ c ∈ cs, c.changesState = false) (s : Session) :
    s.Answers (run (executeCommand env msg) s cs) := by
  induction cs generalizing s with
  | nil => exact answers_refl s
  | cons c rest ih =>
      have first := execute_answers env msg s (quiet c List.mem_cons_self)
      exact first.trans (ih (fun d later => quiet d (List.mem_cons_of_mem _ later)) _)

theorem run_once {cs : List Command} (distinct : cs.Nodup)
    (named : ∀ c ∈ cs, c.changesState = true → commandOf msg = some c.name)
    {t : Session} (before : s.Answers t) :
    s.Answers (run (executeCommand env msg) t cs) ∨
      ∃ c t', c.changesState = true ∧ commandOf msg = some c.name ∧ s.Answers t' ∧
        (executeCommand env msg t' c).Answers (run (executeCommand env msg) t cs) := by
  induction cs generalizing t with
  | nil => exact .inl before
  | cons c rest ih =>
      obtain ⟨new, distinct⟩ := List.nodup_cons.mp distinct
      have later : ∀ d ∈ rest, d.changesState = true → commandOf msg = some d.name :=
        fun d inside => named d (List.mem_cons_of_mem _ inside)
      cases changes : c.changesState with
      | false => exact ih distinct later (before.trans (execute_answers env msg t changes))
      | true =>
          have ours := named c List.mem_cons_self changes
          have quiet : ∀ d ∈ rest, d.changesState = false := by
            intro d inside
            refine Bool.eq_false_iff.mpr fun alters => new ?_
            have same := name_injective (Option.some.inj (ours.symm.trans (later d inside alters)))
            rw [same]
            exact inside
          exact .inr ⟨c, t, changes, ours, before, run_answers env msg quiet _⟩

theorem run_handlers (hs : List Handler) :
    run (executeCommand env msg) s (hs.map .handler) = run (handle env msg) s hs := by
  induction hs generalizing s with
  | nil => rfl
  | cons h rest ih => exact ih (handle env msg s h)

theorem handleAddonMessages_called :
    (run (executeCommand env msg) s (calledCommands canUse msg s)).Answers
      (handleAddonMessages env canUse msg s) := by
  obtain ⟨dispatched, unlocked, eq⟩ | ⟨unlocked, -, eq⟩ | ⟨unlocked, dispatched, eq⟩ :=
    handleAddonMessages_cases env canUse msg s
  · rw [calledCommands, unlocked, dispatched, eq]
    simp only [Bool.false_eq_true, if_false, if_true, run_handlers]
    exact answers_refl _
  · rw [calledCommands, unlocked, eq]
    exact answers_refl _
  · rw [calledCommands, unlocked, dispatched]
    obtain same | ⟨p, sent⟩ := eq
    · rw [same]
      exact answers_refl _
    · rw [sent]
      exact answers_send _ _

theorem calledCommands_nodup : (calledCommands canUse msg s).Nodup := by
  have all : allHandlers.Nodup := by decide
  unfold calledCommands
  split
  · exact List.nodup_singleton _
  split
  · exact (all.filter _).map fun h h' same => Command.handler.inj same
  · exact List.nodup_nil

def listens : Prop := canUse = true ∧ s.bank.bSaveLock = false

def mentions (c : Command) : Prop := ∃ field ∈ msgFields msg, c.name <:+ field

theorem mem_calledCommands (c : Command) :
    c ∈ calledCommands canUse msg s ↔
      listens canUse s ∧ mentions msg c ∧
        (c = .unlockGuildBank ∨ s.bank.bTabs ≠ 0 ∧ ¬ mentions msg .unlockGuildBank) := by
  have key : strstr (cstr msg) "UnlockGuildBank:".toList = true ↔ mentions msg .unlockGuildBank :=
    strstr_keyword_iff msg .unlockGuildBank
  cases canUse with
  | false => simp [calledCommands, unlocks, dispatches, listens]
  | true =>
      cases lock : s.bank.bSaveLock with
      | true => simp [calledCommands, unlocks, dispatches, listens, lock]
      | false =>
          cases mentioned : strstr (cstr msg) "UnlockGuildBank:".toList with
          | true =>
              have called : calledCommands true msg s = [.unlockGuildBank] := by
                simp only [calledCommands, unlocks, lock, mentioned]
                rfl
              rw [called, List.mem_singleton]
              constructor
              · rintro rfl
                exact ⟨⟨rfl, lock⟩, key.mp mentioned, .inl rfl⟩
              · rintro ⟨-, -, same | ⟨-, missing⟩⟩
                · exact same
                · exact absurd (key.mp mentioned) missing
          | false =>
              have missing : ¬ mentions msg .unlockGuildBank := by
                rw [← key, mentioned]
                exact Bool.false_ne_true
              by_cases tabs : s.bank.bTabs = 0
              · have called : calledCommands true msg s = [] := by
                  simp only [calledCommands, unlocks, dispatches, lock, mentioned, tabs]
                  rfl
                rw [called]
                constructor
                · exact fun inside => absurd inside List.not_mem_nil
                · rintro ⟨-, found, rfl | ⟨some, -⟩⟩
                  · exact absurd found missing
                  · exact absurd tabs some
              · have called : calledCommands true msg s = (handlers msg).map .handler := by
                  simp only [calledCommands, unlocks, dispatches, lock, mentioned]
                  simp [tabs]
                rw [called, List.mem_map]
                constructor
                · rintro ⟨h, inside, rfl⟩
                  exact ⟨⟨rfl, lock⟩, (mem_handlers_iff msg h).mp inside, .inr ⟨tabs, missing⟩⟩
                · rintro ⟨-, found, -⟩
                  cases c with
                  | unlockGuildBank => exact absurd found missing
                  | handler h => exact ⟨h, (mem_handlers_iff msg h).mpr found, rfl⟩

/-- A message is one command exactly where no field ends with the name of a command that
changes something and is not the one named: of `UnlockGuildBank` if the bank listens at all,
and of the others if the bank is unlocked and `UnlockGuildBank` is not mentioned. -/
theorem oneCommand_iff :
    OneCommand env canUse msg s ↔
      (listens canUse s →
        Unambiguous msg .unlockGuildBank ∧
        (s.bank.bTabs ≠ 0 → ¬ mentions msg .unlockGuildBank →
          ∀ c, c.changesState = true → Unambiguous msg c)) := by
  constructor
  · intro one ready
    have named : ∀ c, c.changesState = true → mentions msg c →
        (c = .unlockGuildBank ∨ s.bank.bTabs ≠ 0 ∧ ¬ mentions msg .unlockGuildBank) →
        commandOf msg = some c.name := fun c changes mentioned heard =>
      one.named c ((mem_calledCommands canUse msg s c).mpr ⟨ready, mentioned, heard⟩) changes
    refine ⟨fun field inside ends => ?_, fun tabs missing c changes field inside ends => ?_⟩
    · exact named .unlockGuildBank rfl ⟨field, inside, ends⟩ (.inl rfl)
    · exact named c changes ⟨field, inside, ends⟩ (.inr ⟨tabs, missing⟩)
  · intro plain
    have named : ∀ c ∈ calledCommands canUse msg s, c.changesState = true →
        commandOf msg = some c.name := by
      intro c called changes
      obtain ⟨ready, ⟨field, inside, ends⟩, heard⟩ := (mem_calledCommands canUse msg s c).mp called
      obtain rfl | ⟨tabs, missing⟩ := heard
      · exact (plain ready).1 field inside ends
      · exact (plain ready).2 tabs missing c changes field inside ends
    refine ⟨named, ?_⟩
    have called := handleAddonMessages_called env canUse msg s
    have once := run_once env msg s (calledCommands_nodup canUse msg s) named (answers_refl s)
    obtain quiet | ⟨c, t, changes, ours, before, after⟩ := once
    · exact .inl (quiet.trans called)
    · exact .inr ⟨c, t, changes, ours, before, after.trans called⟩

/-- A guild master with five copies of template 100 in the first slot of the first bag, at
an unlocked and empty bank. -/
def masterWithBag : Session where
  bank := { bInfernoBank := false, guildid := 1, bTabs := 1 }
  player :=
    { guid := 7, rank := 0,
      bags := [{ bag := 19, slot := 0, proto := plainProto 100, count := 5 }] }
  db := {}
  time := 1000000

def updateTabMsg : CString := "TW_GUILDBANK\tUpdateTab:1:1 DepositItem:1:1:5".toList

/-- Naming a tab so that the message also deposits: the tab gets its name and the bank the
five copies. -/
theorem updateTab_deposits :
    ¬ OneCommand plainEnv true updateTabMsg masterWithBag ∧
      (handleAddonMessages plainEnv true updateTabMsg masterWithBag).player.bags = [] ∧
      bankCopies (handleAddonMessages plainEnv true updateTabMsg masterWithBag).bank.bItems 100 =
        5 ∧
      ((handleAddonMessages plainEnv true updateTabMsg masterWithBag).bank.bTabInfo 1).name =
        "1 DepositItem" := by
  refine ⟨fun one => ?_, by decide +kernel⟩
  have named := one.named (.handler .depositItem) (by decide) rfl
  exact absurd named (by decide)

end TortoiseWow.GuildBank
