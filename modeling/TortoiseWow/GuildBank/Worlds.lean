import TortoiseWow.GuildBank.Edits

/-!
Runs of a guild's two banks. An event works on one bank and the shared tables, its
store; what the store's edits keep, the runs keep. The first invariant is that
whatever a bank holds or has queued is its own, and it needs no condition at all.
-/

namespace TortoiseWow.GuildBank

open Lib

def acceptedUnlock (s : Session) (msg : CString) : Bool :=
  s.player.rank == 0 && guildBankCost ≤ s.player.money &&
    match tokenizer msg ':' with
    | [_, query] => query == "Ok".toList
    | _ => false

def Bank.ownRows (b : Bank) (t : List GuildBankRow) : List GuildBankRow :=
  t.filter fun r => b.owns r.guildid r.isInferno

structure Session.Loads (env : Env) (s s' : Session) : Prop where
  bItems : s'.bank.bItems =
    s.bank.bItems ++ (s.bank.ownRows s.db.guildBank).map (loadItem env)
  queue : s'.bank.bItemUpdateQueue = s.bank.bItemUpdateQueue
  guildid : s'.bank.guildid = s.bank.guildid
  inferno : s'.bank.bInfernoBank = s.bank.bInfernoBank
  saveLock : s'.bank.bSaveLock = s.bank.bSaveLock
  bTabs : s'.bank.bTabs = 1
  table : s'.db.guildBank = s.db.guildBank
  purse : s'.player.money = modifyMoney s.player.money (-guildBankCost.toInt32)

theorem insertBank_money (b : Bank) (db : CharacterDatabase) :
    ∃ m ∈ (insertBank b db).guildBankMoney, b.owns m.guildid m.isInferno = true := by
  unfold insertBank insertRow
  dsimp only
  split_ifs with there
  · obtain ⟨m, mem, key⟩ := List.mem_map.mp there
    refine ⟨m, mem, ?_⟩
    simp only [Prod.mk.injEq] at key
    simp [Bank.owns, key]
  · exact ⟨_, List.mem_append_right _ (List.mem_singleton_self _), by simp [Bank.owns]⟩

def Bank.firstTabsRow (b : Bank) : GuildBankTabsRow :=
  { guildid := b.guildid
    isInferno := b.bInfernoBank
    tabs := 1
    tabInfo := defaultTabInfo }

theorem bankRows_insertBank (b : Bank) (db : CharacterDatabase) :
    ∃ money, (bankRows b (insertBank b db)).getLast? = some (b.firstTabsRow, money) := by
  obtain ⟨m, mem, mine⟩ := insertBank_money b db
  have some_row : ((insertBank b db).guildBankMoney.filter
      fun m => b.owns m.guildid m.isInferno) ≠ [] :=
    List.ne_nil_of_mem (List.mem_filter.mpr ⟨mem, mine⟩)
  have last : [b.firstTabsRow].filter (fun r => b.owns r.guildid r.isInferno) =
      [b.firstTabsRow] := by
    simp [Bank.owns, Bank.firstTabsRow]
  unfold bankRows
  change ∃ money, (((db.guildBankTabs ++ [b.firstTabsRow]).filter _).flatMap _).getLast? = _
  rw [List.filter_append, List.flatMap_append, last, List.flatMap_singleton,
    List.getLast?_append_of_ne_nil _ (by simpa using some_row), List.getLast?_map,
    List.getLast?_eq_some_getLast some_row]
  exact ⟨_, rfl⟩

theorem loadLog_frame (env : Env) (b : Bank) (db : CharacterDatabase) (now : Int) :
    ∃ (log : UInt32 → List BankLog) (moneyLog : List MoneyLog) (m l : Bool),
      loadLog env b db now =
        { b with
          bLog := log, bMoneyLog := moneyLog, bMoneyLogChanged := m, bLogChanged := l } := by
  unfold loadLog
  dsimp only
  split_ifs
  · exact ⟨_, _, _, _, rfl⟩
  · exact ⟨_, _, _, _, rfl⟩

theorem loadBank_of_row {env : Env} {b : Bank} {db : CharacterDatabase} {r : GuildBankTabsRow}
    {money : UInt32} (found : (bankRows b db).getLast? = some (r, money)) :
    ∃ (info : UInt32 → BankTab), loadBank env b db =
      { b with
        bTabs := r.tabs
        bMoney := money
        bTabInfo := info
        bItems := b.bItems ++ (b.ownRows db.guildBank).map (loadItem env) } := by
  unfold loadBank
  rw [found]
  exact ⟨_, rfl⟩

theorem unlockGuildBankOk_loads {env : Env} {s : Session}
    (funded : ¬ s.player.money < guildBankCost) :
    s.Loads env (unlockGuildBankOk env s) := by
  obtain ⟨money, found⟩ := bankRows_insertBank s.bank s.db
  obtain ⟨info, loaded⟩ := loadBank_of_row (b := { s.bank with bTabs := 1 })
    found
  obtain ⟨log, moneyLog, m, l, logged⟩ := loadLog_frame env
    (loadBank env { s.bank with bTabs := 1 } (insertBank s.bank s.db)) (insertBank s.bank s.db)
    s.time
  unfold unlockGuildBankOk
  rw [if_neg funded]
  rw [loaded] at logged
  simp only [modifyBank, loaded, logged]
  exact ⟨rfl, rfl, rfl, rfl, rfl, rfl, rfl, rfl⟩

theorem unlockGuildBank_cases (env : Env) (s : Session) (msg : CString) :
    acceptedUnlock s msg = false ∧ s.Answers (unlockGuildBank env s msg) ∨
      acceptedUnlock s msg = true ∧ s.Loads env (unlockGuildBank env s msg) := by
  unfold acceptedUnlock unlockGuildBank
  by_cases rank : s.player.rank ≠ 0
  · rw [if_pos rank]
    exact .inl ⟨by simp [rank], answers_send s _⟩
  · rw [if_neg rank]
    generalize tokenizer msg ':' = tokens
    rcases tokens with _ | ⟨a, _ | ⟨query, _ | ⟨c, l⟩⟩⟩
    · exact .inl ⟨by simp, answers_send s _⟩
    · exact .inl ⟨by simp, answers_send s _⟩
    · dsimp only
      by_cases cost : query = "Cost".toList
      · rw [if_pos cost]
        exact .inl ⟨by simp [cost], answers_send s _⟩
      · rw [if_neg cost]
        by_cases ok : query = "Ok".toList
        · rw [if_pos ok]
          by_cases funded : s.player.money < guildBankCost
          · have poor : ¬ guildBankCost ≤ s.player.money := UInt32.not_le.mpr funded
            unfold unlockGuildBankOk
            rw [if_pos funded]
            exact .inl ⟨by simp [poor], answers_send s _⟩
          · have paid : guildBankCost ≤ s.player.money := UInt32.not_lt.mp funded
            refine .inr ⟨?_, unlockGuildBankOk_loads funded⟩
            simp [ok, paid, not_not.mp rank]
        · rw [if_neg ok]
          refine .inl ⟨?_, answers_send s _⟩
          rw [beq_false_of_ne ok, Bool.and_false]
    · exact .inl ⟨by simp, answers_send s _⟩

def World.store (w : World) (i : Bool) : Store := (w.bank i, w.db)

def Event.acts (w : World) : Event → Option Bool
  | .message guid _ _ _ _ => some (w.players guid).isHC60
  | .save inferno => some inferno
  | .rankDeleted inferno _ => some inferno
  | .playerChanged _ _ => none

theorem step_bank_of_ne {env : Env} {w : World} {e : Event} {i : Bool}
    (elsewhere : e.acts w ≠ some i) : (step env w e).bank i = w.bank i := by
  cases e with
  | message | save | rankDeleted => exact if_neg fun same => elsewhere (by rw [same]; rfl)
  | playerChanged => rfl

theorem step_db_of_none {env : Env} {w : World} {e : Event} (nowhere : e.acts w = none) :
    (step env w e).db = w.db := by
  cases e with
  | message | save | rankDeleted => cases nowhere
  | playerChanged => rfl

section Meets

/-- Conditions on what an event does, each in the state in which it is done: on the handlers
of a message, on `UnlockGuildBank`, and on a save. -/
structure Conditions where
  handler : CString → Session → Handler → Prop
  unlock : CString → Session → Prop
  save : Store → Prop

def Event.Meets (env : Env) (C : Conditions) (w : World) : Event → Prop
  | .message guid time ranksSize canUse msg =>
      (dispatches canUse msg (w.session guid time ranksSize) = true →
        Along (handle env msg) (C.handler msg) (w.session guid time ranksSize) (handlers msg)) ∧
      (unlocks canUse msg (w.session guid time ranksSize) = true →
        C.unlock msg (w.session guid time ranksSize))
  | .save inferno => C.save (w.store inferno)
  | _ => True

theorem updateMinranks_aside (b : Bank) (rank : UInt32) : b.Aside (updateMinranks b rank) :=
  ⟨rfl, rfl, rfl, rfl, rfl, rfl⟩

theorem step_invariant {env : Env} {C : Conditions} {I : Store → Prop}
    (handled : ∀ msg s h, I s.store → C.handler msg s h → I (handle env msg s h).store)
    (unlocked : ∀ msg s, I s.store → C.unlock msg s → I (unlockGuildBank env s msg).store)
    (saved : ∀ st : Store, I st → C.save st → I (saveBank st.1 st.2))
    (aside : ∀ b b' db, b.Aside b' → I (b, db) → I (b', db)) {w : World} {e : Event}
    (meets : e.Meets env C w) {i : Bool} (acts : e.acts w = some i) (init : I (w.store i)) :
    I ((step env w e).store i) := by
  have same : ∀ {α : Type} (a b : α), (if i = i then a else b) = a := fun _ _ => if_pos rfl
  cases e with
  | message guid time ranksSize canUse msg =>
      cases acts
      have result : (step env w (.message guid time ranksSize canUse msg)).store
          (w.players guid).isHC60 =
          (handleAddonMessages env canUse msg (w.session guid time ranksSize)).store :=
        congrArg₂ Prod.mk (same _ _) rfl
      rw [result]
      obtain ⟨goes, -, done⟩ | ⟨goes, -, done⟩ | ⟨-, -, done | ⟨p, done⟩⟩ :=
        handleAddonMessages_cases env canUse msg (w.session guid time ranksSize)
      · rw [done]
        exact run_invariant (I := fun s : Session => I s.store)
          (fun s h hI hP => handled msg s h hI hP) init (meets.1 goes)
      · rw [done]
        exact unlocked msg _ init (meets.2 goes)
      · rw [done]
        exact init
      · rw [done]
        exact init
  | save inferno =>
      cases acts
      have result : (step env w (.save i)).store i = saveBank (w.bank i) w.db :=
        congrArg₂ Prod.mk (same _ _) rfl
      rw [result]
      exact saved _ init meets
  | rankDeleted inferno rank =>
      cases acts
      have result : (step env w (.rankDeleted i rank)).store i =
          (updateMinranks (w.bank i) rank, w.db) := congrArg₂ Prod.mk (same _ _) rfl
      rw [result]
      exact aside _ _ _ (updateMinranks_aside _ rank) init
  | playerChanged => cases acts

end Meets

structure Bank.Holds (b : Bank) : Prop where
  items : b.Owned
  queue : ∀ x ∈ b.bItemUpdateQueue, x.guildid = b.guildid ∧ x.isInferno = b.bInfernoBank

theorem Bank.Aside.holds {b b' : Bank} (h : b.Aside b') (holds : b.Holds) : b'.Holds := by
  constructor
  · intro x mem
    rw [h.items] at mem
    rw [h.guildid, h.inferno]
    exact holds.items x mem
  · intro x mem
    rw [h.queue] at mem
    rw [h.guildid, h.inferno]
    exact holds.queue x mem

theorem saved_holds {b : Bank} (holds : b.Holds) : b.saved.Holds := by
  refine ⟨fun x mem => ?_, fun x mem => by cases mem⟩
  have from_items : x ∈ b.bItems ∨ x ∈ b.bItems.map BankItem.settled := by
    unfold Bank.saved at mem
    dsimp only at mem
    split_ifs at mem
    · exact .inl mem
    · exact .inr mem
  rcases from_items with old | settled
  · exact holds.items x old
  · obtain ⟨y, old, rfl⟩ := List.mem_map.mp settled
    exact holds.items y old

theorem saveBank_holds {b : Bank} (db : CharacterDatabase) (holds : b.Holds) :
    (saveBank b db).1.Holds := by
  obtain h | h := saveBank_eq b db
  · rw [h]
    exact holds
  · rw [h]
    exact saved_holds holds

theorem mem_queued {q : List BankItem} {x y : BankItem} {p : BankItem → Prop}
    (mem : y ∈ q ++ [x]) (old : ∀ z ∈ q, p z) (new : p x) : p y := by
  rcases List.mem_append.mp mem with h | h
  · exact old y h
  · rw [List.mem_singleton.mp h]
    exact new

theorem Edit.holds {env : Env} {T : Terms} {a b : Store} (h : Edit env T a b)
    (holds : a.1.Holds) : b.1.Holds := by
  cases h with
  | add isNew own free fresh fits =>
      exact ⟨fun y mem => mem_queued mem holds.items own,
        fun y mem => mem_queued mem holds.queue own⟩
  | put there changed own guid touched place fits =>
      refine ⟨fun y mem => ?_, fun y mem => mem_queued mem holds.queue own⟩
      rcases List.mem_or_eq_of_mem_set mem with old | rfl
      · exact holds.items y old
      · exact own
  | exchange ne hx hy tx ty tab =>
      have first := holds.items _ (List.mem_of_getElem? hx)
      have second := holds.items _ (List.mem_of_getElem? hy)
      refine ⟨fun z mem => ?_, fun z mem => mem_queued mem
        (fun z mem => mem_queued mem holds.queue first) second⟩
      rcases List.mem_or_eq_of_mem_set mem with mem | rfl
      · rcases List.mem_or_eq_of_mem_set mem with old | rfl
        · exact holds.items z old
        · exact first
      · exact second
  | erase there =>
      have own := holds.items _ (List.mem_of_getElem? there)
      exact ⟨fun y mem => holds.items y (List.mem_of_mem_eraseIdx mem),
        fun y mem => mem_queued mem holds.queue own⟩
  | forget removed own swaps =>
      exact ⟨holds.items, fun y mem => mem_queued mem holds.queue own⟩
  | tabs paid => exact ⟨holds.items, holds.queue⟩
  | aside same => exact same.holds holds
  | save => exact saveBank_holds _ holds

theorem Edits.holds {env : Env} {T : Terms} {a b : Store} (h : Edits env T a b)
    (holds : a.1.Holds) : b.1.Holds := by
  induction h with
  | refl => exact holds
  | tail _ edit ih => exact edit.holds ih

theorem loadItem_owner (env : Env) (r : GuildBankRow) :
    (loadItem env r).guildid = r.guildid ∧ (loadItem env r).isInferno = r.isInferno := by
  unfold loadItem
  dsimp only
  split
  · exact ⟨rfl, rfl⟩
  · exact ⟨rfl, rfl⟩

theorem owns_eq {b : Bank} {guildid : UInt32} {isInferno : Bool}
    (h : b.owns guildid isInferno = true) : guildid = b.guildid ∧ isInferno = b.bInfernoBank := by
  simpa [Bank.owns] using h

theorem loaded_owned {env : Env} {b : Bank} {t : List GuildBankRow} {x : BankItem}
    (mem : x ∈ (b.ownRows t).map (loadItem env)) :
    x.guildid = b.guildid ∧ x.isInferno = b.bInfernoBank := by
  obtain ⟨r, row, rfl⟩ := List.mem_map.mp mem
  obtain ⟨guild, inferno⟩ := loadItem_owner env r
  rw [guild, inferno]
  exact owns_eq (List.mem_filter.mp row).2

theorem Session.Loads.holds {env : Env} {s s' : Session} (h : s.Loads env s')
    (holds : s.bank.Holds) : s'.bank.Holds := by
  constructor
  · intro x mem
    rw [h.guildid, h.inferno]
    rw [h.bItems] at mem
    rcases List.mem_append.mp mem with old | loaded
    · exact holds.items x old
    · exact loaded_owned loaded
  · intro x mem
    rw [h.guildid, h.inferno]
    rw [h.queue] at mem
    exact holds.queue x mem

structure World.OfGuild (guildid : UInt32) (w : World) : Prop where
  guild : ∀ i, (w.bank i).guildid = guildid
  inferno : ∀ i, (w.bank i).bInfernoBank = i
  holds : ∀ i, (w.bank i).Holds

def unconditional : Conditions where
  handler _ _ _ := True
  unlock _ _ := True
  save _ := True

theorem meets_unconditional (env : Env) (w : World) (e : Event) :
    e.Meets env unconditional w := by
  cases e with
  | message guid time ranksSize canUse msg =>
      refine ⟨fun _ => ?_, fun _ => trivial⟩
      generalize w.session guid time ranksSize = s
      induction handlers msg generalizing s with
      | nil => trivial
      | cons h hs ih => exact ⟨trivial, ih _⟩
  | save => trivial
  | rankDeleted => trivial
  | playerChanged => trivial

def Store.Of (guildid : UInt32) (i : Bool) (st : Store) : Prop :=
  st.1.guildid = guildid ∧ st.1.bInfernoBank = i ∧ st.1.Holds

theorem Edits.of {env : Env} {T : Terms} {a b : Store} (h : Edits env T a b) {guildid : UInt32}
    {i : Bool} (of : Store.Of guildid i a) : Store.Of guildid i b :=
  ⟨h.same.1.trans of.1, h.same.2.1.trans of.2.1, h.holds of.2.2⟩

theorem unlockGuildBank_of {env : Env} {s : Session} {msg : CString} {guildid : UInt32}
    {i : Bool} (of : Store.Of guildid i s.store) :
    Store.Of guildid i (unlockGuildBank env s msg).store := by
  obtain ⟨-, answers⟩ | ⟨-, loads⟩ := unlockGuildBank_cases env s msg
  · exact (@Session.Answers.edits env (handlerTerms env msg s .getBankInfo) _ _ answers).of of
  · exact ⟨loads.guildid.trans of.1, loads.inferno.trans of.2.1, loads.holds of.2.2⟩

theorem Store.Of.save {guildid : UInt32} {i : Bool} {st : Store} (of : Store.Of guildid i st) :
    Store.Of guildid i (saveBank st.1 st.2) :=
  ⟨(saveBank_guildid ..).trans of.1, (saveBank_bInfernoBank ..).trans of.2.1,
    saveBank_holds _ of.2.2⟩

theorem Store.Of.aside {guildid : UInt32} {i : Bool} {b b' : Bank} {db : CharacterDatabase}
    (of : Store.Of guildid i (b, db)) (h : b.Aside b') : Store.Of guildid i (b', db) :=
  ⟨h.guildid.trans of.1, h.inferno.trans of.2.1, h.holds of.2.2⟩

theorem World.OfGuild.store {guildid : UInt32} {w : World} (of : w.OfGuild guildid) (i : Bool) :
    Store.Of guildid i (w.store i) :=
  ⟨of.guild i, of.inferno i, of.holds i⟩

theorem step_ofGuild {env : Env} {guildid : UInt32} {w : World} (e : Event)
    (of : w.OfGuild guildid) : (step env w e).OfGuild guildid := by
  have each : ∀ i, Store.Of guildid i ((step env w e).store i) := by
    intro i
    by_cases acts : e.acts w = some i
    · refine step_invariant (C := unconditional) ?_ ?_ ?_ ?_ (meets_unconditional env w e) acts
        (of.store i)
      · intro msg s h st _
        exact (handle_edits st.2.2.items).of st
      · intro msg s st _
        exact unlockGuildBank_of st
      · intro st hst _
        exact hst.save
      · intro b b' db aside hst
        exact hst.aside aside
    · have same : (step env w e).bank i = w.bank i := step_bank_of_ne acts
      unfold Store.Of World.store
      rw [same]
      exact of.store i
  exact ⟨fun i => (each i).1, fun i => (each i).2.1, fun i => (each i).2.2⟩

theorem World.OfGuild.step_invariant {env : Env} {C : Conditions} {I : Store → Prop}
    {guildid : UInt32} {w : World} {e : Event} {i : Bool} (of : w.OfGuild guildid)
    (handled : ∀ msg s h, Store.Of guildid i s.store → I s.store → C.handler msg s h →
      I (handle env msg s h).store)
    (unlocked : ∀ msg s, Store.Of guildid i s.store → I s.store → C.unlock msg s →
      I (unlockGuildBank env s msg).store)
    (saved : ∀ st : Store, Store.Of guildid i st → I st → C.save st → I (saveBank st.1 st.2))
    (aside : ∀ b b' db, b.Aside b' → I (b, db) → I (b', db))
    (meets : e.Meets env C w) (acts : e.acts w = some i) (init : I (w.store i)) :
    I ((step env w e).store i) := by
  have both := GuildBank.step_invariant (I := fun st => Store.Of guildid i st ∧ I st) ?_ ?_ ?_ ?_
    meets acts ⟨of.store i, init⟩
  · exact both.2
  · rintro msg s h ⟨st, hI⟩ hC
    exact ⟨(handle_edits st.2.2.items).of st, handled msg s h st hI hC⟩
  · rintro msg s ⟨st, hI⟩ hC
    exact ⟨unlockGuildBank_of st, unlocked msg s st hI hC⟩
  · rintro st ⟨hst, hI⟩ hC
    exact ⟨hst.save, saved st hst hI hC⟩
  · rintro b b' db same ⟨st, hI⟩
    exact ⟨st.aside same, aside b b' db same hI⟩

theorem run_ofGuild {env : Env} {guildid : UInt32} {w : World} (es : List Event)
    (of : w.OfGuild guildid) : (run (step env) w es).OfGuild guildid := by
  induction es generalizing w with
  | nil => exact of
  | cons e es ih => exact ih (step_ofGuild e of)

def World.loaded (env : Env) (guildid : UInt32) (players : UInt32 → Player)
    (db : CharacterDatabase) (now : Int) : World where
  bank i := setGuild env guildid i db now
  players := players
  db := db

theorem loadBank_frame (env : Env) (b : Bank) (db : CharacterDatabase) :
    (loadBank env b db).guildid = b.guildid ∧ (loadBank env b db).bInfernoBank = b.bInfernoBank ∧
      (loadBank env b db).bSaveLock = b.bSaveLock ∧
      ((loadBank env b db).bItems = b.bItems ∨
        (loadBank env b db).bItems = b.bItems ++ (b.ownRows db.guildBank).map (loadItem env)) := by
  cases found : (bankRows b db).getLast? with
  | none =>
      have unchanged : loadBank env b db = b := by
        unfold loadBank
        rw [found]
      rw [unchanged]
      exact ⟨rfl, rfl, rfl, .inl rfl⟩
  | some r =>
      obtain ⟨info, loaded⟩ := loadBank_of_row (r := r.1) found
      rw [loaded]
      exact ⟨rfl, rfl, rfl, .inr rfl⟩

theorem setGuild_of (env : Env) (guildid : UInt32) (i : Bool) (db : CharacterDatabase)
    (now : Int) : Store.Of guildid i (setGuild env guildid i db now, db) := by
  obtain ⟨guild, inferno, -, items⟩ := loadBank_frame env
    { guildid := guildid, bInfernoBank := i } db
  obtain ⟨log, moneyLog, m, l, logged⟩ := loadLog_frame env
    (loadBank env { guildid := guildid, bInfernoBank := i } db) db now
  simp only [setGuild, logged]
  refine ⟨guild, inferno, ⟨fun x mem => ?_, fun x mem => by cases mem⟩⟩
  change x ∈ (loadBank env { guildid := guildid, bInfernoBank := i } db).bItems at mem
  rw [guild, inferno]
  rcases items with none | loaded
  · rw [none] at mem
    cases mem
  · rw [loaded] at mem
    exact loaded_owned mem

theorem loaded_ofGuild (env : Env) (guildid : UInt32) (players : UInt32 → Player)
    (db : CharacterDatabase) (now : Int) :
    (World.loaded env guildid players db now).OfGuild guildid :=
  ⟨fun i => (setGuild_of env guildid i db now).1, fun i => (setGuild_of env guildid i db now).2.1,
    fun i => (setGuild_of env guildid i db now).2.2⟩

/-- A guild with both banks, five copies of template 100 in the first slot of the normal one. -/
def guildDatabase : CharacterDatabase where
  guildBank :=
    [{ guildid := 1, guid := 1, isInferno := false, tab := 1, slot := 1, itemTemplate := 100,
       creatorGuid := 0, giftCreatorGuid := 0, count := 5, duration := 0, charges := [],
       flags := 0, enchantments := [], randomPropertyId := 0, transmogrifyId := 0,
       durability := 0, text := 0, generatedLoot := 0 }]
  guildBankTabs :=
    [{ guildid := 1, isInferno := false, tabs := 1, tabInfo := defaultTabInfo },
     { guildid := 1, isInferno := true, tabs := 1, tabInfo := defaultTabInfo }]
  guildBankMoney :=
    [{ guildid := 1, isInferno := false, money := 0 },
     { guildid := 1, isInferno := true, money := 0 }]

/-- Its master, who uses the normal bank as character 7 and the inferno bank as any other; each
carries three copies of template 200. -/
def guildMaster (guid : UInt32) : Player where
  guid := guid
  rank := 0
  isHC60 := guid != 7
  money := 100000000
  bags := [{ bag := 255, slot := 23, proto := plainProto 200, count := 3 }]

def guildWorld : World := World.loaded plainEnv 1 guildMaster guildDatabase 1000000

end TortoiseWow.GuildBank
