import TortoiseWow.GuildBank.Worlds

/-!
What a save does to rows that are not the bank's own. Inserts and deletes name the
whole key, but the `UPDATE` of `BankItem::SaveToDB` names `guildid` and `guid` only:
a changed item takes over a row of the guild's other bank that has its guid. A
save leaves the other bank alone exactly when no changed snapshot has such a guid,
or when a duplicate key has the whole transaction rolled back.
-/

namespace TortoiseWow.GuildBank

open Lib

theorem saveMoney_keeps (b : Bank) : ∀ stmt ∈ saveMoney b, ∀ db : CharacterDatabase,
    ∃ db', stmt db = some db' ∧ db'.guildBank = db.guildBank := by
  intro stmt mem db
  unfold saveMoney at mem
  split_ifs at mem
  · rw [List.mem_singleton.mp mem]
    exact ⟨_, rfl, rfl⟩
  · cases mem

theorem saveTabs_keeps (b : Bank) : ∀ stmt ∈ saveTabs b, ∀ db : CharacterDatabase,
    ∃ db', stmt db = some db' ∧ db'.guildBank = db.guildBank := by
  intro stmt mem db
  unfold saveTabs at mem
  split_ifs at mem
  · rw [List.mem_singleton.mp mem]
    exact ⟨_, rfl, rfl⟩
  · cases mem

theorem saveMoneyLog_keeps (b : Bank) : ∀ stmt ∈ saveMoneyLog b, ∀ db : CharacterDatabase,
    ∃ db', stmt db = some db' ∧ db'.guildBank = db.guildBank := by
  intro stmt mem db
  unfold saveMoneyLog at mem
  split_ifs at mem
  · obtain ⟨line, -, rfl⟩ := List.mem_map.mp mem
    exact ⟨_, rfl, rfl⟩
  · cases mem

theorem saveLog_keeps (b : Bank) : ∀ stmt ∈ saveLog b, ∀ db : CharacterDatabase,
    ∃ db', stmt db = some db' ∧ db'.guildBank = db.guildBank := by
  intro stmt mem db
  unfold saveLog at mem
  split_ifs at mem
  · obtain ⟨tab, -, inTab⟩ := List.mem_flatMap.mp mem
    obtain ⟨line, -, rfl⟩ := List.mem_map.mp inTab
    exact ⟨_, rfl, rfl⟩
  · cases mem

/-- The queued snapshots as statements on the item table, in order. -/
def replay (q : List BankItem) (t : List GuildBankRow) : Option (List GuildBankRow) :=
  execute (q.map BankItem.persist) t

/-- A save replays the queue on the item table or, when a statement is refused, leaves it. -/
theorem saveBank_guildBank (b : Bank) (db : CharacterDatabase) :
    (saveBank b db).2.guildBank =
      if b.bSaveLock then db.guildBank
      else (replay b.bItemUpdateQueue db.guildBank).getD db.guildBank := by
  unfold saveBank
  by_cases lock : b.bSaveLock = true
  · rw [if_pos lock, if_pos lock]
  rw [if_neg lock, if_neg lock]
  by_cases clean : (!b.dirty) = true
  · have empty : b.bItemUpdateQueue = [] := by
      simp only [Bank.dirty, Bool.not_eq_true', Bool.or_eq_false_iff, Bool.not_eq_false',
        List.isEmpty_iff] at clean
      exact clean.2
    rw [if_pos clean, empty]
    rfl
  rw [if_neg clean]
  obtain ⟨db₁, others, same⟩ := @execute_of_keeps _ _ _
    (saveMoney b ++ saveTabs b ++ saveMoneyLog b ++ saveLog b) (by
      intro stmt mem
      simp only [List.mem_append] at mem
      rcases mem with ((money | tabs) | moneyLog) | log
      · exact saveMoney_keeps b stmt money
      · exact saveTabs_keeps b stmt tabs
      · exact saveMoneyLog_keeps b stmt moneyLog
      · exact saveLog_keeps b stmt log) db
  have items : execute (saveItems b) db₁ =
      (replay b.bItemUpdateQueue db₁.guildBank).map fun t => { db₁ with guildBank := t } := by
    have component := @execute_component _ _ _
      (fun db t => { db with guildBank := t }) (fun _ _ => rfl) (fun _ _ _ => rfl)
      (fun _ => rfl) (b.bItemUpdateQueue.map BankItem.persist) db₁
    rw [List.map_map] at component
    exact component
  unfold transaction
  rw [execute_append, others, Option.bind_some, items, same]
  cases replay b.bItemUpdateQueue db.guildBank with
  | none => rfl
  | some t => rfl

def Bank.strangers (b : Bank) (t : List GuildBankRow) : List GuildBankRow :=
  t.filter fun r => !b.owns r.guildid r.isInferno

def BankItem.hits (x : BankItem) (r : GuildBankRow) : Bool :=
  x.state == .itemChanged && (r.guildid == x.guildid && r.guid == x.guid)

theorem owns_row {b : Bank} {x : BankItem}
    (own : x.guildid = b.guildid ∧ x.isInferno = b.bInfernoBank) :
    b.owns x.row.guildid x.row.isInferno = true := by
  simp [Bank.owns, BankItem.row, own]

theorem hits_eq_false {x : BankItem} (state : x.state ≠ .itemChanged) (r : GuildBankRow) :
    x.hits r = false := by
  simp [BankItem.hits, state]

theorem strangers_persist {b : Bank} {x : BankItem} {t t' : List GuildBankRow}
    (own : x.guildid = b.guildid ∧ x.isInferno = b.bInfernoBank) (h : x.persist t = some t') :
    b.strangers t' = (b.strangers t).filter fun r => !x.hits r := by
  have none_hit : x.state ≠ .itemChanged →
      ((b.strangers t).filter fun r => !x.hits r) = b.strangers t := by
    intro state
    exact List.filter_eq_self.mpr fun r _ => by rw [hits_eq_false state]; rfl
  unfold BankItem.persist at h
  cases state : x.state with
  | itemNew =>
      rw [state] at h
      rw [none_hit (by simp [state])]
      obtain ⟨-, rfl⟩ := (insertRow_eq_some GuildBankRow.key).mp h
      simp [Bank.strangers, owns_row own]
  | itemChanged =>
      rw [state] at h
      obtain ⟨-, rfl⟩ := (updateRows_eq_some GuildBankRow.key).mp h
      have pred : (fun r => !x.hits r) =
          fun r => !(r.guildid == x.guildid && r.guid == x.guid) := by
        funext r
        simp [BankItem.hits, state]
      unfold Bank.strangers
      rw [pred]
      apply filter_update
      intro r _ _
      rw [owns_row own]
      rfl
  | itemRemoved =>
      rw [state] at h
      rw [none_hit (by simp [state])]
      cases h
      unfold Bank.strangers deleteRows
      rw [List.filter_filter]
      apply List.filter_congr
      intro r _
      by_cases mine : b.owns r.guildid r.isInferno = true
      · simp [mine]
      · have other : (r.guildid == x.guildid && r.guid == x.guid && r.isInferno == x.isInferno) =
            false := by
          rw [own.1, own.2]
          simp only [Bank.owns, Bool.and_eq_true, beq_iff_eq, not_and] at mine
          by_cases guild : r.guildid = b.guildid
          · simp [mine guild]
          · simp [guild]
        simp [mine, other]
  | itemUnchanged =>
      rw [state] at h
      rw [none_hit (by simp [state])]
      cases h
      rfl

theorem replay_cons (x : BankItem) (q : List BankItem) (t : List GuildBankRow) :
    replay (x :: q) t = (x.persist t).bind (replay q) := execute_cons _ _ _

theorem replay_append (q q' : List BankItem) (t : List GuildBankRow) :
    replay (q ++ q') t = (replay q t).bind (replay q') := by
  unfold replay
  rw [List.map_append]
  exact execute_append _ _ _

theorem strangers_replay {b : Bank} {q : List BankItem} {t t' : List GuildBankRow}
    (own : ∀ x ∈ q, x.guildid = b.guildid ∧ x.isInferno = b.bInfernoBank)
    (h : replay q t = some t') :
    b.strangers t' = (b.strangers t).filter fun r => q.all fun x => !x.hits r := by
  induction q generalizing t with
  | nil =>
      cases h
      exact (List.filter_eq_self.mpr fun r _ => rfl).symm
  | cons x q ih =>
      rw [replay_cons] at h
      obtain ⟨t₁, first, rest⟩ := Option.bind_eq_some_iff.mp h
      rw [ih (fun y mem => own y (by simp [mem])) rest, strangers_persist (own x (by simp)) first,
        List.filter_filter]
      apply List.filter_congr
      intro r _
      rw [List.all_cons, Bool.and_comm]

def Store.Foreign (st : Store) (guid : UInt32) : Prop :=
  ∃ r ∈ st.2.guildBank, r.guildid = st.1.guildid ∧ r.isInferno ≠ st.1.bInfernoBank ∧
    r.guid = guid

def Store.QueueClear (st : Store) : Prop :=
  ∀ x ∈ st.1.bItemUpdateQueue, x.state = .itemChanged → ¬ st.Foreign x.guid

/-- The save is skipped, or rolled back, or hits no row of others. -/
def Store.SaveClear (st : Store) : Prop :=
  st.1.bSaveLock = true ∨ replay st.1.bItemUpdateQueue st.2.guildBank = none ∨ st.QueueClear

theorem foreign_iff {st : Store} {guid : UInt32} :
    st.Foreign guid ↔
      ∃ r ∈ st.1.strangers st.2.guildBank, r.guildid = st.1.guildid ∧ r.guid = guid := by
  unfold Store.Foreign Bank.strangers
  constructor
  · rintro ⟨r, mem, guild, inferno, same⟩
    refine ⟨r, List.mem_filter.mpr ⟨mem, ?_⟩, guild, same⟩
    simp [Bank.owns, inferno]
  · rintro ⟨r, mem, guild, same⟩
    obtain ⟨row, other⟩ := List.mem_filter.mp mem
    refine ⟨r, row, guild, fun inferno => ?_, same⟩
    simp [Bank.owns, guild, inferno] at other

theorem foreign_congr {st st' : Store} (guildid : st'.1.guildid = st.1.guildid)
    (strangers : st'.1.strangers st'.2.guildBank = st.1.strangers st.2.guildBank)
    (guid : UInt32) : st'.Foreign guid ↔ st.Foreign guid := by
  rw [foreign_iff, foreign_iff, guildid, strangers]

theorem strangers_saveBank {st : Store} (holds : st.1.Holds) (clear : st.SaveClear) :
    st.1.strangers (saveBank st.1 st.2).2.guildBank = st.1.strangers st.2.guildBank := by
  rw [saveBank_guildBank]
  by_cases lock : st.1.bSaveLock = true
  · rw [if_pos lock]
  rw [if_neg lock]
  obtain locked | refused | clear := clear
  · exact absurd locked lock
  · rw [refused, Option.getD_none]
  cases replayed : replay st.1.bItemUpdateQueue st.2.guildBank with
  | none => rfl
  | some t =>
      rw [Option.getD_some, strangers_replay holds.queue replayed, List.filter_eq_self]
      intro r row
      refine List.all_eq_true.mpr fun x mem => ?_
      by_contra hit
      simp only [BankItem.hits, Bool.not_eq_true, Bool.not_eq_false', Bool.and_eq_true,
        beq_iff_eq] at hit
      obtain ⟨state, guild, guid⟩ := hit
      refine clear x mem state (foreign_iff.mpr ⟨r, row, ?_, guid⟩)
      rw [guild, (holds.queue x mem).1]

structure Bank.Other (b b' : Bank) : Prop where
  guildid : b'.guildid = b.guildid
  inferno : b'.bInfernoBank = !b.bInfernoBank

theorem ownRows_other {b b' : Bank} (other : b.Other b') (t : List GuildBankRow) :
    b'.ownRows t = (b.strangers t).filter fun r => r.guildid == b.guildid := by
  unfold Bank.ownRows Bank.strangers
  rw [List.filter_filter]
  apply List.filter_congr
  intro r _
  unfold Bank.owns
  rw [other.guildid, other.inferno]
  cases r.guildid == b.guildid with
  | false => rfl
  | true => cases r.isInferno <;> cases b.bInfernoBank <;> rfl

theorem saveClear_of_other {st : Store} {b' : Bank} (holds : st.1.Holds) (other : st.1.Other b')
    (same : b'.ownRows (saveBank st.1 st.2).2.guildBank = b'.ownRows st.2.guildBank) :
    st.SaveClear := by
  unfold Store.SaveClear
  by_cases lock : st.1.bSaveLock = true
  · exact .inl lock
  rw [saveBank_guildBank, if_neg lock] at same
  cases replayed : replay st.1.bItemUpdateQueue st.2.guildBank with
  | none => exact .inr (.inl rfl)
  | some t =>
      refine .inr (.inr fun x mem state foreign => ?_)
      rw [replayed, Option.getD_some, ownRows_other other, ownRows_other other] at same
      obtain ⟨r, row, guild, guid⟩ := foreign_iff.mp foreign
      have before : r ∈ (st.1.strangers st.2.guildBank).filter
          fun r => r.guildid == st.1.guildid :=
        List.mem_filter.mpr ⟨row, by simp [guild]⟩
      rw [← same, strangers_replay holds.queue replayed] at before
      have miss := List.all_eq_true.mp (List.mem_filter.mp (List.mem_filter.mp before).1).2 x mem
      have hit : x.hits r = true := by
        simp [BankItem.hits, state, guid, guild, (holds.queue x mem).1]
      rw [hit] at miss
      cases miss

/-- On such terms no save of the command hits a row of others. -/
structure Store.Clear (T : Terms) (st : Store) : Prop where
  queue : st.QueueClear
  touched : ∀ guid, T.touches guid → ¬ st.Foreign guid

theorem strangers_congr {b b' : Bank} (guildid : b'.guildid = b.guildid)
    (inferno : b'.bInfernoBank = b.bInfernoBank) : b'.strangers = b.strangers := by
  funext t
  unfold Bank.strangers Bank.owns
  rw [guildid, inferno]

theorem Store.Clear.of_same {T : Terms} {st st' : Store} (clear : st.Clear T)
    (guildid : st'.1.guildid = st.1.guildid)
    (strangers : st'.1.strangers st'.2.guildBank = st.1.strangers st.2.guildBank)
    (queue : ∀ x ∈ st'.1.bItemUpdateQueue, x ∈ st.1.bItemUpdateQueue) : st'.Clear T := by
  constructor
  · intro x mem state
    rw [foreign_congr guildid strangers]
    exact clear.queue x (queue x mem) state
  · intro guid touched
    rw [foreign_congr guildid strangers]
    exact clear.touched guid touched

theorem saveBank_queue (b : Bank) (db : CharacterDatabase) :
    (saveBank b db).1.bItemUpdateQueue = if b.bSaveLock then b.bItemUpdateQueue else [] := by
  unfold saveBank
  by_cases lock : b.bSaveLock = true
  · rw [if_pos lock, if_pos lock]
  rw [if_neg lock, if_neg lock]
  by_cases clean : (!b.dirty) = true
  · simp only [Bank.dirty, Bool.not_eq_true', Bool.or_eq_false_iff, Bool.not_eq_false',
      List.isEmpty_iff] at clean
    simp [Bank.dirty, clean]
  · rw [if_neg clean]
    rfl

theorem Edit.strangers {env : Env} {T : Terms} {a b : Store} (h : Edit env T a b)
    (holds : a.1.Holds) (clear : a.Clear T) :
    b.1.strangers b.2.guildBank = a.1.strangers a.2.guildBank ∧ b.Clear T := by
  have queued : ∀ {q : List BankItem} {x : BankItem},
      (∀ y ∈ q, y.state = .itemChanged → ¬ a.Foreign y.guid) →
      (x.state = .itemChanged → T.touches x.guid) →
      ∀ y ∈ q ++ [x], y.state = .itemChanged → ¬ a.Foreign y.guid := by
    intro q x old new y mem
    exact mem_queued mem old fun state => clear.touched _ (new state)
  cases h with
  | add isNew own free fresh fits =>
      exact ⟨rfl, queued clear.queue (by simp [isNew]), clear.touched⟩
  | put there changed own guid touched place fits =>
      exact ⟨rfl, queued clear.queue fun _ => touched, clear.touched⟩
  | exchange ne hx hy tx ty tab =>
      exact ⟨rfl, queued (queued clear.queue fun _ => tx) fun _ => ty, clear.touched⟩
  | erase there =>
      exact ⟨rfl, queued clear.queue (by simp [BankItem.removed]), clear.touched⟩
  | forget removed own swaps =>
      exact ⟨rfl, queued clear.queue (by simp [removed]), clear.touched⟩
  | tabs paid => exact ⟨rfl, clear.queue, clear.touched⟩
  | @aside b b' db same =>
      have rows : b'.strangers db.guildBank = b.strangers db.guildBank := by
        rw [strangers_congr same.guildid same.inferno]
      refine ⟨rows, clear.of_same same.guildid rows fun x mem => ?_⟩
      rw [same.queue] at mem
      exact mem
  | @save b db =>
      have rows : (saveBank b db).1.strangers (saveBank b db).2.guildBank =
          b.strangers db.guildBank := by
        rw [strangers_congr (saveBank_guildid b db) (saveBank_bInfernoBank b db)]
        exact strangers_saveBank holds (.inr (.inr clear.queue))
      refine ⟨rows, clear.of_same (saveBank_guildid b db) rows fun x mem => ?_⟩
      rw [saveBank_queue] at mem
      split_ifs at mem
      · exact mem
      · cases mem

theorem Edits.strangers {env : Env} {T : Terms} {a b : Store} (h : Edits env T a b)
    (holds : a.1.Holds) (clear : a.Clear T) :
    b.1.strangers b.2.guildBank = a.1.strangers a.2.guildBank := by
  suffices all : b.1.strangers b.2.guildBank = a.1.strangers a.2.guildBank ∧ b.1.Holds ∧
      b.Clear T from all.1
  induction h with
  | refl => exact ⟨rfl, holds, clear⟩
  | tail _ edit ih =>
      obtain ⟨same, held, clear⟩ := ih
      obtain ⟨same', clear'⟩ := edit.strangers held clear
      exact ⟨same'.trans same, edit.holds held, clear'⟩

/-- No save of the event can hit a row of the other bank. -/
def isolating (env : Env) : Conditions where
  handler msg s h := s.store.Clear (handlerTerms env msg s h)
  unlock _ _ := True
  save st := st.SaveClear

def World.OtherRowsKept (env : Env) (w : World) (e : Event) : Prop :=
  ∀ i, e.acts w = some i →
    (w.bank !i).ownRows (step env w e).db.guildBank = (w.bank !i).ownRows w.db.guildBank

theorem step_strangers {env : Env} {guildid : UInt32} {w : World} {e : Event}
    (of : w.OfGuild guildid) (meets : e.Meets env (isolating env) w) {i : Bool}
    (acts : e.acts w = some i) :
    (w.bank i).strangers (step env w e).db.guildBank =
      (w.bank i).strangers w.db.guildBank := by
  have rows : ((step env w e).bank i).strangers (step env w e).db.guildBank =
      (w.bank i).strangers w.db.guildBank := by
    refine of.step_invariant (I := fun st =>
      st.1.strangers st.2.guildBank = (w.bank i).strangers w.db.guildBank) ?_ ?_ ?_ ?_ meets acts
      rfl
    · intro msg s h st rows clear
      exact ((handle_edits st.2.2.items).strangers st.2.2 clear).trans rows
    · intro msg s _ rows _
      obtain ⟨-, out, done⟩ | ⟨-, loads⟩ := unlockGuildBank_cases env s msg
      · rw [done]
        exact rows
      · change (unlockGuildBank env s msg).bank.strangers
          (unlockGuildBank env s msg).db.guildBank = _
        rw [strangers_congr loads.guildid loads.inferno, loads.table]
        exact rows
    · rintro ⟨b, db⟩ st rows clear
      rw [strangers_congr (saveBank_guildid b db) (saveBank_bInfernoBank b db)]
      exact (strangers_saveBank st.2.2 clear).trans rows
    · intro b b' db aside rows
      rw [strangers_congr aside.guildid aside.inferno]
      exact rows
  have after := @step_ofGuild env _ _ e of
  have same : ((step env w e).bank i).strangers = (w.bank i).strangers :=
    strangers_congr ((after.guild i).trans (of.guild i).symm)
      ((after.inferno i).trans (of.inferno i).symm)
  rw [← same]
  exact rows.trans (by rw [same])

theorem World.OfGuild.other {guildid : UInt32} {w : World} (of : w.OfGuild guildid) (i : Bool) :
    (w.bank i).Other (w.bank !i) :=
  ⟨(of.guild _).trans (of.guild _).symm, by rw [of.inferno, of.inferno]⟩

theorem otherRowsKept_of_meets {env : Env} {guildid : UInt32} {w : World} {e : Event}
    (of : w.OfGuild guildid) (meets : e.Meets env (isolating env) w) :
    w.OtherRowsKept env e := by
  intro i acts
  rw [ownRows_other (of.other i), ownRows_other (of.other i), step_strangers of meets acts]

def World.SaveKeepsOther (w : World) (i : Bool) : Prop :=
  (w.bank !i).ownRows (saveBank (w.bank i) w.db).2.guildBank =
    (w.bank !i).ownRows w.db.guildBank

theorem saveKeepsOther_iff {guildid : UInt32} {w : World} (of : w.OfGuild guildid) (i : Bool) :
    w.SaveKeepsOther i ↔ (w.store i).SaveClear := by
  constructor
  · exact @saveClear_of_other (w.store i) _ (of.holds i) (of.other i)
  · intro clear
    have same := strangers_saveBank (of.holds i) clear
    unfold World.SaveKeepsOther
    rw [ownRows_other (of.other i), ownRows_other (of.other i)]
    exact congrArg (List.filter _) same

/-- In every state a guild's banks can reach, `SaveToDB` of one bank leaves the rows of the
other alone exactly when it is clear; and so does every event of a run whose saves are all
clear. -/
theorem other_bank_kept_iff_clear (env : Env) (guildid : UInt32) (w : World) (es : List Event)
    (of : w.OfGuild guildid) :
    (∀ i, (run (step env) w es).SaveKeepsOther i ↔ ((run (step env) w es).store i).SaveClear) ∧
    (Along (step env) (fun w e => e.Meets env (isolating env) w) w es →
      Along (step env) (World.OtherRowsKept env) w es) := by
  constructor
  · exact saveKeepsOther_iff (run_ofGuild es of)
  · exact along_of_invariant (I := World.OfGuild guildid) (fun w e of _ => step_ofGuild e of)
      (fun w e of meets => otherRowsKept_of_meets of meets) of

theorem loaded_banks_kept_iff_clear :
    guildWorld.OfGuild 1 ∧
      ∀ i, (run (step plainEnv) guildWorld []).SaveKeepsOther i ↔
        ((run (step plainEnv) guildWorld []).store i).SaveClear :=
  ⟨loaded_ofGuild _ _ _ _ _,
    (other_bank_kept_iff_clear plainEnv 1 guildWorld [] (loaded_ofGuild _ _ _ _ _)).1⟩

/-- The normal bank loses the row of guid 1 in a swap, the inferno bank hands out guid 1, and
the normal bank moves its item. -/
def takeover : List Event :=
  [.message 7 1000000 10 true "DepositItem:0:1:1:1:3".toList,
   .message 8 1000000 10 true "DepositItem:0:1:1:1:3".toList,
   .message 7 1000000 10 true "MoveItem:1:1:2".toList]

/-- The next save of the normal bank takes the only row of the inferno bank. -/
theorem inferno_row_taken :
    ((run (step plainEnv) guildWorld takeover).bank true).ownRows
        (run (step plainEnv) guildWorld takeover).db.guildBank ≠ [] ∧
      ((run (step plainEnv) guildWorld takeover).bank true).ownRows
        (saveBank ((run (step plainEnv) guildWorld takeover).bank false)
          (run (step plainEnv) guildWorld takeover).db).2.guildBank = [] := by
  decide +kernel

end TortoiseWow.GuildBank
