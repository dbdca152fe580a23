import TortoiseWow.GuildBank.Isolation

/-!
Memory and table. The queue holds snapshots by value, and what matters is what
replaying it on the bank's own rows would give: that table is at every moment the
items in memory, so a save that goes through leaves the two in step. A completed
swap breaks this. Its deposit rewrites the bank item in place, and its withdrawal
then queues the removal of the copy taken before, under the same guid.
-/

namespace TortoiseWow.GuildBank

open Lib

def Keyed (t : List GuildBankRow) : Prop := (t.map GuildBankRow.key).Nodup

theorem keyed_persist {x : BankItem} {t t' : List GuildBankRow} (keyed : Keyed t)
    (h : x.persist t = some t') : Keyed t' := by
  unfold BankItem.persist at h
  cases state : x.state with
  | itemNew =>
      rw [state] at h
      exact nodup_insertRow GuildBankRow.key keyed h
  | itemChanged =>
      rw [state] at h
      exact ((updateRows_eq_some GuildBankRow.key).mp h).1
  | itemRemoved =>
      rw [state] at h
      cases h
      exact nodup_deleteRows GuildBankRow.key keyed
  | itemUnchanged =>
      rw [state] at h
      cases h
      exact keyed

theorem keyed_replay {q : List BankItem} {t t' : List GuildBankRow} (keyed : Keyed t)
    (h : replay q t = some t') : Keyed t' := by
  induction q generalizing t with
  | nil =>
      cases h
      exact keyed
  | cons x q ih =>
      rw [replay_cons] at h
      obtain ⟨t₁, first, rest⟩ := Option.bind_eq_some_iff.mp h
      exact ih (keyed_persist keyed first) rest

theorem keyed_iff (b : Bank) (t : List GuildBankRow) :
    Keyed t ↔ Keyed (b.ownRows t) ∧ Keyed (b.strangers t) := by
  have parts := (List.filter_append_perm (fun r : GuildBankRow => b.owns r.guildid r.isInferno)
    t).map GuildBankRow.key
  unfold Keyed
  rw [← parts.nodup_iff, List.map_append, List.nodup_append]
  constructor
  · rintro ⟨own, others, -⟩
    exact ⟨own, others⟩
  · rintro ⟨own, others⟩
    refine ⟨own, others, ?_⟩
    rintro k mine k' theirs rfl
    obtain ⟨r, row, rfl⟩ := List.mem_map.mp mine
    obtain ⟨r', row', same⟩ := List.mem_map.mp theirs
    have yes := (List.mem_filter.mp row).2
    have no := (List.mem_filter.mp row').2
    simp only [GuildBankRow.key, Prod.mk.injEq] at same
    rw [same.1, same.2.2, yes] at no
    cases no

/-- A snapshot that goes through on the bank's own rows and hits no row of others goes through
on the table. -/
theorem persist_table {b : Bank} {x : BankItem} {t t₁ : List GuildBankRow}
    (own : x.guildid = b.guildid ∧ x.isInferno = b.bInfernoBank) (keyed : Keyed t)
    (clear : ∀ r ∈ b.strangers t, x.hits r = false) (h : x.persist (b.ownRows t) = some t₁) :
    ∃ u, x.persist t = some u ∧ b.ownRows u = t₁ := by
  have mine := owns_row own
  unfold BankItem.persist at h ⊢
  cases state : x.state with
  | itemNew =>
      rw [state] at h
      obtain ⟨fresh, rfl⟩ := (insertRow_eq_some GuildBankRow.key).mp h
      refine ⟨t ++ [x.row], (insertRow_eq_some GuildBankRow.key).mpr ⟨fun mem => ?_, rfl⟩, ?_⟩
      · obtain ⟨r, row, same⟩ := List.mem_map.mp mem
        refine fresh (List.mem_map.mpr ⟨r, List.mem_filter.mpr ⟨row, ?_⟩, same⟩)
        simp only [GuildBankRow.key, Prod.mk.injEq] at same
        rw [same.1, same.2.2]
        exact mine
      · simp [Bank.ownRows, mine]
  | itemChanged =>
      rw [state] at h
      obtain ⟨nodup, rfl⟩ := (updateRows_eq_some GuildBankRow.key).mp h
      have updated := filter_update_of_keeps (t := t)
        (p := fun r => r.guildid == x.guildid && r.guid == x.guid) (f := fun _ => x.row)
        (q := fun r => b.owns r.guildid r.isInferno) (by
          intro r row hit
          refine ⟨?_, mine⟩
          by_contra other
          have miss := clear r (List.mem_filter.mpr ⟨row, by simp [other]⟩)
          simp only [BankItem.hits, state, beq_self_eq_true, Bool.true_and] at miss
          rw [miss] at hit
          cases hit)
      refine ⟨_, (updateRows_eq_some GuildBankRow.key).mpr ⟨?_, rfl⟩, updated⟩
      refine (keyed_iff b _).mpr ⟨?_, ?_⟩
      · unfold Bank.ownRows
        rw [updated]
        exact nodup
      · have others := filter_update (t := t)
          (p := fun r => r.guildid == x.guildid && r.guid == x.guid) (f := fun _ => x.row)
          (q := fun r => !b.owns r.guildid r.isInferno) (by
            intro r _ _
            rw [mine]
            rfl)
        unfold Bank.strangers
        rw [others]
        exact ((keyed_iff b t).mp keyed).2.sublist (List.Sublist.map _ List.filter_sublist)
  | itemRemoved =>
      rw [state] at h
      cases h
      refine ⟨_, rfl, ?_⟩
      unfold Bank.ownRows deleteRows
      rw [List.filter_filter, List.filter_filter]
      apply List.filter_congr
      intro r _
      exact Bool.and_comm _ _
  | itemUnchanged =>
      rw [state] at h
      cases h
      exact ⟨t, rfl, rfl⟩

theorem replay_table {b : Bank} {q : List BankItem} {t t' : List GuildBankRow}
    (own : ∀ x ∈ q, x.guildid = b.guildid ∧ x.isInferno = b.bInfernoBank) (keyed : Keyed t)
    (clear : ∀ x ∈ q, ∀ r ∈ b.strangers t, x.hits r = false)
    (h : replay q (b.ownRows t) = some t') :
    ∃ u, replay q t = some u ∧ b.ownRows u = t' := by
  induction q generalizing t with
  | nil =>
      cases h
      exact ⟨t, rfl, rfl⟩
  | cons x q ih =>
      rw [replay_cons] at h
      obtain ⟨t₁, first, rest⟩ := Option.bind_eq_some_iff.mp h
      obtain ⟨u, done, rfl⟩ := persist_table (own x (by simp)) keyed (clear x (by simp)) first
      have others : b.strangers u = b.strangers t := by
        rw [strangers_persist (own x (by simp)) done, List.filter_eq_self]
        intro r row
        rw [clear x (by simp) r row]
        rfl
      obtain ⟨u', done', same⟩ := ih (fun y mem => own y (by simp [mem]))
        (keyed_persist keyed done) (fun y mem r row => clear y (by simp [mem]) r (others ▸ row))
        rest
      exact ⟨u', by rw [replay_cons, done, Option.bind_some, done'], same⟩

def GuildBankRow.brief (r : GuildBankRow) : UInt32 × UInt32 × UInt32 × UInt32 × UInt32 :=
  (r.guid, r.tab, r.slot, r.itemTemplate, r.count)

def BankItem.brief (x : BankItem) : UInt32 × UInt32 × UInt32 × UInt32 × UInt32 := x.row.brief

def Bank.InStep (b : Bank) (t : List GuildBankRow) : Prop :=
  ((b.ownRows t).map GuildBankRow.brief).Perm (b.bItems.map BankItem.brief)

structure Describes (b : Bank) (t : List GuildBankRow) (items : List BankItem) : Prop where
  own : ∀ r ∈ t, r.guildid = b.guildid ∧ r.isInferno = b.bInfernoBank
  keyed : Keyed t
  perm : (t.map GuildBankRow.brief).Perm (items.map BankItem.brief)

section Describes

variable {b : Bank} {t : List GuildBankRow} {items : List BankItem}

theorem Describes.guids (h : Describes b t items) :
    ((items.map BankItem.brief).map Prod.fst).Nodup := by
  rw [← (h.perm.map Prod.fst).nodup_iff, List.map_map]
  have keys := h.keyed
  unfold Keyed at keys
  rw [List.nodup_map_iff_inj_on (List.Nodup.of_map _ keys)]
  intro r row r' row' same
  refine List.inj_on_of_nodup_map keys row row' ?_
  have guid : r.guid = r'.guid := same
  simp only [GuildBankRow.key, h.own r row, h.own r' row', guid]

theorem Describes.add (h : Describes b t items) {x : BankItem} (isNew : x.state = .itemNew)
    (own : x.guildid = b.guildid ∧ x.isInferno = b.bInfernoBank)
    (fresh : ∀ y ∈ items, y.guid ≠ x.guid) :
    ∃ t', x.persist t = some t' ∧ Describes b t' (items ++ [x]) := by
  have inserted : x.persist t = some (t ++ [x.row]) := by
    unfold BankItem.persist
    rw [isNew]
    refine (insertRow_eq_some GuildBankRow.key).mpr ⟨fun mem => ?_, rfl⟩
    obtain ⟨r, row, same⟩ := List.mem_map.mp mem
    have brief : r.brief ∈ items.map BankItem.brief :=
      h.perm.mem_iff.mp (List.mem_map_of_mem row)
    obtain ⟨y, item, same'⟩ := List.mem_map.mp brief
    simp only [GuildBankRow.key, Prod.mk.injEq] at same
    exact fresh y item ((congrArg Prod.fst same').trans same.2.1)
  refine ⟨t ++ [x.row], inserted, ⟨fun r row => ?_, keyed_persist h.keyed inserted, ?_⟩⟩
  · rcases List.mem_append.mp row with old | new
    · exact h.own r old
    · rw [List.mem_singleton.mp new]
      exact own
  · rw [List.map_append, List.map_append]
    exact h.perm.append_right [x.brief]

theorem Describes.put (h : Describes b t items) {i : Nat} {x y : BankItem}
    (there : items[i]? = some y) (changed : x.state = .itemChanged)
    (own : x.guildid = b.guildid ∧ x.isInferno = b.bInfernoBank) (guid : x.guid = y.guid) :
    ∃ t', x.persist t = some t' ∧ Describes b t' (items.set i x) := by
  have hit : ∀ r ∈ t, (r.guildid == x.guildid && r.guid == x.guid) = decide (r.guid = y.guid) := by
    intro r row
    rw [(h.own r row).1, own.1, guid, beq_self_eq_true, Bool.true_and]
    rfl
  have updated : x.persist t =
      some (t.map fun r => if r.guildid == x.guildid && r.guid == x.guid then x.row else r) := by
    unfold BankItem.persist
    rw [changed]
    refine updateRows_of_key_eq GuildBankRow.key h.keyed fun r row same => ?_
    rw [hit r row] at same
    have guid' : x.row.guid = r.guid := guid.trans (of_decide_eq_true same).symm
    have guildid : x.row.guildid = r.guildid := own.1.trans (h.own r row).1.symm
    have inferno : x.row.isInferno = r.isInferno := own.2.trans (h.own r row).2.symm
    simp only [GuildBankRow.key, guid', guildid, inferno]
  refine ⟨_, updated, ⟨fun r row => ?_, keyed_persist h.keyed updated, ?_⟩⟩
  · obtain ⟨r', row', rfl⟩ := List.mem_map.mp row
    split_ifs
    · exact own
    · exact h.own r' row'
  · have rows : (t.map fun r => if r.guildid == x.guildid && r.guid == x.guid then x.row
        else r).map GuildBankRow.brief =
        (t.map GuildBankRow.brief).map fun k => if k.1 = y.brief.1 then x.brief else k := by
      rw [List.map_map, List.map_map]
      apply List.map_congr_left
      intro r row
      have same : r.brief.1 = y.brief.1 ↔ r.guid = y.guid := Iff.rfl
      simp only [Function.comp_apply, hit r row, decide_eq_true_eq, same]
      split_ifs
      · rfl
      · rfl
    have there' : (items.map BankItem.brief)[i]? = some y.brief := by
      rw [List.getElem?_map, there]
      rfl
    rw [rows, List.map_set, ← map_key_eq_set x.brief h.guids there']
    exact h.perm.map _

theorem Describes.erase (h : Describes b t items) {i : Nat} {x : BankItem}
    (there : items[i]? = some x)
    (own : x.guildid = b.guildid ∧ x.isInferno = b.bInfernoBank) :
    ∃ t', x.removed.persist t = some t' ∧ Describes b t' (items.eraseIdx i) := by
  have deleted : x.removed.persist t = some (t.filter fun r => r.brief.1 ≠ x.brief.1) := by
    have statement : x.removed.persist t = some (deleteRows (fun r =>
      r.guildid == x.guildid && r.guid == x.guid && r.isInferno == x.isInferno) t) := rfl
    rw [statement]
    unfold deleteRows
    congr 1
    apply List.filter_congr
    intro r row
    have same : r.brief.1 = x.brief.1 ↔ r.guid = x.guid := Iff.rfl
    dsimp only
    rw [(h.own r row).1, (h.own r row).2, own.1, own.2]
    by_cases guid : r.guid = x.guid
    · simp [same, guid]
    · simp [same, guid]
  refine ⟨_, deleted, ⟨fun r row => h.own r (List.mem_filter.mp row).1,
    keyed_persist h.keyed deleted, ?_⟩⟩
  have there' : (items.map BankItem.brief)[i]? = some x.brief := by
    rw [List.getElem?_map, there]
    rfl
  have rows : (t.filter fun r => r.brief.1 ≠ x.brief.1).map GuildBankRow.brief =
      (t.map GuildBankRow.brief).filter fun k => k.1 ≠ x.brief.1 := by
    rw [List.filter_map]
    rfl
  have left : (items.eraseIdx i).map BankItem.brief = (items.map BankItem.brief).eraseIdx i := by
    rw [List.eraseIdx_map]
  rw [rows, left, ← filter_key_eq_eraseIdx h.guids there']
  exact h.perm.filter _

end Describes

structure Store.Synced (st : Store) : Prop where
  keyed : Keyed st.2.guildBank
  replayed : ∃ t, replay st.1.bItemUpdateQueue (st.1.ownRows st.2.guildBank) = some t ∧
    Describes st.1 t st.1.bItems

theorem Describes.congr {b b' : Bank} {t : List GuildBankRow} {items : List BankItem}
    (h : Describes b t items) (guildid : b'.guildid = b.guildid)
    (inferno : b'.bInfernoBank = b.bInfernoBank) : Describes b' t items := by
  refine ⟨fun r row => ?_, h.keyed, h.perm⟩
  rw [guildid, inferno]
  exact h.own r row

theorem ownRows_congr {b b' : Bank} (guildid : b'.guildid = b.guildid)
    (inferno : b'.bInfernoBank = b.bInfernoBank) : b'.ownRows = b.ownRows := by
  funext t
  unfold Bank.ownRows Bank.owns
  rw [guildid, inferno]

/-- One more snapshot and the items it stands for. -/
theorem Store.Synced.push {b b' : Bank} {db : CharacterDatabase} {x : BankItem}
    (synced : Store.Synced (b, db)) (queue : b'.bItemUpdateQueue = b.bItemUpdateQueue ++ [x])
    (guildid : b'.guildid = b.guildid) (inferno : b'.bInfernoBank = b.bInfernoBank)
    (step : ∀ t, Describes b t b.bItems → ∃ t', x.persist t = some t' ∧
      Describes b t' b'.bItems) : Store.Synced (b', db) := by
  obtain ⟨t, replayed, describes⟩ := synced.replayed
  obtain ⟨t', persisted, describes'⟩ := step t describes
  refine ⟨synced.keyed, t', ?_, describes'.congr guildid inferno⟩
  dsimp only at replayed ⊢
  rw [queue, ownRows_congr guildid inferno, replay_append, replayed, Option.bind_some,
    replay_cons, persisted]
  rfl

theorem brief_settled (items : List BankItem) :
    (items.map BankItem.settled).map BankItem.brief = items.map BankItem.brief := by
  rw [List.map_map]
  rfl

theorem saveBank_brief (b : Bank) (db : CharacterDatabase) :
    (saveBank b db).1.bItems.map BankItem.brief = b.bItems.map BankItem.brief := by
  have contents := saveBank_contents b db
  unfold Bank.contents at contents
  rw [← brief_settled, contents, brief_settled]

theorem keyed_saveBank {b : Bank} {db : CharacterDatabase} (keyed : Keyed db.guildBank) :
    Keyed (saveBank b db).2.guildBank := by
  rw [saveBank_guildBank]
  split_ifs
  · exact keyed
  · cases replayed : replay b.bItemUpdateQueue db.guildBank with
    | none => exact keyed
    | some t => exact keyed_replay keyed replayed

theorem Store.QueueClear.misses {st : Store} (clear : st.QueueClear) (holds : st.1.Holds) :
    ∀ x ∈ st.1.bItemUpdateQueue, ∀ r ∈ st.1.strangers st.2.guildBank, x.hits r = false := by
  intro x mem r row
  by_contra hit
  simp only [BankItem.hits, Bool.not_eq_false, Bool.and_eq_true, beq_iff_eq] at hit
  obtain ⟨state, guild, guid⟩ := hit
  refine clear x mem state (foreign_iff.mpr ⟨r, row, ?_, guid⟩)
  rw [guild, (holds.queue x mem).1]

/-- A save that hits no row of others goes through, and then nothing is queued. -/
theorem Store.Synced.save {b : Bank} {db : CharacterDatabase} (synced : Store.Synced (b, db))
    (holds : b.Holds) (clear : Store.QueueClear (b, db)) : Store.Synced (saveBank b db) := by
  have guildid := saveBank_guildid b db
  have inferno := saveBank_bInfernoBank b db
  refine ⟨keyed_saveBank synced.keyed, ?_⟩
  obtain ⟨t, replayed, describes⟩ := synced.replayed
  have items : Describes (saveBank b db).1 t (saveBank b db).1.bItems := by
    refine ⟨(describes.congr guildid inferno).own, describes.keyed, ?_⟩
    rw [saveBank_brief]
    exact describes.perm
  refine ⟨t, ?_, items⟩
  rw [saveBank_queue, saveBank_guildBank, ownRows_congr guildid inferno]
  by_cases lock : b.bSaveLock = true
  · rw [if_pos lock, if_pos lock]
    exact replayed
  · obtain ⟨u, done, same⟩ := replay_table holds.queue synced.keyed (clear.misses holds) replayed
    rw [if_neg lock, if_neg lock, done, Option.getD_some, same]
    rfl

theorem Store.Synced.aside {b b' : Bank} {db : CharacterDatabase} (synced : Store.Synced (b, db))
    (same : b.Aside b') : Store.Synced (b', db) := by
  obtain ⟨t, replayed, describes⟩ := synced.replayed
  refine ⟨synced.keyed, t, ?_, ?_⟩
  · dsimp only at replayed ⊢
    rw [same.queue, ownRows_congr same.guildid same.inferno]
    exact replayed
  · dsimp only
    rw [same.items]
    exact describes.congr same.guildid same.inferno

theorem Edit.synced {env : Env} {T : Terms} {a b : Store} (h : Edit env T a b)
    (holds : a.1.Holds) (clear : a.Clear T) (room : T.room) (noSwap : ¬ T.swaps)
    (synced : a.Synced) : b.Synced := by
  cases h with
  | add isNew own free fresh fits =>
      exact synced.push rfl rfl rfl fun t describes => describes.add isNew own (fresh room)
  | put there changed own guid touched place fits =>
      exact synced.push rfl rfl rfl fun t describes => describes.put there changed own guid
  | @exchange b db i k x y ne hx hy tx ty tab =>
      have hy' : (b.bItems.set i (x.moved y.slot))[k]? = some y := by
        rw [List.getElem?_set_ne ne]
        exact hy
      have first : Store.Synced ({ b with
          bItems := b.bItems.set i (x.moved y.slot)
          bItemUpdateQueue := b.bItemUpdateQueue ++ [x.moved y.slot] }, db) :=
        synced.push rfl rfl rfl fun t describes =>
          describes.put hx rfl (holds.items x (List.mem_of_getElem? hx)) rfl
      exact first.push rfl rfl rfl fun t describes =>
        describes.put hy' rfl (holds.items y (List.mem_of_getElem? hy)) rfl
  | @erase b db i x there =>
      exact synced.push rfl rfl rfl fun t describes =>
        describes.erase there (holds.items x (List.mem_of_getElem? there))
  | forget removed own swaps => exact absurd swaps noSwap
  | tabs paid =>
      obtain ⟨t, replayed, describes⟩ := synced.replayed
      exact ⟨synced.keyed, t, replayed, describes.congr rfl rfl⟩
  | aside same => exact synced.aside same
  | save => exact synced.save holds clear.queue

theorem Edits.synced {env : Env} {T : Terms} {a b : Store} (h : Edits env T a b)
    (holds : a.1.Holds) (clear : a.Clear T) (room : T.room) (noSwap : ¬ T.swaps)
    (synced : a.Synced) : b.Synced := by
  suffices all : b.Synced ∧ b.1.Holds ∧ b.Clear T from all.1
  induction h with
  | refl => exact ⟨synced, holds, clear⟩
  | tail _ edit ih =>
      obtain ⟨synced, holds, clear⟩ := ih
      exact ⟨edit.synced holds clear room noSwap synced, edit.holds holds,
        (edit.strangers holds clear).2⟩

/-- The commands on bank `i` that its table follows, and the commands on the other bank that
leave its rows alone. -/
def persisting (env : Env) (i : Bool) : Conditions where
  handler msg s h :=
    s.store.Clear (handlerTerms env msg s h) ∧
      (s.bank.bInfernoBank = i →
        (handlerTerms env msg s h).room ∧ ¬ (handlerTerms env msg s h).swaps)
  unlock msg s :=
    s.bank.bInfernoBank = i → acceptedUnlock s msg = true →
      s.bank.bItems = [] ∧ s.bank.bItemUpdateQueue = []
  save st := st.SaveClear ∧ (st.1.bInfernoBank = i → st.QueueClear)

theorem unlockGuildBank_synced {env : Env} {s : Session} {msg : CString} (synced : s.store.Synced)
    (empty : acceptedUnlock s msg = true →
      s.bank.bItems = [] ∧ s.bank.bItemUpdateQueue = []) :
    (unlockGuildBank env s msg).store.Synced := by
  obtain ⟨-, out, done⟩ | ⟨accepted, loads⟩ := unlockGuildBank_cases env s msg
  · rw [done]
    exact synced
  obtain ⟨noItems, noQueue⟩ := empty accepted
  obtain ⟨t, replayed, describes⟩ := synced.replayed
  dsimp only [Session.store] at replayed describes
  rw [noQueue] at replayed
  cases replayed
  have noRows : s.bank.ownRows s.db.guildBank = [] := by
    have perm := describes.perm
    rw [noItems] at perm
    simpa using perm
  refine ⟨?_, s.bank.ownRows s.db.guildBank, ?_, ?_⟩
  · change Keyed (unlockGuildBank env s msg).db.guildBank
    rw [loads.table]
    exact synced.keyed
  · change replay (unlockGuildBank env s msg).bank.bItemUpdateQueue
      ((unlockGuildBank env s msg).bank.ownRows (unlockGuildBank env s msg).db.guildBank) = _
    rw [loads.queue, noQueue, loads.table, ownRows_congr loads.guildid loads.inferno]
    rfl
  · change Describes (unlockGuildBank env s msg).bank _ (unlockGuildBank env s msg).bank.bItems
    rw [loads.bItems, noRows, List.map_nil, List.append_nil]
    rw [noRows] at describes
    exact describes.congr loads.guildid loads.inferno

theorem Edits.keyed {env : Env} {T : Terms} {a b : Store} (h : Edits env T a b)
    (keyed : Keyed a.2.guildBank) : Keyed b.2.guildBank := by
  induction h with
  | refl => exact keyed
  | tail _ edit ih =>
      cases edit with
      | add | put | exchange | erase | forget | tabs | aside => exact ih
      | save => exact keyed_saveBank ih

theorem step_keyed {env : Env} {guildid : UInt32} {w : World} (e : Event)
    (of : w.OfGuild guildid) (keyed : Keyed w.db.guildBank) :
    Keyed (step env w e).db.guildBank := by
  cases acts : e.acts w with
  | none =>
      rw [step_db_of_none acts]
      exact keyed
  | some i =>
      refine of.step_invariant (I := fun st => Keyed st.2.guildBank) (C := unconditional) ?_ ?_
        ?_ ?_ (meets_unconditional env w e) acts keyed
      · intro msg s h st keyed _
        exact (handle_edits st.2.2.items).keyed keyed
      · intro msg s _ keyed _
        obtain ⟨-, out, done⟩ | ⟨-, loads⟩ := unlockGuildBank_cases env s msg
        · rw [done]
          exact keyed
        · change Keyed (unlockGuildBank env s msg).db.guildBank
          rw [loads.table]
          exact keyed
      · intro st _ keyed _
        exact keyed_saveBank keyed
      · intro b b' db _ keyed
        exact keyed

theorem step_synced_same {env : Env} {guildid : UInt32} {w : World} {e : Event} {i : Bool}
    (of : w.OfGuild guildid) (meets : e.Meets env (persisting env i) w)
    (acts : e.acts w = some i) (synced : (w.store i).Synced) :
    ((step env w e).store i).Synced := by
  refine of.step_invariant ?_ ?_ ?_ ?_ meets acts synced
  · rintro msg s h st synced ⟨clear, own⟩
    obtain ⟨room, noSwap⟩ := own st.2.1
    exact (handle_edits st.2.2.items).synced st.2.2 clear room noSwap synced
  · intro msg s st synced empty
    exact unlockGuildBank_synced synced (empty st.2.1)
  · rintro st hst synced ⟨-, clear⟩
    exact synced.save hst.2.2 (clear hst.2.1)
  · intro b b' db aside synced
    exact synced.aside aside

/-- What keeps the table of a bank right keeps its saves off the rows of the other. -/
theorem Event.Meets.isolating {env : Env} {i : Bool} {w : World} {e : Event}
    (meets : e.Meets env (persisting env i) w) : e.Meets env (isolating env) w := by
  cases e with
  | message guid time ranksSize canUse msg =>
      exact ⟨fun goes => (meets.1 goes).imp fun s h both => both.1, fun _ => trivial⟩
  | save inferno => exact meets.1
  | rankDeleted => trivial
  | playerChanged => trivial

theorem step_synced_other {env : Env} {guildid : UInt32} {w : World} {e : Event} {i : Bool}
    (of : w.OfGuild guildid) (meets : e.Meets env (persisting env i) w)
    (acts : e.acts w = some !i) (synced : (w.store i).Synced) :
    ((step env w e).store i).Synced := by
  have bank : (step env w e).bank i = w.bank i :=
    step_bank_of_ne (by rw [acts]; cases i <;> simp)
  have rows := otherRowsKept_of_meets of meets.isolating (!i) acts
  rw [Bool.not_not] at rows
  obtain ⟨t, replayed, describes⟩ := synced.replayed
  refine ⟨step_keyed e of synced.keyed, t, ?_, ?_⟩
  · change replay ((step env w e).bank i).bItemUpdateQueue
      (((step env w e).bank i).ownRows (step env w e).db.guildBank) = some t
    rw [bank, rows]
    exact replayed
  · change Describes ((step env w e).bank i) t ((step env w e).bank i).bItems
    rw [bank]
    exact describes

theorem step_synced {env : Env} {guildid : UInt32} {w : World} {e : Event} {i : Bool}
    (of : w.OfGuild guildid) (meets : e.Meets env (persisting env i) w)
    (synced : (w.store i).Synced) : ((step env w e).store i).Synced := by
  cases acts : e.acts w with
  | none =>
      have bank : (step env w e).bank i = w.bank i := step_bank_of_ne (by simp [acts])
      unfold World.store
      rw [bank, step_db_of_none acts]
      exact synced
  | some k =>
      by_cases same : k = i
      · subst same
        exact step_synced_same of meets acts synced
      · have other : k = !i := by cases k <;> cases i <;> simp_all
        subst other
        exact step_synced_other of meets acts synced

theorem step_saveLock {env : Env} {guildid : UInt32} {w : World} (e : Event)
    (of : w.OfGuild guildid) (i : Bool) :
    ((step env w e).bank i).bSaveLock = (w.bank i).bSaveLock := by
  by_cases acts : e.acts w = some i
  · refine of.step_invariant (I := fun st => st.1.bSaveLock = (w.bank i).bSaveLock)
      (C := unconditional) ?_ ?_ ?_ ?_ (meets_unconditional env w e) acts rfl
    · intro msg s h st lock _
      exact (handle_edits (h := h) st.2.2.items).same.2.2.trans lock
    · intro msg s _ lock _
      obtain ⟨-, out, done⟩ | ⟨-, loads⟩ := unlockGuildBank_cases env s msg
      · rw [done]
        exact lock
      · exact loads.saveLock.trans lock
    · intro st _ lock _
      exact (saveBank_bSaveLock ..).trans lock
    · intro b b' db aside lock
      exact aside.lock.trans lock
  · rw [step_bank_of_ne acts]

structure World.Fresh (guildid : UInt32) (i : Bool) (w : World) : Prop where
  of : w.OfGuild guildid
  keyed : Keyed w.db.guildBank
  lock : (w.bank i).bSaveLock = false
  queue : (w.bank i).bItemUpdateQueue = []
  inStep : (w.bank i).InStep w.db.guildBank

theorem World.Fresh.synced {guildid : UInt32} {i : Bool} {w : World} (h : w.Fresh guildid i) :
    (w.store i).Synced := by
  refine ⟨h.keyed, (w.bank i).ownRows w.db.guildBank, ?_, ⟨fun r row => ?_, ?_, h.inStep⟩⟩
  · change replay (w.bank i).bItemUpdateQueue _ = _
    rw [h.queue]
    rfl
  · exact owns_eq (List.mem_filter.mp row).2
  · exact ((keyed_iff (w.bank i) w.db.guildBank).mp h.keyed).1

theorem inStep_of_synced {w : World} {i : Bool} (synced : (w.store i).Synced)
    (drained : (w.bank i).bItemUpdateQueue = []) : (w.bank i).InStep w.db.guildBank := by
  obtain ⟨t, replayed, describes⟩ := synced.replayed
  change replay (w.bank i).bItemUpdateQueue ((w.bank i).ownRows w.db.guildBank) = some t at replayed
  rw [drained] at replayed
  cases replayed
  exact describes.perm

theorem save_drains {env : Env} {w : World} {i : Bool} (lock : (w.bank i).bSaveLock = false) :
    ((step env w (.save i)).bank i).bItemUpdateQueue = [] := by
  have saved : (step env w (.save i)).bank i = (saveBank (w.bank i) w.db).1 := if_pos rfl
  rw [saved, saveBank_queue, lock]
  rfl

/-- In a run in which no command on the bank completes a swap, unlocks it over its items or runs
out of guids, and no save meets a row of the other bank, a save drains the queue, and whenever
the queue is drained the rows of the bank are its items. -/
theorem rows_are_items_when_drained (env : Env) (guildid : UInt32) (i : Bool) (w : World)
    (es : List Event) (fresh : w.Fresh guildid i)
    (ok : Along (step env) (fun w e => e.Meets env (persisting env i) w) w es) :
    ∀ pre, pre <+: es →
      ((step env (run (step env) w pre) (.save i)).bank i).bItemUpdateQueue = [] ∧
      (((run (step env) w pre).bank i).bItemUpdateQueue = [] →
        ((run (step env) w pre).bank i).InStep (run (step env) w pre).db.guildBank) := by
  intro pre before
  have reached := run_invariant_upto
    (I := fun w => w.OfGuild guildid ∧ (w.store i).Synced ∧ (w.bank i).bSaveLock = false)
    (P := fun w e => e.Meets env (persisting env i) w) (by
      rintro w e ⟨of, synced, lock⟩ meets
      exact ⟨step_ofGuild e of, step_synced of meets synced, (step_saveLock e of i).trans lock⟩)
    ⟨fresh.of, fresh.synced, fresh.lock⟩ ok before
  exact ⟨save_drains reached.2.2, inStep_of_synced reached.2.1⟩

theorem handlerTerms_room {env : Env} {msg : CString} {s : Session} {h : Handler}
    (room : ∀ x ∈ s.bank.bItems, x.guid ≠ 4294967295) : (handlerTerms env msg s h).room := by
  unfold handlerTerms
  cases itemAction env msg s h with
  | none => trivial
  | some a => exact room

theorem moveItem_swaps_not {env : Env} {msg : CString} {s : Session} :
    ¬ (handlerTerms env msg s .moveItem).swaps := by
  unfold handlerTerms
  cases act : itemAction env msg s .moveItem with
  | none => exact fun swaps => swaps
  | some a =>
      obtain ⟨_, _, _, _, _, _, rfl⟩ := itemAction_moveItem act
      exact fun swaps => swaps

theorem guildWorld_fresh : guildWorld.Fresh 1 false where
  of := loaded_ofGuild _ _ _ _ _
  keyed := by
    unfold Keyed
    decide +kernel
  lock := by decide +kernel
  queue := by decide +kernel
  inStep := by
    unfold Bank.InStep
    decide +kernel

def moveAndSave : List Event :=
  [.message 7 1000000 10 true "MoveItem:1:1:2".toList, .save false]

theorem clear_of_no_inferno {T : Terms} {st : Store} (normal : st.1.bInfernoBank = false)
    (rows : ∀ r ∈ st.2.guildBank, r.isInferno = false) : st.Clear T := by
  have none : ∀ guid, ¬ st.Foreign guid := by
    rintro guid ⟨r, row, -, inferno, -⟩
    rw [rows r row, normal] at inferno
    exact inferno rfl
  exact ⟨fun x _ _ => none x.guid, fun guid _ => none guid⟩

theorem moved_row_is_item :
    ((run (step plainEnv) guildWorld moveAndSave).bank false).bItemUpdateQueue = [] ∧
      ((run (step plainEnv) guildWorld moveAndSave).bank false).InStep
        (run (step plainEnv) guildWorld moveAndSave).db.guildBank := by
  have drained : ((run (step plainEnv) guildWorld moveAndSave).bank false).bItemUpdateQueue =
      [] := by
    decide +kernel
  refine ⟨drained, ((rows_are_items_when_drained plainEnv 1 false guildWorld moveAndSave
    guildWorld_fresh ⟨⟨fun _ => ?_, fun unlocks => ?_⟩, ?_, trivial⟩) moveAndSave
    List.prefix_rfl).2 drained⟩
  · have only : handlers "MoveItem:1:1:2".toList = [.moveItem] := by decide +kernel
    rw [only]
    refine ⟨⟨clear_of_no_inferno (by decide +kernel) (by decide +kernel), fun _ =>
      ⟨handlerTerms_room (by decide +kernel), moveItem_swaps_not⟩⟩, trivial⟩
  · exact absurd unlocks (by decide +kernel)
  · have clear : Store.Clear (handlerTerms plainEnv [] fullPurse .getBankInfo)
        ((step plainEnv guildWorld (.message 7 1000000 10 true
          "MoveItem:1:1:2".toList)).store false) :=
      clear_of_no_inferno (by decide +kernel) (by decide +kernel)
    exact ⟨.inr (.inr clear.queue), fun _ => clear.queue⟩

/-- A swap onto the only item of the bank: the deposited stack stays in memory, its row is
deleted. -/
theorem swapped_row_deleted :
    let w := step plainEnv guildWorld
      (.message 7 1000000 10 true "DepositItem:0:1:1:1:3".toList)
    guildWorld.Fresh 1 false ∧ (w.bank false).bItemUpdateQueue = [] ∧
      (w.bank false).bItems.map BankItem.brief = [(1, 1, 1, 200, 3)] ∧
      (w.bank false).ownRows w.db.guildBank = [] :=
  ⟨guildWorld_fresh, by decide +kernel, by decide +kernel, by decide +kernel⟩

end TortoiseWow.GuildBank
