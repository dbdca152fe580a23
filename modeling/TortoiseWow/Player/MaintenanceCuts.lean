import Mathlib
import TortoiseWow.Lib.KeyedWrites
import TortoiseWow.Lib.Table
import TortoiseWow.Player.HonorMaintenance

/-!
What a maintenance has done when it is stopped after some of its statements: it
has updated the first ones of its characters, with their scores; rows are deleted
only after all updates, the marker falls after that, and the days come last.
-/

namespace TortoiseWow.HonorMaintenance

open Lib

variable {P : Type}

section Accounts

/-- What a week changes of a character. -/
structure Account (P : Type) where
  rankPoints : P
  storedHK : Nat
  storedDK : Nat

def Character.account (c : Character P) : Account P :=
  ⟨c.honorRankPoints, c.honorStoredHK, c.honorStoredDK⟩

namespace Database

def keys (db : Database P) : List UInt32 := db.characters.map (·.guid)

def account (db : Database P) (guid : UInt32) : Option (Account P) :=
  (rowAt (·.guid) guid db.characters).map (·.account)

theorem account_map {h : Character P → Character P} (same : ∀ c, (h c).guid = c.guid)
    (db : Database P) (guid : UInt32) :
    ({ db with characters := db.characters.map h }).account guid =
      (rowAt (·.guid) guid db.characters).map fun c => (h c).account := by
  rw [account, rowAt_map _ same, Option.map_map]
  rfl

theorem keys_map {h : Character P → Character P} (same : ∀ c, (h c).guid = c.guid)
    (db : Database P) :
    ({ db with characters := db.characters.map h }).keys = db.keys :=
  map_key_map _ same db.characters

theorem account_update {f : Character P → Character P} (same : ∀ c, (f c).guid = c.guid)
    (db : Database P) (target guid : UInt32) :
    (db.updateCharacter target f).account guid =
      if guid = target then (rowAt (·.guid) guid db.characters).map fun c => (f c).account
      else db.account guid := by
  have keep (c : Character P) : (if c.guid = target then f c else c).guid = c.guid := by
    split
    · exact same c
    · rfl
  refine (account_map keep db guid).trans ?_
  split
  · rename_i hit
    apply Option.map_congr
    intro c row
    rw [if_pos ((key_of_rowAt _ row).trans hit)]
  · rename_i miss
    apply Option.map_congr
    intro c row
    rw [if_neg fun there => miss ((key_of_rowAt _ row).symm.trans there)]

theorem keys_update {f : Character P → Character P} (same : ∀ c, (f c).guid = c.guid)
    (db : Database P) (target : UInt32) : (db.updateCharacter target f).keys = db.keys := by
  apply keys_map
  intro c
  split
  · exact same c
  · rfl

theorem account_eq_none {db : Database P} {guid : UInt32} :
    db.account guid = none ↔ guid ∉ db.keys := by
  rw [account, Option.map_eq_none_iff, rowAt_eq_none, keys]

theorem account_of_mem {db : Database P} (distinct : db.keys.Nodup) {c : Character P}
    (mem : c ∈ db.characters) : db.account c.guid = some c.account := by
  rw [account, rowAt_of_mem _ distinct mem, Option.map_some]

theorem mem_of_account {db : Database P} {guid : UInt32} {a : Account P}
    (found : db.account guid = some a) : ∃ c ∈ db.characters, c.guid = guid ∧ c.account = a := by
  obtain ⟨c, row, rfl⟩ := Option.map_eq_some_iff.mp found
  exact ⟨c, mem_of_rowAt _ row, key_of_rowAt _ row, rfl⟩

end Database

end Accounts

section Statements

variable (rules : Rules P)

structure Alike (db db' : Database P) : Prop where
  keys : db'.keys = db.keys
  account : ∀ guid, db'.account guid = db.account guid
  honorCP : db'.honorCP = db.honorCP
  last : db'.lastHonorMaintenanceDay = db.lastHonorMaintenanceDay
  next : db'.nextHonorMaintenanceDay = db.nextHonorMaintenanceDay
  marker : db'.honorMaintenanceMarker = db.honorMaintenanceMarker

theorem Alike.refl (db : Database P) : Alike db db := ⟨rfl, fun _ => rfl, rfl, rfl, rfl, rfl⟩

theorem Alike.trans {a b c : Database P} (h : Alike a b) (h' : Alike b c) : Alike a c where
  keys := h'.keys.trans h.keys
  account guid := (h'.account guid).trans (h.account guid)
  honorCP := h'.honorCP.trans h.honorCP
  last := h'.last.trans h.last
  next := h'.next.trans h.next
  marker := h'.marker.trans h.marker

def Statement.isQuiet : Statement P → Bool
  | .resetStanding | .resetCityProtectors | .setCityProtector _ | .deleteDailyQuests => true
  | .flushScore _ _ _ | .deleteHonorCP _ | .setMarker _ | .setMaintenanceDays _ _ => false

theorem alike_map {h : Character P → Character P} (same : ∀ c, (h c).guid = c.guid)
    (accounts : ∀ c, (h c).account = c.account) (db : Database P) :
    Alike db { db with characters := db.characters.map h } where
  keys := Database.keys_map same db
  account guid := by
    rw [Database.account_map same, Database.account]
    exact congrArg (fun f => Option.map f (rowAt (·.guid) guid db.characters)) (funext accounts)
  honorCP := rfl
  last := rfl
  next := rfl
  marker := rfl

theorem alike_execute {statement : Statement P} (quiet : statement.isQuiet = true)
    (db : Database P) :
    Alike db (db.execute statement) := by
  cases statement with
  | resetStanding | resetCityProtectors =>
      apply alike_map
      · exact fun _ => rfl
      · exact fun _ => rfl
  | setCityProtector guid =>
      apply alike_map
      · intro c
        split <;> rfl
      · intro c
        split <;> rfl
  | deleteDailyQuests => exact Alike.refl db
  | flushScore _ _ _ | deleteHonorCP _ | setMarker _ | setMaintenanceDays _ _ =>
      exact absurd quiet Bool.false_ne_true

theorem alike_executeAll {statements : List (Statement P)}
    (quiet : ∀ statement ∈ statements, statement.isQuiet = true) (db : Database P) :
    Alike db (db.executeAll statements) := by
  induction statements generalizing db with
  | nil => exact Alike.refl db
  | cons statement statements ih =>
      have first := alike_execute (quiet statement List.mem_cons_self) db
      exact first.trans (ih (fun other mem => quiet other (List.mem_cons_of_mem _ mem)) _)

def flushed (score : WeeklyScore P) (a : Account P) : Account P :=
  ⟨rules.decayed score, a.storedHK + score.hk, a.storedDK + score.dk⟩

theorem keyedWrite_flushScore :
    KeyedWrite Database.account (fun db score => db.execute (flushScore rules score))
      (·.guid) (fun score a => a.map (flushed rules score)) where
  self db score := by
    rw [flushScore, Database.execute, Database.account_update (by exact fun _ => rfl), if_pos rfl,
      Database.account, Option.map_map]
    rfl
  other db score guid apart := by
    rw [flushScore, Database.execute, Database.account_update (by exact fun _ => rfl), if_neg apart]

end Statements

section Progress

variable {rules : Rules P}

theorem executeAll_append (db : Database P) (statements rest : List (Statement P)) :
    db.executeAll (statements ++ rest) = (db.executeAll statements).executeAll rest :=
  List.foldl_append

/-- Statements have updated the characters of `done`, the first ones of `scores`. -/
structure Progress (rules : Rules P) (week : Nat) (scores done : List (WeeklyScore P))
    (db db' : Database P) : Prop where
  part : done <+: scores
  keys : db'.keys = db.keys
  kept : ∀ guid, guid ∉ done.map (·.guid) → db'.account guid = db.account guid
  applied : ∀ score ∈ done, db'.account score.guid =
    (db.account score.guid).map (flushed rules score)
  rows : db'.honorCP = db.honorCP ∨
    done = scores ∧ db'.honorCP = db.honorCP.filter fun row => !decide (row.date < week + 6)

theorem Progress.alike {week : Nat} {scores done : List (WeeklyScore P)} {db db' db'' : Database P}
    (h : Progress rules week scores done db db') (same : Alike db' db'') :
    Progress rules week scores done db db'' where
  part := h.part
  keys := same.keys.trans h.keys
  kept guid left := (same.account guid).trans (h.kept guid left)
  applied score mem := (same.account score.guid).trans (h.applied score mem)
  rows := same.honorCP.symm ▸ h.rows

theorem executeAll_flush_rest (done : List (WeeklyScore P)) (db : Database P) :
    (db.executeAll (done.map (flushScore rules))).keys = db.keys ∧
      (db.executeAll (done.map (flushScore rules))).honorCP = db.honorCP ∧
      (db.executeAll (done.map (flushScore rules))).maintenancer = db.maintenancer := by
  induction done generalizing db with
  | nil => exact ⟨rfl, rfl, rfl⟩
  | cons score done ih =>
      have keys : (db.execute (flushScore rules score)).keys = db.keys := by
        rw [flushScore, Database.execute, Database.keys_update (by exact fun _ => rfl)]
      obtain ⟨rest, rows, days⟩ := ih (db.execute (flushScore rules score))
      exact ⟨rest.trans keys, rows, days⟩

theorem progress_flush {week : Nat} {scores done : List (WeeklyScore P)} (part : done <+: scores)
    (distinct : (scores.map (·.guid)).Nodup) (db : Database P) :
    Progress rules week scores done db (db.executeAll (done.map (flushScore rules))) := by
  obtain ⟨keys, rows, -⟩ := @executeAll_flush_rest P rules done db
  have fold : db.executeAll (done.map (flushScore rules)) =
      done.foldl (fun db score => db.execute (flushScore rules score)) db := List.foldl_map
  have distinct : (done.map (·.guid)).Nodup := distinct.sublist (part.sublist.map _)
  refine ⟨part, keys, ?_, ?_, Or.inl rows⟩
  · intro guid left
    rw [fold]
    exact (keyedWrite_flushScore rules).foldl_other left db
  · intro score mem
    rw [fold]
    exact (keyedWrite_flushScore rules).foldl_self distinct mem db

theorem updatedBy_append (statements rest : List (Statement P)) :
    updatedBy (statements ++ rest) = updatedBy statements ++ updatedBy rest :=
  List.filterMap_append

theorem updatedBy_flush (done : List (WeeklyScore P)) :
    updatedBy (done.map (flushScore rules)) = done.map (·.guid) := by
  rw [updatedBy, List.filterMap_map]
  exact congrFun (List.filterMap_eq_map (f := fun score : WeeklyScore P => score.guid)) done

theorem updatedBy_quiet {statements : List (Statement P)}
    (quiet : ∀ statement ∈ statements, statement.isQuiet = true) : updatedBy statements = [] := by
  apply List.filterMap_eq_nil_iff.mpr
  intro statement mem
  have quiet := quiet statement mem
  cases statement with
  | flushScore _ _ _ => exact absurd quiet Bool.false_ne_true
  | resetStanding | deleteHonorCP _ | resetCityProtectors | setCityProtector _ | deleteDailyQuests
  | setMarker _ | setMaintenanceDays _ _ => rfl

theorem quiet_setCityRanks (db : Database P) :
    ∀ statement ∈ setCityRanks db, statement.isQuiet = true := by
  intro statement mem
  rcases List.mem_cons.mp mem with rfl | mem
  · rfl
  · obtain ⟨c, -, shape⟩ := List.mem_filterMap.mp mem
    split at shape
    · cases shape
      rfl
    · cases shape

/-- The statements up to the marker: the updates, and what follows them. -/
def front (rules : Rules P) (scores : List (WeeklyScore P)) : List (Statement P) :=
  .resetStanding :: scores.map (flushScore rules)

theorem executeAll_front (scores : List (WeeklyScore P)) (db : Database P) :
    ∃ first, Alike db first ∧
      db.executeAll (front rules scores) = first.executeAll (scores.map (flushScore rules)) :=
  ⟨db.execute .resetStanding, alike_execute rfl db, rfl⟩

theorem Progress.from_alike {week : Nat} {scores done : List (WeeklyScore P)}
    {db db' db'' : Database P}
    (same : Alike db db') (h : Progress rules week scores done db' db'') :
    Progress rules week scores done db db'' where
  part := h.part
  keys := h.keys.trans same.keys
  kept guid left := (h.kept guid left).trans (same.account guid)
  applied score mem := by
    rw [← same.account]
    exact h.applied score mem
  rows := same.honorCP ▸ h.rows

theorem progress_front {week : Nat} {scores done : List (WeeklyScore P)} (part : done <+: scores)
    (distinct : (scores.map (·.guid)).Nodup) (db : Database P) :
    Progress rules week scores done db (db.executeAll (front rules done)) ∧
      (db.executeAll (front rules done)).maintenancer = db.maintenancer := by
  obtain ⟨first, same, shape⟩ := @executeAll_front P rules done db
  rw [shape]
  have days : first.maintenancer = db.maintenancer := by
    rw [Database.maintenancer, same.last, same.next, same.marker, Database.maintenancer]
  exact ⟨(progress_flush part distinct first).from_alike same,
    (executeAll_flush_rest done first).2.2.trans days⟩

/-- The updates, the deletion of the rows, and what follows it. -/
def body (rules : Rules P) (week : Nat) (scores : List (WeeklyScore P))
    (quiet : List (Statement P)) :
    List (Statement P) :=
  front rules scores ++ .deleteHonorCP (week + 6) :: quiet

def closing (last next : Nat) : List (Statement P) :=
  [.setMarker false, .setMaintenanceDays last next]

/-- All updates are done and the rows are deleted; quiet statements may have followed. -/
theorem progress_deleted {week : Nat} {scores : List (WeeklyScore P)}
    (distinct : (scores.map (·.guid)).Nodup) {quiet : List (Statement P)}
    (still : ∀ statement ∈ quiet, statement.isQuiet = true) (db : Database P) :
    Progress rules week scores scores db
        (db.executeAll (body rules week scores quiet)) ∧
      (db.executeAll (body rules week scores quiet)).maintenancer =
        db.maintenancer := by
  obtain ⟨flushedAll, days⟩ :=
    @progress_front P rules week scores scores (List.prefix_refl scores) distinct db
  obtain ⟨first, same, shape⟩ := @executeAll_front P rules scores db
  rw [body, executeAll_append]
  have rows : (db.executeAll (front rules scores)).honorCP = db.honorCP := by
    rw [shape, (executeAll_flush_rest scores first).2.1, same.honorCP]
  generalize db.executeAll (front rules scores) = middle at flushedAll days rows
  have deleted :
    Progress rules week scores scores db (middle.execute (.deleteHonorCP (week + 6))) :=
    ⟨flushedAll.part, flushedAll.keys, flushedAll.kept, flushedAll.applied,
      Or.inr ⟨rfl, congrArg (List.filter _) rows⟩⟩
  have rest := alike_executeAll still (middle.execute (.deleteHonorCP (week + 6)))
  refine ⟨deleted.alike rest, ?_⟩
  refine Eq.trans ?_ days
  rw [Database.maintenancer]
  exact congr (congr (congrArg HonorMaintenancer.mk rest.last) rest.next) rest.marker

def dueScores (rules : Rules P) (db : Database P) : List (WeeklyScore P) :=
  rules.order (loadWeeklyScores rules db db.lastHonorMaintenanceDay)

theorem doMaintenance_shape (rules : Rules P) (db : Database P)
    (due : db.honorMaintenanceMarker = true) :
    ∃ quiet, (∀ statement ∈ quiet, statement.isQuiet = true) ∧
      db.maintenancer.doMaintenance rules db =
        body rules db.lastHonorMaintenanceDay (dueScores rules db) quiet ++
          closing db.nextHonorMaintenanceDay (db.nextHonorMaintenanceDay + 7) := by
  refine ⟨setCityRanks (db.executeAll (flushRankPoints rules db.lastHonorMaintenanceDay
      (dueScores rules db))) ++ [.deleteDailyQuests], ?_, ?_⟩
  · intro statement mem
    rcases List.mem_append.mp mem with city | quests
    · exact quiet_setCityRanks _ statement city
    · rw [List.mem_singleton.mp quests]
      rfl
  · have marked : ¬ db.maintenancer.markerToStart = false := by
      rw [Database.maintenancer, due]
      exact Bool.noConfusion
    rw [HonorMaintenancer.doMaintenance, if_neg marked]
    simp only [Database.maintenancer, due, flushRankPoints, body, closing, front, dueScores,
      Bool.not_true, List.append_assoc, List.cons_append, List.nil_append]

theorem updatedBy_front (done : List (WeeklyScore P)) :
    updatedBy (front rules done) = done.map (·.guid) := updatedBy_flush done

theorem updatedBy_body {week : Nat} {scores : List (WeeklyScore P)} {quiet : List (Statement P)}
    (still : ∀ statement ∈ quiet, statement.isQuiet = true) :
    updatedBy (body rules week scores quiet) = scores.map (·.guid) := by
  rw [body, updatedBy_append, updatedBy_front]
  exact (congrArg _ (updatedBy_quiet still)).trans (List.append_nil _)

/-- The scores whose updates are among the first `n` statements: one statement precedes them. -/
def updatedWithin (scores : List (WeeklyScore P)) (n : Nat) : List (WeeklyScore P) :=
  scores.take (n - 1)

/-- What the first `n` of `total` statements have done, when these are not all: the deletion of the
rows follows the updates, and only the last two statements change marker and days. -/
structure CutShort (rules : Rules P) (week : Nat) (scores : List (WeeklyScore P)) (db : Database P)
    (executed : List (Statement P)) (n total : Nat) : Prop where
  updated : updatedBy executed = (updatedWithin scores n).map (·.guid)
  progress : Progress rules week scores (updatedWithin scores n) db (db.executeAll executed)
  deleted : scores.length + 2 ≤ n →
    (db.executeAll executed).honorCP = db.honorCP.filter fun row => !decide (row.date < week + 6)
  held : n + 1 < total → (db.executeAll executed).maintenancer = db.maintenancer
  closed : total ≤ n + 1 → updatedWithin scores n = scores ∧
    (db.executeAll executed).maintenancer = { db.maintenancer with markerToStart := false }

theorem rows_body {week : Nat} {scores : List (WeeklyScore P)} {quiet : List (Statement P)}
    (still : ∀ statement ∈ quiet, statement.isQuiet = true) (db : Database P) :
    (db.executeAll (body rules week scores quiet)).honorCP =
      db.honorCP.filter fun row => !decide (row.date < week + 6) := by
  obtain ⟨first, same, shape⟩ := @executeAll_front P rules scores db
  have rows : (db.executeAll (front rules scores)).honorCP = db.honorCP := by
    rw [shape, (executeAll_flush_rest scores first).2.1, same.honorCP]
  rw [body, executeAll_append]
  exact (alike_executeAll still _).honorCP.trans (congrArg (List.filter _) rows)

theorem cutShort_take {scores : List (WeeklyScore P)} {quiet : List (Statement P)}
    {week last next : Nat}
    (distinct : (scores.map (·.guid)).Nodup)
    (still : ∀ statement ∈ quiet, statement.isQuiet = true) (db : Database P) {n : Nat}
    (early : n < (body rules week scores quiet ++ closing last next).length) :
    CutShort rules week scores db ((body rules week scores quiet ++ closing last next).take n) n
      (body rules week scores quiet ++ closing last next).length := by
  have total : (body rules week scores quiet ++ closing last next).length =
      (body rules week scores quiet).length + 2 := List.length_append
  have size : (body rules week scores quiet).length = scores.length + 2 + quiet.length := by
    rw [body, front, List.length_append, List.length_cons, List.length_cons, List.length_map]
    omega
  rcases Nat.lt_or_ge n (body rules week scores quiet).length.succ with before | after
  · have open_ : ¬ (body rules week scores quiet ++ closing last next).length ≤ n + 1 := by omega
    rw [List.take_append_of_le_length (Nat.le_of_lt_succ before), body]
    rcases Nat.lt_or_ge n (front rules scores).length.succ with within | beyond
    · have kept : ¬ scores.length + 2 ≤ n := by
        rw [front, List.length_cons, List.length_map] at within
        omega
      rw [List.take_append_of_le_length (Nat.le_of_lt_succ within)]
      cases n with
      | zero =>
          have nothing : Progress rules week scores [] db db :=
            ⟨List.nil_prefix, rfl, fun _ _ => rfl, fun _ none => (nomatch none), Or.inl rfl⟩
          exact ⟨rfl, nothing, fun all => absurd all kept, fun _ => rfl, fun all =>
            absurd all open_⟩
      | succ k =>
          have shape : (front rules scores).take (k + 1) = front rules (scores.take k) := by
            rw [front, List.take_succ_cons, ← List.map_take, front]
          rw [shape]
          obtain ⟨progress, days⟩ :=
            @progress_front P rules week scores _ (List.take_prefix k scores) distinct db
          exact ⟨updatedBy_front _, progress, fun all => absurd all kept, fun _ => days,
            fun all => absurd all open_⟩
    · obtain ⟨k, rfl⟩ := Nat.exists_eq_add_of_le beyond
      have shape : (front rules scores ++ Statement.deleteHonorCP (week + 6) :: quiet).take
          ((front rules scores).length.succ + k) = body rules week scores (quiet.take k) := by
        rw [Nat.succ_add, ← Nat.add_succ, List.take_length_add_append, List.take_succ_cons, body]
      have all : updatedWithin scores ((front rules scores).length.succ + k) = scores := by
        apply List.take_of_length_le
        rw [front, List.length_cons, List.length_map]
        omega
      rw [shape]
      have still : ∀ statement ∈ quiet.take k, statement.isQuiet = true :=
        fun statement mem => still statement (List.mem_of_mem_take mem)
      obtain ⟨progress, days⟩ := @progress_deleted P rules week scores distinct _ still db
      exact ⟨all.symm ▸ updatedBy_body still, all.symm ▸ progress, fun _ => rows_body still db,
        fun _ => days, fun all => absurd all open_⟩
  · -- all but the days
    have cut : n = (body rules week scores quiet).length + 1 := by omega
    have all : updatedWithin scores n = scores := by
      apply List.take_of_length_le
      omega
    have last : ¬ n + 1 < (body rules week scores quiet ++ closing last next).length := by omega
    rw [cut] at all last ⊢
    rw [List.take_length_add_append]
    obtain ⟨progress, days⟩ := @progress_deleted P rules week scores distinct _ still db
    refine ⟨?_, ?_, ?_, fun more => absurd more last, fun _ => ⟨all, ?_⟩⟩
    · rw [updatedBy_append, updatedBy_body still, all]
      exact List.append_nil _
    · rw [executeAll_append, all]
      exact ⟨progress.part, progress.keys, progress.kept, progress.applied, progress.rows⟩
    · rw [executeAll_append]
      exact fun _ => rows_body still db
    · rw [executeAll_append]
      exact congrArg (fun m => { m with markerToStart := false }) days

theorem progress_whole {scores : List (WeeklyScore P)} {quiet : List (Statement P)}
    {week last next : Nat}
    (distinct : (scores.map (·.guid)).Nodup)
    (still : ∀ statement ∈ quiet, statement.isQuiet = true) (db : Database P) :
    updatedBy (body rules week scores quiet ++ closing last next) = scores.map (·.guid) ∧
      Progress rules week scores scores db
        (db.executeAll (body rules week scores quiet ++ closing last next)) ∧
      (db.executeAll (body rules week scores quiet ++ closing last next)).maintenancer =
        ⟨last, next, false⟩ := by
  obtain ⟨progress, -⟩ := @progress_deleted P rules week scores distinct _ still db
  rw [executeAll_append]
  refine ⟨?_, ⟨progress.part, progress.keys, progress.kept, progress.applied, progress.rows⟩, rfl⟩
  rw [updatedBy_append, updatedBy_body still]
  exact List.append_nil _

end Progress

end TortoiseWow.HonorMaintenance
