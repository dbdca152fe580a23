import Mathlib
import TortoiseWow.Lib.Run
import TortoiseWow.Player.MaintenanceCuts

/-!
When a week of honor is applied once. The statements of a maintenance have no
common transaction, so a stop between them leaves some characters updated. The next
start does no harm just when it does not update them again; then every week is
applied once to every character over all restarts.
-/

namespace TortoiseWow.HonorMaintenance

open Lib

variable {P : Type} {rules : Rules P}

section Scores

variable {db : Database P} {week : Nat} {guid : UInt32}

/-- The characters that a maintenance of the week updates. -/
def scoredGuids (rules : Rules P) (db : Database P) (week : Nat) : List UInt32 :=
  (loadWeeklyScores rules db week).map (·.guid)

theorem scoredGuids_eq (rules : Rules P) (db : Database P) (week : Nat) :
    scoredGuids rules db week = (db.characters.filter (isScored rules db week)).map (·.guid) := by
  rw [scoredGuids, loadWeeklyScores, List.map_map]
  rfl

theorem scoredGuids_nodup (distinct : db.keys.Nodup) : (scoredGuids rules db week).Nodup := by
  rw [scoredGuids_eq]
  exact distinct.sublist (List.Sublist.map _ List.filter_sublist)

theorem mem_scoredGuids (distinct : db.keys.Nodup) :
    guid ∈ scoredGuids rules db week ↔ ∃ a, db.account guid = some a ∧
      (rules.isPositive a.rankPoints = true ∨ weekOf db week guid ≠ []) := by
  rw [scoredGuids_eq, List.mem_map]
  constructor
  · rintro ⟨c, mem, rfl⟩
    obtain ⟨mem, scored⟩ := List.mem_filter.mp mem
    refine ⟨c.account, Database.account_of_mem distinct mem, ?_⟩
    rw [isScored, Bool.or_eq_true, Bool.not_eq_true', List.isEmpty_eq_false_iff] at scored
    exact scored
  · rintro ⟨a, found, scored⟩
    obtain ⟨c, mem, rfl, rfl⟩ := Database.mem_of_account found
    refine ⟨c, List.mem_filter.mpr ⟨mem, ?_⟩, rfl⟩
    rw [isScored, Bool.or_eq_true, Bool.not_eq_true', List.isEmpty_eq_false_iff]
    exact scored

theorem score_kills {score : WeeklyScore P} (mem : score ∈ loadWeeklyScores rules db week) :
    score.hk = (weekOf db week score.guid).countP (fun row => row.type = honorable) ∧
      score.dk = (weekOf db week score.guid).countP fun row => row.type = dishonorable := by
  obtain ⟨c, -, rfl⟩ := List.mem_map.mp mem
  exact ⟨rfl, rfl⟩

theorem mem_withRankPoints (distinct : db.keys.Nodup) :
    guid ∈ Server.withRankPoints rules db ↔
      ∃ a, db.account guid = some a ∧ rules.isPositive a.rankPoints = true := by
  rw [Server.withRankPoints, List.mem_map]
  constructor
  · rintro ⟨c, mem, rfl⟩
    obtain ⟨mem, positive⟩ := List.mem_filter.mp mem
    exact ⟨c.account, Database.account_of_mem distinct mem, positive⟩
  · rintro ⟨a, found, positive⟩
    obtain ⟨c, mem, rfl, rfl⟩ := Database.mem_of_account found
    exact ⟨c, List.mem_filter.mpr ⟨mem, positive⟩, rfl⟩

end Scores

section Kills

def killsBefore (saved : List (HonorCP P)) (guid : UInt32) (type : UInt8) (day : Nat) : Nat :=
  saved.countP fun row => decide (row.guid = guid ∧ row.type = type ∧ row.date < day)

theorem killsBefore_week (saved : List (HonorCP P)) (guid : UInt32) (type : UInt8) (day : Nat) :
    killsBefore saved guid type (day + 7) = killsBefore saved guid type day +
      (saved.filter fun row => decide (row.guid = guid) && inWeek day row).countP
        fun row => row.type = type := by
  rw [killsBefore, killsBefore, List.countP_filter]
  induction saved with
  | nil => rfl
  | cons row saved ih =>
      have one :
        (if decide (row.guid = guid ∧ row.type = type ∧ row.date < day + 7) = true then 1 else 0) =
          (if decide (row.guid = guid ∧ row.type = type ∧ row.date < day) = true then 1 else 0) +
            if (decide (row.type = type) && (decide (row.guid = guid) && inWeek day row)) = true
              then 1
            else 0 := by
        by_cases mine : row.guid = guid ∧ row.type = type
        · simp only [inWeek, mine, true_and, decide_true, Bool.true_and, decide_eq_true_eq]
          split_ifs <;> omega
        · have not (p : Prop) : ¬ (row.guid = guid ∧ row.type = type ∧ p) :=
            fun h => mine ⟨h.1, h.2.1⟩
          simp only [not, decide_false, Bool.and_eq_true, decide_eq_true_eq]
          rw [if_neg Bool.false_ne_true, if_neg fun h => mine ⟨h.2.1, h.1⟩]
      rw [List.countP_cons, List.countP_cons, List.countP_cons, ih, one]
      exact Nat.add_add_add_comm _ _ _ _

theorem killsBefore_append_later {saved : List (HonorCP P)} {row : HonorCP P} {day : Nat}
    (later : day ≤ row.date) (guid : UInt32) (type : UInt8) :
    killsBefore (saved ++ [row]) guid type day = killsBefore saved guid type day := by
  have no : ¬ (row.guid = guid ∧ row.type = type ∧ row.date < day) := fun h => by omega
  rw [killsBefore, List.countP_append, List.countP_singleton,
    if_neg (by simpa using no), Nat.add_zero,
    killsBefore]

theorem killsBefore_of_stranger {saved : List (HonorCP P)} {guid : UInt32}
    (stranger : ∀ row ∈ saved, row.guid ≠ guid) (type : UInt8) (day : Nat) :
    killsBefore saved guid type day = 0 := by
  rw [killsBefore, List.countP_eq_zero]
  intro row mem counted
  exact stranger row mem (of_decide_eq_true counted).1

end Kills

section Invariant

def rowsFrom (day : Nat) (guid : UInt32) (rows : List (HonorCP P)) : List (HonorCP P) :=
  rows.filter fun row => decide (row.guid = guid) && decide (day ≤ row.date)

theorem weekOf_rowsFrom (db : Database P) (week : Nat) (guid : UInt32) :
    weekOf db week guid = (rowsFrom week guid db.honorCP).filter (inWeek week) := by
  rw [weekOf, rowsFrom, List.filter_filter]
  refine List.filter_congr fun row _ => ?_
  by_cases from_ : week ≤ row.date
  · simp [inWeek, from_, Bool.and_comm]
  · simp [inWeek, from_]

theorem rowsFrom_of_le {first day : Nat} (past : first ≤ day) (guid : UInt32)
    (rows : List (HonorCP P)) : rowsFrom day guid rows =
      (rowsFrom first guid rows).filter fun row => decide (day ≤ row.date) := by
  rw [rowsFrom, rowsFrom, List.filter_filter]
  apply List.filter_congr
  intro row _
  by_cases late : day ≤ row.date
  · simp [late, past.trans late]
  · simp [late]

/-- The first day whose kills the stored counters of a character do not have. -/
def Server.countedTo (s : Server P) (guid : UInt32) : Nat :=
  if (s.db.lastHonorMaintenanceDay, guid) ∈ s.applied then s.db.lastHonorMaintenanceDay + 7
  else s.db.lastHonorMaintenanceDay

/-- What restarts keep. While a week is under way some characters have been updated for it; the
next maintenance of the week leaves them out. -/
structure Kept (rules : Rules P) (first : Nat) (s : Server P) : Prop where
  days : s.db.lastHonorMaintenanceDay = first + 7 * s.finished
  next : s.db.nextHonorMaintenanceDay = s.db.lastHonorMaintenanceDay + 7
  synced : s.running = true → s.maintenancer = s.db.maintenancer
  today : s.db.lastHonorMaintenanceDay ≤ s.today
  up : s.running = true → s.db.lastHonorMaintenanceDay ≤ s.upSince
  marked : s.db.honorMaintenanceMarker = true → s.db.nextHonorMaintenanceDay ≤ s.today
  distinct : s.db.keys.Nodup
  owners : ∀ row ∈ s.saved, row.guid ∈ s.db.keys
  later : ∀ guid, rowsFrom s.db.nextHonorMaintenanceDay guid s.db.honorCP =
    rowsFrom s.db.nextHonorMaintenanceDay guid s.saved
  current : ∀ guid, (s.db.lastHonorMaintenanceDay, guid) ∉ s.applied →
    rowsFrom s.db.lastHonorMaintenanceDay guid s.db.honorCP =
      rowsFrom s.db.lastHonorMaintenanceDay guid s.saved
  kills : ∀ guid a, s.db.account guid = some a →
    a.storedHK = killsBefore s.saved guid honorable (s.countedTo guid) ∧
      a.storedDK = killsBefore s.saved guid dishonorable (s.countedTo guid)
  once : s.applied.Nodup
  weeks : ∀ p ∈ s.applied, p.1 ≤ s.db.lastHonorMaintenanceDay
  pending : ∀ guid, (s.db.lastHonorMaintenanceDay, guid) ∈ s.applied →
    s.running = false ∧ s.db.honorMaintenanceMarker = true ∧
      guid ∉ scoredGuids rules s.db s.db.lastHonorMaintenanceDay
  decays : ∀ p ∈ s.due, p.1 ≤ s.db.lastHonorMaintenanceDay ∧
    (p ∈ s.applied ∨ p.1 = s.db.lastHonorMaintenanceDay ∧ s.running = false ∧
      s.db.honorMaintenanceMarker = true ∧ p.2 ∈ Server.withRankPoints rules s.db)

variable {first : Nat} {s : Server P}

theorem Kept.idle (h : Kept rules first s) (up : s.running = true) (guid : UInt32) :
    (s.db.lastHonorMaintenanceDay, guid) ∉ s.applied := by
  intro applied
  exact absurd (up.symm.trans (h.pending guid applied).1) Bool.false_ne_true.symm

theorem Kept.weeks_append (h : Kept rules first s) (guids : List UInt32) :
    ∀ p ∈ s.applied ++ guids.map (s.db.lastHonorMaintenanceDay, ·),
      p.1 ≤ s.db.lastHonorMaintenanceDay := by
  intro p mem
  rcases List.mem_append.mp mem with old | new
  · exact h.weeks p old
  · obtain ⟨guid, -, rfl⟩ := List.mem_map.mp new
    exact le_refl _

theorem Kept.play (h : Kept rules first s) (up : s.running = true) {db : Database P}
    {m : HonorMaintenancer} {saved : List (HonorCP P)}
    (last : db.lastHonorMaintenanceDay = s.db.lastHonorMaintenanceDay)
    (next : db.nextHonorMaintenanceDay = s.db.nextHonorMaintenanceDay)
    (synced : m = db.maintenancer)
    (marked : db.honorMaintenanceMarker = true → s.db.nextHonorMaintenanceDay ≤ s.today)
    (distinct : db.keys.Nodup) (owners : ∀ row ∈ saved, row.guid ∈ db.keys)
    (rows : ∀ day guid, rowsFrom day guid s.db.honorCP = rowsFrom day guid s.saved →
      rowsFrom day guid db.honorCP = rowsFrom day guid saved)
    (kills : ∀ guid a, db.account guid = some a →
      a.storedHK = killsBefore saved guid honorable s.db.lastHonorMaintenanceDay ∧
        a.storedDK = killsBefore saved guid dishonorable s.db.lastHonorMaintenanceDay) :
    Kept rules first { s with db := db, maintenancer := m, saved := saved } := by
  have idle := h.idle up
  constructor
  · exact last.trans h.days
  · exact (next.trans h.next).trans (congrArg (· + 7) last.symm)
  · exact fun _ => synced
  · exact last ▸ h.today
  · exact fun up => last ▸ h.up up
  · exact fun set => next ▸ marked set
  · exact distinct
  · exact owners
  · intro guid
    rw [next]
    exact rows _ guid (h.later guid)
  · intro guid _
    rw [last]
    exact rows _ guid (h.current guid (idle guid))
  · intro guid a found
    have day : Server.countedTo { s with db := db, maintenancer := m, saved := saved } guid =
        s.db.lastHonorMaintenanceDay := by
      rw [Server.countedTo, last, if_neg (idle guid)]
    rw [day]
    exact kills guid a found
  · exact h.once
  · exact fun p mem => last ▸ h.weeks p mem
  · intro guid applied
    exact absurd (last ▸ applied) (idle guid)
  · intro p due
    obtain ⟨week, there⟩ := h.decays p due
    refine ⟨last ▸ week, Or.inl ?_⟩
    rcases there with applied | ⟨-, down, -⟩
    · exact applied
    · exact absurd (up.symm.trans down) Bool.false_ne_true.symm

theorem Kept.running_kills (h : Kept rules first s) (up : s.running = true) {guid : UInt32}
    {a : Account P}
    (found : s.db.account guid = some a) :
    a.storedHK = killsBefore s.saved guid honorable s.db.lastHonorMaintenanceDay ∧
      a.storedDK = killsBefore s.saved guid dishonorable s.db.lastHonorMaintenanceDay := by
  have kills := h.kills guid a found
  rw [Server.countedTo, if_neg (h.idle up guid)] at kills
  exact kills

theorem Kept.createCharacter (h : Kept rules first s) (up : s.running = true) {c : Character P}
    (fresh : c.guid ∉ s.db.keys) (noHK : c.honorStoredHK = 0) (noDK : c.honorStoredDK = 0) :
    Kept rules first { s with db := { s.db with characters := s.db.characters ++ [c] } } := by
  have keys : (s.db.characters ++ [c]).map (·.guid) = s.db.keys ++ [c.guid] := List.map_append
  refine h.play up rfl rfl (h.synced up) h.marked ?_ ?_ (fun _ _ same => same) ?_
  · rw [Database.keys, keys]
    exact List.nodup_append.mpr ⟨h.distinct, List.nodup_singleton _, by
      rintro a mem b new rfl
      exact fresh (List.mem_singleton.mp new ▸ mem)⟩
  · intro row mem
    rw [Database.keys, keys]
    exact List.mem_append_left _ (h.owners row mem)
  · intro guid a found
    rw [Database.account, rowAt, List.find?_append] at found
    cases old : s.db.characters.find? fun other => decide (other.guid = guid) with
    | some other =>
        rw [old, Option.some_or] at found
        have known : s.db.account guid = some a := by
          rw [Database.account, rowAt, old]
          exact found
        exact h.running_kills up known
    | none =>
        rw [old, Option.none_or] at found
        obtain ⟨new, one, rfl⟩ := Option.map_eq_some_iff.mp found
        have is_new : new = c := List.mem_singleton.mp (List.mem_of_find?_eq_some one)
        have same : new.guid = guid := by simpa using List.find?_some one
        rw [is_new] at same ⊢
        have stranger : ∀ row ∈ s.saved, row.guid ≠ guid :=
          fun row mem there => fresh (same.trans there.symm ▸ h.owners row mem)
        rw [killsBefore_of_stranger stranger, killsBefore_of_stranger stranger]
        exact ⟨noHK, noDK⟩

theorem Kept.saveHonorCP (h : Kept rules first s) (up : s.running = true) {row : HonorCP P}
    (owner : row.guid ∈ s.db.keys) (recent : s.upSince ≤ row.date) :
    Kept rules first
      { s with
        db := { s.db with honorCP := s.db.honorCP ++ [row] }
        saved := s.saved ++ [row] } := by
  have date : s.db.lastHonorMaintenanceDay ≤ row.date := (h.up up).trans recent
  refine h.play up rfl rfl (h.synced up) h.marked h.distinct ?_ ?_ ?_
  · intro other mem
    rcases List.mem_append.mp mem with old | new
    · exact h.owners other old
    · rw [List.mem_singleton.mp new]
      exact owner
  · intro day guid same
    rw [rowsFrom, List.filter_append, rowsFrom, List.filter_append]
    exact congrArg (· ++ _) same
  · intro guid a found
    rw [killsBefore_append_later date, killsBefore_append_later date]
    exact h.running_kills up found

theorem Kept.update (h : Kept rules first s) (up : s.running = true) (target : UInt32)
    {f : Character P → Character P} (same : ∀ c, (f c).guid = c.guid)
    (hk : ∀ c, (f c).honorStoredHK = c.honorStoredHK)
    (dk : ∀ c, (f c).honorStoredDK = c.honorStoredDK) :
    Kept rules first { s with db := s.db.updateCharacter target f } := by
  refine h.play up rfl rfl (h.synced up) h.marked ?_ ?_ (fun _ _ same => same) ?_
  · rw [Database.keys_update same]
    exact h.distinct
  · rw [Database.keys_update same]
    exact h.owners
  · intro guid a found
    rw [Database.account_update same] at found
    split at found
    · obtain ⟨c, row, rfl⟩ := Option.map_eq_some_iff.mp found
      have known : s.db.account guid = some c.account := by
        rw [Database.account, row, Option.map_some]
      have kills := h.running_kills up known
      exact ⟨(hk c).trans kills.1, (dk c).trans kills.2⟩
    · exact h.running_kills up found

theorem Kept.checkMaintenanceDay (h : Kept rules first s) (up : s.running = true)
    (past : s.maintenancer.nextMaintenanceDay ≤ s.today) :
    Kept rules first
      { s with
        db := s.db.execute (.setMarker true)
        maintenancer := { s.maintenancer with markerToStart := true } } := by
  have synced := h.synced up
  refine h.play up rfl rfl ?_ ?_ h.distinct h.owners (fun _ _ same => same)
    (fun guid a found => h.running_kills up found)
  · rw [synced]
    rfl
  · intro _
    rw [synced] at past
    exact past

theorem Kept.newDay (h : Kept rules first s) :
    Kept rules first { s with today := s.today + 1 } where
  days := h.days
  next := h.next
  synced := h.synced
  today := Nat.le_succ_of_le h.today
  up := h.up
  marked set := Nat.le_succ_of_le (h.marked set)
  distinct := h.distinct
  owners := h.owners
  later := h.later
  current := h.current
  kills := h.kills
  once := h.once
  weeks := h.weeks
  pending := h.pending
  decays := h.decays

section Restart

variable {scores done : List (WeeklyScore P)} {db : Database P}

def ScoresOf (rules : Rules P) (s : Server P) (scores : List (WeeklyScore P)) : Prop :=
  scores.Perm (loadWeeklyScores rules s.db s.db.lastHonorMaintenanceDay)

theorem ScoresOf.mem_iff (load : ScoresOf rules s scores) {guid : UInt32} :
    guid ∈ scores.map (·.guid) ↔ guid ∈ scoredGuids rules s.db s.db.lastHonorMaintenanceDay :=
  (load.map _).mem_iff

theorem ScoresOf.nodup (load : ScoresOf rules s scores) (h : Kept rules first s) :
    (scores.map (·.guid)).Nodup :=
  (load.map _).nodup_iff.mpr (scoredGuids_nodup h.distinct)

theorem week_ext {week : Nat} {guid : UInt32} {rows saved : List (HonorCP P)}
    (same : rowsFrom week guid rows = rowsFrom week guid saved) (type : UInt8) :
    killsBefore saved guid type (week + 7) = killsBefore saved guid type week +
      ((rowsFrom week guid rows).filter (inWeek week)).countP fun row => row.type = type := by
  have saved_week : (saved.filter fun row => decide (row.guid = guid) && inWeek week row) =
      (rowsFrom week guid saved).filter (inWeek week) :=
    weekOf_rowsFrom ⟨[], saved, 0, 0, false⟩ week guid
  rw [killsBefore_week, saved_week, same]

variable (h : Kept rules first s) (load : ScoresOf rules s scores)
  (progress : Progress rules s.db.lastHonorMaintenanceDay scores done s.db db)
include h load progress

omit h in
theorem scored_of_done {guid : UInt32} (mem : guid ∈ done.map (·.guid)) :
    guid ∈ scoredGuids rules s.db s.db.lastHonorMaintenanceDay :=
  load.mem_iff.mp ((progress.part.sublist.map _).subset mem)

/-- Nobody is updated twice for the week. -/
theorem fresh_of_done {guid : UInt32} (mem : guid ∈ done.map (·.guid)) :
    (s.db.lastHonorMaintenanceDay, guid) ∉ s.applied :=
  fun applied => (h.pending guid applied).2.2 (scored_of_done load progress mem)

theorem applied_nodup :
    (s.applied ++ (done.map (·.guid)).map (s.db.lastHonorMaintenanceDay, ·)).Nodup := by
  have distinct : (done.map (·.guid)).Nodup := (load.nodup h).sublist (progress.part.sublist.map _)
  refine List.nodup_append.mpr ⟨h.once, distinct.map fun _ _ same => (Prod.mk.inj same).2, ?_⟩
  rintro p old q new rfl
  obtain ⟨guid, mem, rfl⟩ := List.mem_map.mp new
  exact fresh_of_done h load progress mem old

theorem kills_of_progress {guid : UInt32} {a : Account P} (found : db.account guid = some a) :
    let day :=
      if (s.db.lastHonorMaintenanceDay, guid) ∈
          s.applied ++ (done.map (·.guid)).map (s.db.lastHonorMaintenanceDay, ·) then
        s.db.lastHonorMaintenanceDay + 7
      else s.db.lastHonorMaintenanceDay
    a.storedHK = killsBefore s.saved guid honorable day ∧
      a.storedDK = killsBefore s.saved guid dishonorable day := by
  intro day
  by_cases mem : guid ∈ done.map (·.guid)
  · have isLater : day = s.db.lastHonorMaintenanceDay + 7 :=
      if_pos (List.mem_append_right _ (List.mem_map.mpr ⟨guid, mem, rfl⟩))
    have idle := fresh_of_done h load progress mem
    obtain ⟨score, listed, rfl⟩ := List.mem_map.mp mem
    rw [progress.applied score listed] at found
    obtain ⟨old, known, rfl⟩ := Option.map_eq_some_iff.mp found
    have before := h.kills _ old known
    rw [Server.countedTo, if_neg idle] at before
    obtain ⟨hk, dk⟩ := score_kills ((List.Perm.mem_iff load).mp (progress.part.subset listed))
    have current := h.current _ idle
    rw [isLater, week_ext current, week_ext current, ← weekOf_rowsFrom, ← before.1,
      ← before.2, ← hk, ← dk]
    exact ⟨rfl, rfl⟩
  · rw [progress.kept guid mem] at found
    have same : day = s.countedTo guid := by
      have left : (s.db.lastHonorMaintenanceDay, guid) ∉
          (done.map (·.guid)).map (s.db.lastHonorMaintenanceDay, ·) := by
        intro there
        obtain ⟨other, listed, same⟩ := List.mem_map.mp there
        cases same
        exact mem listed
      simp only [day, Server.countedTo, List.mem_append, left, or_false]
    rw [same]
    exact h.kills guid a found

omit h load in
theorem later_of_progress (guid : UInt32) {day : Nat}
    (later : s.db.lastHonorMaintenanceDay + 6 ≤ day) :
    rowsFrom day guid db.honorCP = rowsFrom day guid s.db.honorCP := by
  rcases progress.rows with same | ⟨-, deleted⟩
  · rw [same]
  · rw [deleted, rowsFrom, List.filter_filter, rowsFrom]
    apply List.filter_congr
    intro row _
    by_cases from_ : day ≤ row.date
    · have kept : ¬ row.date < s.db.lastHonorMaintenanceDay + 6 := by omega
      simp [kept]
    · simp [from_]

omit load progress in
theorem no_rows_of_unscored {guid : UInt32} (known : guid ∈ s.db.keys)
    (unscored : guid ∉ scoredGuids rules s.db s.db.lastHonorMaintenanceDay) :
    weekOf s.db s.db.lastHonorMaintenanceDay guid = [] := by
  by_contra some
  cases found : s.db.account guid with
  | none => exact Database.account_eq_none.mp found known
  | some a => exact unscored ((mem_scoredGuids h.distinct).mpr ⟨a, found, Or.inr some⟩)

omit progress in
/-- When all scores are flushed, a character that was never updated has no row in the week. -/
theorem week_empty (all : done = scores) {guid : UInt32} (left : guid ∉ done.map (·.guid))
    (idle : (s.db.lastHonorMaintenanceDay, guid) ∉ s.applied) :
    weekOf s.db s.db.lastHonorMaintenanceDay guid = [] := by
  by_cases known : guid ∈ s.db.keys
  · rw [all] at left
    exact no_rows_of_unscored h known fun scored => left (load.mem_iff.mpr scored)
  · have nothing : rowsFrom s.db.lastHonorMaintenanceDay guid s.saved = [] := by
      apply List.filter_eq_nil_iff.mpr
      intro row mem hit
      have mine : row.guid = guid := of_decide_eq_true (Bool.and_eq_true_iff.mp hit).1
      exact known (mine ▸ h.owners row mem)
    rw [weekOf_rowsFrom, h.current guid idle, nothing, List.filter_nil]

theorem current_of_progress {guid : UInt32} (left : guid ∉ done.map (·.guid))
    (idle : (s.db.lastHonorMaintenanceDay, guid) ∉ s.applied) :
    rowsFrom s.db.lastHonorMaintenanceDay guid db.honorCP =
      rowsFrom s.db.lastHonorMaintenanceDay guid s.saved := by
  rw [← h.current guid idle]
  rcases progress.rows with same | ⟨all, deleted⟩
  · rw [same]
  · have none := week_empty h load all left idle
    rw [deleted, rowsFrom, List.filter_filter, rowsFrom]
    apply List.filter_congr
    intro row mem
    by_cases hit : row.guid = guid ∧ s.db.lastHonorMaintenanceDay ≤ row.date
    · have outside : ¬ row.date < s.db.lastHonorMaintenanceDay + 6 := by
        intro early
        have within : row ∈ weekOf s.db s.db.lastHonorMaintenanceDay guid := by
          refine List.mem_filter.mpr ⟨mem, ?_⟩
          simp only [inWeek, hit.1, decide_true, Bool.true_and, decide_eq_true_eq]
          omega
        rw [none] at within
        exact List.not_mem_nil within
      simp [outside]
    · have miss :
        (decide (row.guid = guid) && decide (s.db.lastHonorMaintenanceDay ≤ row.date)) = false := by
        rw [← Bool.decide_and]
        exact decide_eq_false hit
      rw [miss, Bool.false_and]

omit load in
theorem rankPoints_of_progress (distinct : db.keys.Nodup) {guid : UInt32}
    (positive : guid ∈ Server.withRankPoints rules s.db) (left : guid ∉ done.map (·.guid)) :
    guid ∈ Server.withRankPoints rules db := by
  rw [mem_withRankPoints h.distinct] at positive
  rw [mem_withRankPoints distinct, progress.kept guid left]
  exact positive

/-- Whoever was not to be updated is not to be updated now. -/
theorem unscored_of_progress (distinct : db.keys.Nodup) {guid : UInt32}
    (unscored : guid ∉ scoredGuids rules s.db s.db.lastHonorMaintenanceDay) :
    guid ∉ scoredGuids rules db s.db.lastHonorMaintenanceDay := by
  intro scored
  have left : guid ∉ done.map (·.guid) := fun mem => unscored (scored_of_done load progress mem)
  obtain ⟨a, found, points⟩ := (mem_scoredGuids distinct).mp scored
  rw [progress.kept guid left] at found
  refine unscored
    ((mem_scoredGuids h.distinct).mpr ⟨a, found, points.imp_right fun some none => some ?_⟩)
  apply List.eq_nil_of_subset_nil
  rw [← none, weekOf, weekOf]
  rcases progress.rows with same | ⟨-, deleted⟩
  · rw [same]
    exact List.Subset.refl _
  · rw [deleted, List.filter_filter]
    intro row mem
    obtain ⟨mem, hit⟩ := List.mem_filter.mp mem
    exact List.mem_filter.mpr ⟨mem, (Bool.and_eq_true_iff.mp hit).1⟩

end Restart

theorem Kept.restart_unmarked (h : Kept rules first s)
    (unmarked : s.db.honorMaintenanceMarker = false)
    (cut : Option Nat) : Kept rules first (s.restart rules cut) := by
  have statements : s.statements rules = [] := if_pos unmarked
  have executed : s.executed rules cut = [] := by
    cases cut with
    | none => exact statements
    | some n => exact (congrArg (List.take n) statements).trans List.take_nil
  have restarted : s.restart rules cut =
      { s with maintenancer := s.db.maintenancer, running := cut.isNone, upSince := s.today } := by
    have same : s.db.maintenancer.maintained = s.db.maintenancer := if_pos unmarked
    simp only [Server.restart, executed, unmarked, same, Database.executeAll, updatedBy,
      List.foldl_nil,
      List.filterMap_nil, List.map_nil, List.append_nil, Bool.false_eq_true, if_false, false_and]
  rw [restarted]
  have idle (guid : UInt32) : (s.db.lastHonorMaintenanceDay, guid) ∉ s.applied := by
    intro applied
    exact absurd (unmarked.symm.trans (h.pending guid applied).2.1) Bool.false_ne_true
  refine ⟨h.days, h.next, fun _ => rfl, h.today, fun _ =>
    h.today, h.marked, h.distinct, h.owners, h.later,
    h.current, h.kills, h.once, h.weeks, fun guid applied => absurd applied (idle guid), ?_⟩
  intro p due
  obtain ⟨week, there⟩ := h.decays p due
  refine ⟨week, Or.inl ?_⟩
  rcases there with applied | ⟨-, -, marked, -⟩
  · exact applied
  · exact absurd (unmarked.symm.trans marked) Bool.false_ne_true

/-- The due characters that are not updated yet, after a part of the updates. -/
theorem Kept.due_of_progress (h : Kept rules first s) (done : List (WeeklyScore P))
    {p : Nat × UInt32}
    (due : p ∈ s.due ++ (Server.withRankPoints rules s.db).map (s.db.lastHonorMaintenanceDay, ·)) :
    p.1 ≤ s.db.lastHonorMaintenanceDay ∧
      (p ∈ s.applied ++ (done.map (·.guid)).map (s.db.lastHonorMaintenanceDay, ·) ∨
        p.1 = s.db.lastHonorMaintenanceDay ∧ p.2 ∉ done.map (·.guid) ∧
          p.2 ∈ Server.withRankPoints rules s.db) := by
  have place (positive : p.2 ∈ Server.withRankPoints rules s.db)
      (week : p.1 = s.db.lastHonorMaintenanceDay) :
      p ∈ s.applied ++ (done.map (·.guid)).map (s.db.lastHonorMaintenanceDay, ·) ∨
        p.1 = s.db.lastHonorMaintenanceDay ∧ p.2 ∉ done.map (·.guid) ∧
          p.2 ∈ Server.withRankPoints rules s.db := by
    by_cases mem : p.2 ∈ done.map (·.guid)
    · exact Or.inl (List.mem_append_right _ (List.mem_map.mpr ⟨p.2, mem, Prod.ext week.symm rfl⟩))
    · exact Or.inr ⟨week, mem, positive⟩
  rcases List.mem_append.mp due with old | new
  · obtain ⟨week, applied | ⟨same, -, -, positive⟩⟩ := h.decays p old
    · exact ⟨week, Or.inl (List.mem_append_left _ applied)⟩
    · exact ⟨week, place positive same⟩
  · obtain ⟨guid, positive, rfl⟩ := List.mem_map.mp new
    exact ⟨le_refl _, place positive rfl⟩

theorem Kept.restart_whole (h : Kept rules first s) (marked : s.db.honorMaintenanceMarker = true)
    {cut : Option Nat} (whole : s.executed rules cut = s.statements rules) :
    Kept rules first (s.restart rules cut) := by
  obtain ⟨quiet, still, shape⟩ := doMaintenance_shape rules s.db marked
  have load : ScoresOf rules s (dueScores rules s.db) := rules.order_perm _
  generalize dueScores rules s.db = scores at shape load
  obtain ⟨updated, progress, days⟩ :=
    @progress_whole P rules scores quiet s.db.lastHonorMaintenanceDay
    s.db.nextHonorMaintenanceDay (s.db.nextHonorMaintenanceDay + 7) (load.nodup h) still s.db
  rw [← shape] at updated progress days
  have shape : s.executed rules cut = s.db.maintenancer.doMaintenance rules s.db := whole
  have restarted : s.restart rules cut =
      { s with
        db := s.db.executeAll (s.db.maintenancer.doMaintenance rules s.db)
        maintenancer := s.db.maintenancer.maintained
        running := cut.isNone
        upSince := s.today
        due := s.due ++ (Server.withRankPoints rules s.db).map (s.db.lastHonorMaintenanceDay, ·)
        applied := s.applied ++ (scores.map (·.guid)).map (s.db.lastHonorMaintenanceDay, ·)
        finished := s.finished + 1 } := by
    rw [Server.restart, shape, updated, if_pos marked, if_pos ⟨marked, rfl⟩]
  rw [restarted]
  generalize s.db.executeAll (s.db.maintenancer.doMaintenance rules s.db) = db at progress days
  have last : db.lastHonorMaintenanceDay = s.db.nextHonorMaintenanceDay :=
    congrArg HonorMaintenancer.lastMaintenanceDay days
  have next : db.nextHonorMaintenanceDay = s.db.nextHonorMaintenanceDay + 7 :=
    congrArg HonorMaintenancer.nextMaintenanceDay days
  have marker : db.honorMaintenanceMarker = false := congrArg HonorMaintenancer.markerToStart days
  have weeks := h.weeks_append (scores.map (·.guid))
  have idle (guid : UInt32) : (db.lastHonorMaintenanceDay, guid) ∉
      s.applied ++ (scores.map (·.guid)).map (s.db.lastHonorMaintenanceDay, ·) := by
    intro mem
    have bound := weeks _ mem
    simp only [last, h.next] at bound
    omega
  have later (guid : UInt32) {day : Nat} (past : s.db.nextHonorMaintenanceDay ≤ day) :
      rowsFrom day guid db.honorCP = rowsFrom day guid s.saved := by
    have bound : s.db.lastHonorMaintenanceDay + 6 ≤ day := by
      rw [h.next] at past
      omega
    rw [later_of_progress progress guid bound]
    rw [rowsFrom_of_le past, h.later guid, ← rowsFrom_of_le past]
  constructor
  · simp only [last, h.next, h.days]
    omega
  · simp only [next, last]
  · intro _
    rw [days, HonorMaintenancer.maintained,
      if_neg (by rw [Database.maintenancer, marked]; exact Bool.noConfusion)]
    simp only [Database.maintenancer, marked, Bool.not_true]
  · rw [last]
    exact h.marked marked
  · intro _
    rw [last]
    exact h.marked marked
  · intro set
    exact absurd (marker.symm.trans set) Bool.false_ne_true
  · rw [progress.keys]
    exact h.distinct
  · rw [progress.keys]
    exact h.owners
  · intro guid
    rw [next]
    exact later guid (Nat.le_add_right _ _)
  · intro guid _
    rw [last]
    exact later guid (le_refl _)
  · intro guid a found
    have kills := kills_of_progress h load progress found
    rw [Server.countedTo, if_neg (idle guid)]
    simp only [last, h.next]
    split at kills
    · exact kills
    · rename_i left
      rw [List.mem_append, not_or] at left
      have unscored : guid ∉ scores.map (·.guid) :=
        fun mem => left.2 (List.mem_map.mpr ⟨guid, mem, rfl⟩)
      have empty := week_empty h load rfl unscored left.1
      have current := h.current guid left.1
      rw [week_ext current, week_ext current, ← weekOf_rowsFrom, empty]
      exact kills
  · exact applied_nodup h load progress
  · intro p mem
    rw [last, h.next]
    exact (weeks p mem).trans (Nat.le_add_right _ _)
  · exact fun guid applied => absurd applied (idle guid)
  · intro p due
    obtain ⟨week, applied | ⟨-, left, positive⟩⟩ := h.due_of_progress scores due
    · rw [last, h.next]
      exact ⟨week.trans (Nat.le_add_right _ _), Or.inl applied⟩
    · obtain ⟨a, found, points⟩ := (mem_withRankPoints h.distinct).mp positive
      exact absurd
        (load.mem_iff.mpr ((mem_scoredGuids h.distinct).mpr ⟨a, found, Or.inl points⟩)) left

/-- A stop after `n` statements after which every restart is safe: all statements were executed, or
nobody whom they updated would be updated again for the week. The marker has to stay, unless there
was nobody to update; and who was updated decays to no rank points and has no row of the week, or
none but those that the deletion has reached. -/
def SafeCut (rules : Rules P) (s : Server P) (n : Nat) : Prop :=
  (s.statements rules).length ≤ n ∨
    (n + 1 < (s.statements rules).length ∨
        dueScores rules s.db = [] ∧ ∀ p ∈ s.applied, p.1 ≠ s.db.lastHonorMaintenanceDay) ∧
      ∀ score ∈ updatedWithin (dueScores rules s.db) n,
        rules.isPositive (rules.decayed score) = false ∧
          ∀ row ∈ weekOf s.db s.db.lastHonorMaintenanceDay score.guid,
            (dueScores rules s.db).length + 2 ≤ n ∧ row.date < s.db.lastHonorMaintenanceDay + 6

theorem unscored_of_cutShort {executed : List (Statement P)} {week n total : Nat}
    {scores : List (WeeklyScore P)} {db : Database P}
    (cut : CutShort rules week scores db executed n total) (distinct : db.keys.Nodup)
    (safe : ∀ score ∈ updatedWithin scores n, rules.isPositive (rules.decayed score) = false ∧
      ∀ row ∈ weekOf db week score.guid, scores.length + 2 ≤ n ∧ row.date < week + 6) :
    ∀ guid ∈ updatedBy executed, guid ∉ scoredGuids rules (db.executeAll executed) week := by
  intro guid updated
  have progress := cut.progress
  have unique : (db.executeAll executed).keys.Nodup := progress.keys ▸ distinct
  rw [cut.updated] at updated
  obtain ⟨score, mem, rfl⟩ := List.mem_map.mp updated
  obtain ⟨decayed, rows⟩ := safe score mem
  intro scored
  obtain ⟨a, found, positive | left⟩ := (mem_scoredGuids unique).mp scored
  · rw [progress.applied score mem] at found
    obtain ⟨old, -, rfl⟩ := Option.map_eq_some_iff.mp found
    exact absurd (decayed.symm.trans positive) Bool.false_ne_true
  · obtain ⟨row, there⟩ := List.exists_mem_of_ne_nil _ left
    obtain ⟨mem, mine⟩ := List.mem_filter.mp there
    rcases progress.rows with same | ⟨-, deleted⟩
    · rw [same] at mem
      obtain ⟨late, early⟩ := rows row (List.mem_filter.mpr ⟨mem, mine⟩)
      rw [← same, cut.deleted late] at mem
      exact absurd (decide_eq_true early) (by simpa using (List.mem_filter.mp mem).2)
    · rw [deleted] at mem
      obtain ⟨mem, kept⟩ := List.mem_filter.mp mem
      obtain ⟨-, early⟩ := rows row (List.mem_filter.mpr ⟨mem, mine⟩)
      exact absurd (decide_eq_true early) (by simpa using kept)

theorem Kept.restart_cut (h : Kept rules first s)
    (marked : s.db.honorMaintenanceMarker = true) {n : Nat}
    (early : n < (s.statements rules).length)
    (held : n + 1 < (s.statements rules).length ∨
      dueScores rules s.db = [] ∧ ∀ p ∈ s.applied, p.1 ≠ s.db.lastHonorMaintenanceDay)
    (skipped : ∀ score ∈ updatedWithin (dueScores rules s.db) n,
      rules.isPositive (rules.decayed score) = false ∧
        ∀ row ∈ weekOf s.db s.db.lastHonorMaintenanceDay score.guid,
          (dueScores rules s.db).length + 2 ≤ n ∧ row.date < s.db.lastHonorMaintenanceDay + 6) :
    Kept rules first (s.restart rules (some n)) := by
  obtain ⟨quiet, still, shape⟩ := doMaintenance_shape rules s.db marked
  have load : ScoresOf rules s (dueScores rules s.db) := rules.order_perm _
  generalize dueScores rules s.db = scores at shape load held skipped
  have statements : s.statements rules = _ := shape
  rw [statements] at early
  have cut := cutShort_take (load.nodup h) still s.db early
  rw [← statements] at cut
  have unscored := unscored_of_cutShort cut h.distinct skipped
  obtain ⟨updated, progress, -, marker, closed⟩ := cut
  rw [updated] at unscored
  generalize updatedWithin scores n = done at updated progress closed unscored
  have short : ((s.statements rules).take n).length ≠ (s.statements rules).length := by
    rw [← statements] at early
    rw [List.length_take_of_le (Nat.le_of_lt early)]
    exact Nat.ne_of_lt early
  have restarted : s.restart rules (some n) =
      { s with
        db := s.db.executeAll ((s.statements rules).take n)
        maintenancer := s.db.maintenancer.maintained
        running := false
        upSince := s.today
        due := s.due ++ (Server.withRankPoints rules s.db).map (s.db.lastHonorMaintenanceDay, ·)
        applied := s.applied ++ (done.map (·.guid)).map (s.db.lastHonorMaintenanceDay, ·) } := by
    have executed : s.executed rules (some n) = (s.statements rules).take n := rfl
    rw [Server.restart, executed, updated, if_pos marked, if_neg fun all => short all.2]
    rfl
  rw [restarted]
  generalize s.db.executeAll ((s.statements rules).take n) = db at progress marker closed unscored
  have days : db.maintenancer = s.db.maintenancer ∨
      done = scores ∧ db.maintenancer = { s.db.maintenancer with markerToStart := false } := by
    rcases Nat.lt_or_ge (n + 1) (s.statements rules).length with more | all
    · exact Or.inl (marker more)
    · exact Or.inr (closed all)
  have last : db.lastHonorMaintenanceDay = s.db.lastHonorMaintenanceDay := by
    rcases days with same | ⟨-, same⟩
    · exact congrArg HonorMaintenancer.lastMaintenanceDay same
    · exact congrArg HonorMaintenancer.lastMaintenanceDay same
  have next : db.nextHonorMaintenanceDay = s.db.nextHonorMaintenanceDay := by
    rcases days with same | ⟨-, same⟩
    · exact congrArg HonorMaintenancer.nextMaintenanceDay same
    · exact congrArg HonorMaintenancer.nextMaintenanceDay same
  have distinct : db.keys.Nodup := progress.keys ▸ h.distinct
  constructor
  · exact last.trans h.days
  · exact (next.trans h.next).trans (congrArg (· + 7) last.symm)
  · exact fun up => absurd up Bool.false_ne_true
  · exact last ▸ h.today
  · exact fun up => absurd up Bool.false_ne_true
  · intro _
    rw [next]
    exact h.marked marked
  · exact distinct
  · rw [progress.keys]
    exact h.owners
  · intro guid
    have bound : s.db.lastHonorMaintenanceDay + 6 ≤ s.db.nextHonorMaintenanceDay := by
      rw [h.next]
      omega
    rw [next, later_of_progress progress guid bound]
    exact h.later guid
  · intro guid idle
    rw [last, List.mem_append, not_or] at idle
    have left : guid ∉ done.map (·.guid) := fun mem => idle.2 (List.mem_map.mpr ⟨guid, mem, rfl⟩)
    rw [last]
    exact current_of_progress h load progress left idle.1
  · intro guid a found
    have kills := kills_of_progress h load progress found
    rw [Server.countedTo, last]
    exact kills
  · exact applied_nodup h load progress
  · rw [last]
    exact h.weeks_append _
  · intro guid applied
    rw [last] at applied ⊢
    refine ⟨rfl, ?_, ?_⟩
    · rcases held with more | ⟨nobody, idle⟩
      · exact (congrArg HonorMaintenancer.markerToStart (marker more)).trans marked
      · have none : done = [] := List.prefix_nil.mp (nobody ▸ progress.part)
        rw [none, List.map_nil, List.map_nil, List.append_nil] at applied
        exact absurd rfl (idle _ applied)
    · rcases List.mem_append.mp applied with old | new
      · exact unscored_of_progress h load progress distinct (h.pending guid old).2.2
      · obtain ⟨other, mem, same⟩ := List.mem_map.mp new
        cases same
        exact unscored guid mem
  · intro p due
    rw [last]
    obtain ⟨week, applied | ⟨same, left, positive⟩⟩ := h.due_of_progress done due
    · exact ⟨week, Or.inl applied⟩
    · refine ⟨week,
        Or.inr ⟨same, rfl, ?_, rankPoints_of_progress h progress distinct positive left⟩⟩
      rcases days with kept | ⟨all, -⟩
      · exact (congrArg HonorMaintenancer.markerToStart kept).trans marked
      · obtain ⟨a, found, points⟩ := (mem_withRankPoints h.distinct).mp positive
        rw [all] at left
        exact absurd
          (load.mem_iff.mpr ((mem_scoredGuids h.distinct).mpr ⟨a, found, Or.inl points⟩)) left

theorem Kept.restart (h : Kept rules first s) {cut : Option Nat}
    (safe : ∀ n, cut = some n → SafeCut rules s n) : Kept rules first (s.restart rules cut) := by
  cases marked : s.db.honorMaintenanceMarker with
  | false => exact h.restart_unmarked marked cut
  | true =>
      cases cut with
      | none => exact h.restart_whole marked rfl
      | some n =>
          rcases Nat.lt_or_ge n (s.statements rules).length with early | late
          · rcases safe n rfl with late | ⟨held, skipped⟩
            · exact absurd early (Nat.not_lt.mpr late)
            · exact h.restart_cut marked early held skipped
          · exact h.restart_whole marked (List.take_of_length_le late)

def SafeStop (rules : Rules P) (s : Server P) : Event P → Prop
  | .restart (some n) => SafeCut rules s n
  | .restart none | .newDay | .createCharacter _ _ _ _ _ | .saveHonorCP _
  | .saveStoredData _ _ _ _ _ _ _ | .checkMaintenanceDay => True

theorem Kept.step (h : Kept rules first s) (event : Event P) (safe : SafeStop rules s event) :
    Kept rules first (s.step rules event) := by
  cases event with
  | newDay => exact h.newDay
  | createCharacter guid level race rankPoints lastWeekCP =>
      rw [Server.step]
      split
      · rename_i new
        exact h.createCharacter new.1 new.2 rfl rfl
      · exact h
  | saveHonorCP row =>
      rw [Server.step]
      split
      · rename_i new
        exact h.saveHonorCP new.1 new.2.1 new.2.2.1
      · exact h
  | saveStoredData guid level rankPoints standing highestRank lastWeekHK lastWeekCP =>
      rw [Server.step]
      split
      · rename_i up
        apply h.update up
        · exact fun _ => rfl
        · exact fun _ => rfl
        · exact fun _ => rfl
      · exact h
  | checkMaintenanceDay =>
      rw [Server.step]
      split
      · rename_i check
        exact h.checkMaintenanceDay check.1 check.2.1
      · exact h
  | restart cut =>
      apply h.restart
      rintro n rfl
      exact safe

theorem kept_start (rules : Rules P) (last days : Nat) : Kept rules last (start last days) where
  days := rfl
  next := rfl
  synced _ := rfl
  today := Nat.le_add_right _ _
  up _ := Nat.le_add_right _ _
  marked set := absurd set Bool.false_ne_true
  distinct := List.nodup_nil
  owners _ mem := absurd mem List.not_mem_nil
  later _ := rfl
  current _ _ := rfl
  kills _ _ found := nomatch found
  once := List.nodup_nil
  weeks _ mem := absurd mem List.not_mem_nil
  pending _ mem := absurd mem List.not_mem_nil
  decays _ mem := absurd mem List.not_mem_nil

end Invariant

section Once

/-- Each week is applied once: whoever had rank points when its maintenance began was updated once
for it, nobody twice, and a server that is up has counted every kill of the weeks before the day of
the last maintenance once. The day is a week later for each maintenance. -/
structure AppliedOnce (first : Nat) (s : Server P) : Prop where
  weekly : s.db.lastHonorMaintenanceDay = first + 7 * s.finished
  decays : ∀ p ∈ s.due, p.1 < s.db.lastHonorMaintenanceDay → p ∈ s.applied
  once : s.applied.Nodup
  kills : s.running = true → ∀ c ∈ s.db.characters,
    c.honorStoredHK = killsBefore s.saved c.guid honorable s.db.lastHonorMaintenanceDay ∧
      c.honorStoredDK = killsBefore s.saved c.guid dishonorable s.db.lastHonorMaintenanceDay

/-- Over restarts that stop anywhere but where a later one would update a character again. -/
theorem honor_applied_once (rules : Rules P) (last days : Nat) (events : List (Event P))
    (safe : Along (Server.step rules) (SafeStop rules) (start last days) events) :
    AppliedOnce last (run (Server.step rules) (start last days) events) := by
  have kept : Kept rules last (run (Server.step rules) (start last days) events) :=
    run_invariant (fun _ event h safe => h.step event safe) (kept_start rules last days) safe
  refine ⟨kept.days, ?_, kept.once, ?_⟩
  · intro p due past
    obtain ⟨-, applied | ⟨same, -⟩⟩ := kept.decays p due
    · exact applied
    · exact absurd past (same ▸ Nat.lt_irrefl _)
  · intro up c mem
    exact kept.running_kills up (Database.account_of_mem kept.distinct mem)

/-- Points in whole numbers, with the decay of the source away from its bounds. -/
def wholeRules : Rules Int where
  isPositive points := decide (0 < points)
  sum points := points.sum
  decayed score := score.oldRp - (2 * score.oldRp + 5) / 10 / 2
  highestRank highest _ := highest
  order scores := scores
  order_perm _ := List.Perm.refl _

instance (rules : Rules P) (s : Server P) : ∀ event, Decidable (SafeStop rules s event)
  | .restart (some n) =>
      inferInstanceAs (Decidable ((s.statements rules).length ≤ n ∨ (_ ∨ _ ∧ _) ∧ _))
  | .restart none | .newDay | .createCharacter _ _ _ _ _ | .saveHonorCP _
  | .saveStoredData _ _ _ _ _ _ _ | .checkMaintenanceDay => isTrue trivial

/-- Three maintenances of characters with kills: the second is stopped after the deletion of the
rows, the third before its first update. -/
def stoppedWeeks : List (Event Int) :=
  [.checkMaintenanceDay, .restart none, .createCharacter 1 60 1 0 0, .createCharacter 2 60 2 0 0,
    .saveHonorCP ⟨1, 50, 107, honorable⟩, .newDay, .saveHonorCP ⟨1, 0, 108, dishonorable⟩,
    .saveHonorCP ⟨2, 20, 108, honorable⟩, .newDay, .newDay, .newDay, .newDay, .newDay, .newDay,
    .checkMaintenanceDay, .restart (some 4), .restart none, .saveStoredData 1 60 1000 0 1 1 50,
    .saveHonorCP ⟨1, 10, 114, honorable⟩, .newDay, .newDay, .newDay, .newDay, .newDay, .newDay,
    .newDay, .checkMaintenanceDay, .restart (some 1), .restart none]

theorem honor_applied_once_after_stops :
    AppliedOnce 100 (run (Server.step wholeRules) (start 100 7) stoppedWeeks) ∧
      (run (Server.step wholeRules) (start 100 7) stoppedWeeks).applied =
        [(107, 1), (107, 2), (114, 1)] :=
  ⟨honor_applied_once wholeRules 100 7 stoppedWeeks (by decide +kernel), by decide +kernel⟩

/-- A stop after the update of a character: the next start updates it again for the same week. -/
theorem updated_again_after_stop :
    ¬ AppliedOnce 100 (run (Server.step wholeRules) (start 100 7)
      [.createCharacter 1 60 1 1000 0, .checkMaintenanceDay, .restart (some 2),
        .restart none]) := by
  intro once
  have twice := once.once
  exact absurd twice (by decide)

end Once

end TortoiseWow.HonorMaintenance
