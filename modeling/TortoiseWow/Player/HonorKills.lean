import TortoiseWow.Player.Honor

/-!
Every kill is counted once: in the stored counters, or among the entries from the begin of
the week on. Rows of the last day of a week survive the maintenance that folds them; `Update`
skips them by their date when it counts honorable kills and not when it counts dishonorable
ones.
-/

namespace TortoiseWow.Honor

/-- Date and type of an entry or a row. -/
abbrev Kill := Nat × UInt8

def HonorCP.kill (e : HonorCP) : Kill := (e.date, e.type)

def HonorRow.kill (r : HonorRow) : Kill := (r.date, r.type)

/-- What is not stored yet: the entries in memory, or the rows of a player who is offline. -/
def World.kills (w : World) (guid : UInt32) : List Kill :=
  match w.online.find? guid with
  | some m => m.honorCP.map HonorCP.kill
  | none => (w.rowsOf guid).map HonorRow.kill

def tally (type : UInt8) (begin : Nat) (kills : List Kill) : Nat :=
  kills.countP fun k => k.2 = type ∧ begin ≤ k.1

structure Right (w : World) (guid : UInt32) : Prop where
  hk : UInt32.ofNat (w.honorStoredHK guid) +
      UInt32.ofNat (tally honorable w.weekBeginDay (w.kills guid)) =
    UInt32.ofNat (w.added.count (guid, honorable))
  dk : UInt32.ofNat (w.honorStoredDK guid) +
      UInt32.ofNat (tally dishonorable w.weekBeginDay (w.kills guid)) =
    UInt32.ofNat (w.added.count (guid, dishonorable))
  fresh : ∀ k ∈ w.kills guid, k.2 = dishonorable → w.weekBeginDay ≤ k.1

/-- The memory of a player beside his rows. -/
structure Synced (w : World) (guid : UInt32) (m : HonorMgr) : Prop where
  rows : ((m.honorCP.filter (·.state = .unchanged)).map HonorCP.kill).Perm
    ((w.rowsOf guid).map HonorRow.kill)
  hk : m.storedHK = UInt32.ofNat (w.honorStoredHK guid)
  dk : m.storedDK = UInt32.ofNat (w.honorStoredDK guid)

structure Calendar (w : World) : Prop where
  begun : w.lastMaintenanceDay ≤ w.today
  next : w.nextMaintenanceDay = w.lastMaintenanceDay + 7
  marked : w.markerToStart = true → w.nextMaintenanceDay ≤ w.today

structure Kept (w : World) : Prop where
  calendar : Calendar w
  synced : ∀ guid m, w.online.find? guid = some m → Synced w guid m
  right : ∀ guid, Right w guid

section Counting

variable {type : UInt8} {begin : Nat} {kills : List Kill}

theorem tally_perm {other : List Kill} (h : kills.Perm other) :
    tally type begin kills = tally type begin other := h.countP_eq _

theorem tally_push (k : Kill) :
    tally type begin (kills ++ [k]) =
      tally type begin kills + if k.2 = type ∧ begin ≤ k.1 then 1 else 0 := by
  simp [tally, List.countP_append, List.countP_cons]

theorem tally_week (type : UInt8) (begin : Nat) (kills : List Kill) :
    tally type begin kills =
      (kills.countP fun k => k.2 = type ∧ begin ≤ k.1 ∧ k.1 ≤ begin + 6) +
        tally type (begin + 7) kills := by
  induction kills with
  | nil => rfl
  | cons k kills ih =>
      simp only [tally, List.countP_cons, decide_eq_true_eq] at ih ⊢
      rw [ih]
      by_cases htype : k.2 = type
      · by_cases hbegin : begin ≤ k.1
        · by_cases hend : k.1 ≤ begin + 6
          · have hnot : ¬ begin + 7 ≤ k.1 := by omega
            simp [htype, hbegin, hend, hnot]
            omega
          · have hnext : begin + 7 ≤ k.1 := by omega
            simp [htype, hbegin, hend, hnext]
            omega
        · have hnot : ¬ begin + 7 ≤ k.1 := by omega
          simp [hbegin, hnot]
      · simp [htype]

/-- `Update` counts on from the stored counters: honorable kills from the begin of the week
on, dishonorable kills whatever their date. -/
theorem countEntry_fold (today begin : Nat) (entries : List HonorCP) (c : KillCounts) :
    (entries.foldl (countEntry today begin) c).totalHK =
        c.totalHK + UInt32.ofNat (tally honorable begin (entries.map HonorCP.kill)) ∧
      (entries.foldl (countEntry today begin) c).totalDK =
        c.totalDK + UInt32.ofNat (tally dishonorable 0 (entries.map HonorCP.kill)) := by
  induction entries generalizing c with
  | nil => exact ⟨(UInt32.add_zero _).symm, (UInt32.add_zero _).symm⟩
  | cons e entries ih =>
      obtain ⟨hhk, hdk⟩ := ih (countEntry today begin c e)
      rw [List.foldl_cons, hhk, hdk]
      have hother : honorable ≠ dishonorable := by decide
      simp only [tally, List.map_cons, List.countP_cons, countEntry, decide_eq_true_eq,
        Nat.zero_le, and_true]
      by_cases hhonorable : e.type = honorable
      · have hkill : (e.kill).2 = honorable := hhonorable
        by_cases hbegin : begin ≤ e.date
        · have hdate : begin ≤ (e.kill).1 := hbegin
          simp only [hhonorable, hkill, hbegin, hdate, hother, if_true, if_false, and_self,
            Nat.add_zero, UInt32.ofNat_add]
          exact ⟨by ac_rfl, trivial⟩
        · have hdate : ¬ begin ≤ (e.kill).1 := hbegin
          simp only [hhonorable, hkill, hbegin, hdate, hother, if_true, if_false, and_false,
            Nat.add_zero, and_self]
      · have hkill : ¬ (e.kill).2 = honorable := hhonorable
        by_cases hdishonorable : e.type = dishonorable
        · have hkill' : (e.kill).2 = dishonorable := hdishonorable
          simp only [hdishonorable, hkill', hother.symm, if_true, if_false, false_and,
            Nat.add_zero, UInt32.ofNat_add]
          exact ⟨trivial, by ac_rfl⟩
        · have hkill' : ¬ (e.kill).2 = dishonorable := hdishonorable
          simp only [hhonorable, hdishonorable, hkill, hkill', if_false, false_and, Nat.add_zero,
            and_self]

/-- Without old dishonorable kills the date makes no difference. -/
theorem tally_of_fresh (h : ∀ k ∈ kills, k.2 = type → begin ≤ k.1) :
    tally type 0 kills = tally type begin kills := by
  refine List.countP_congr fun k hk => ?_
  simp only [decide_eq_true_eq, Nat.zero_le, and_true]
  exact ⟨fun htype => ⟨htype, h k hk htype⟩, And.left⟩

end Counting

section Frames

variable {w w' : World} {guid : UInt32}

theorem Right.of_perm (h : Right w guid)
    (hhk : UInt32.ofNat (w'.honorStoredHK guid) = UInt32.ofNat (w.honorStoredHK guid))
    (hdk : UInt32.ofNat (w'.honorStoredDK guid) = UInt32.ofNat (w.honorStoredDK guid))
    (hkills : (w'.kills guid).Perm (w.kills guid))
    (hweek : w'.weekBeginDay = w.weekBeginDay) (hadded : w'.added = w.added) :
    Right w' guid := by
  refine { hk := ?_, dk := ?_, fresh := ?_ }
  · rw [hhk, tally_perm hkills, hweek, hadded]
    exact h.hk
  · rw [hdk, tally_perm hkills, hweek, hadded]
    exact h.dk
  · intro k hk htype
    rw [hweek]
    exact h.fresh k (hkills.mem_iff.mp hk) htype

theorem kills_of_online {m : HonorMgr} (h : w.online.find? guid = some m) :
    w.kills guid = m.honorCP.map HonorCP.kill := by
  simp only [World.kills, h]

theorem kills_of_offline (h : w.online.find? guid = none) :
    w.kills guid = (w.rowsOf guid).map HonorRow.kill := by
  simp only [World.kills, h]

theorem rowsOf_append_of_ne {rows : List HonorRow} {other : UInt32}
    (h : ∀ r ∈ rows, r.guid ≠ other) :
    (w.rows ++ rows).filter (·.guid = other) = w.rowsOf other := by
  rw [List.filter_append, World.rowsOf]
  have hnone : rows.filter (·.guid = other) = [] :=
    List.filter_eq_nil_iff.mpr fun r hr => by simpa using h r hr
  rw [hnone, List.append_nil]

end Frames

section Steps

variable {w : World} {guid : UInt32} {m : HonorMgr}

theorem kept_newDay (h : Kept w) : Kept { w with today := w.today + 1 } where
  calendar :=
    { begun := h.calendar.begun.trans (Nat.le_succ _)
      next := h.calendar.next
      marked := fun hmark => (h.calendar.marked hmark).trans (Nat.le_succ _) }
  synced := fun guid m hfind => ⟨(h.synced guid m hfind).1, (h.synced guid m hfind).2,
    (h.synced guid m hfind).3⟩
  right := fun guid => ⟨(h.right guid).1, (h.right guid).2, (h.right guid).3⟩

/-- A manager put in place that is in step with the rows and has the same kills. -/
theorem kept_assign (h : Kept w)
    (hkills : m.honorCP.map HonorCP.kill = w.kills guid) (hsynced : Synced w guid m) :
    Kept { w with online := w.online.assign guid m } := by
  refine { calendar := ⟨h.calendar.1, h.calendar.2, h.calendar.3⟩, synced := ?_, right := ?_ }
  · intro other m' hfind
    by_cases hsame : other = guid
    · subst hsame
      have hm : m = m' := Option.some.inj ((w.online.find?_assign_self other m).symm.trans hfind)
      exact hm ▸ ⟨hsynced.1, hsynced.2, hsynced.3⟩
    · have hfind' := (w.online.find?_assign_of_ne hsame m).symm.trans hfind
      have hold := h.synced other m' hfind'
      exact ⟨hold.1, hold.2, hold.3⟩
  · intro other
    refine (h.right other).of_perm rfl rfl (List.Perm.of_eq ?_) rfl rfl
    by_cases hsame : other = guid
    · subst hsame
      exact (kills_of_online (w.online.find?_assign_self other m)).trans hkills
    · simp only [World.kills, w.online.find?_assign_of_ne hsame]
      rfl

theorem kept_login (h : Kept w) (hfind : w.online.find? guid = none) :
    Kept { w with online := w.online.assign guid (w.load guid) } := by
  have hkills : (w.load guid).honorCP.map HonorCP.kill = (w.rowsOf guid).map HonorRow.kill := by
    simp only [World.load, List.map_map]
    rfl
  refine kept_assign h (hkills.trans (kills_of_offline hfind).symm) ⟨?_, rfl, rfl⟩
  have hall : (w.load guid).honorCP.filter (·.state = .unchanged) = (w.load guid).honorCP := by
    refine List.filter_eq_self.mpr fun e he => ?_
    obtain ⟨r, -, rfl⟩ := List.mem_map.mp he
    rfl
  rw [hall, hkills]

theorem kept_update (h : Kept w) (hfind : w.online.find? guid = some m) (today begin : Nat) :
    Kept { w with online := w.online.assign guid (m.update today begin) } := by
  have hsynced := h.synced guid m hfind
  exact kept_assign h (kills_of_online hfind).symm ⟨hsynced.1, hsynced.2, hsynced.3⟩

def HonorMgr.saved (m : HonorMgr) : HonorMgr :=
  { m with honorCP := m.honorCP.map fun e => { e with state := .unchanged } }

theorem saved_kills (m : HonorMgr) :
    m.saved.honorCP.map HonorCP.kill = m.honorCP.map HonorCP.kill := by
  simp only [HonorMgr.saved, List.map_map]
  rfl

theorem saved_unchanged (m : HonorMgr) :
    m.saved.honorCP.filter (·.state = .unchanged) = m.saved.honorCP := by
  refine List.filter_eq_self.mpr fun e he => ?_
  obtain ⟨_, -, rfl⟩ := List.mem_map.mp he
  rfl

theorem saved_rows (hsynced : Synced w guid m) :
    (m.saved.honorCP.map HonorCP.kill).Perm (((w.save guid m).rowsOf guid).map HonorRow.kill) := by
  have hnew : ((m.honorCP.filter (·.state = .new)).map fun e =>
      HonorRow.mk guid e.date e.type).filter (·.guid = guid) =
        (m.honorCP.filter (·.state = .new)).map fun e => HonorRow.mk guid e.date e.type := by
    refine List.filter_eq_self.mpr fun r hr => ?_
    obtain ⟨_, -, rfl⟩ := List.mem_map.mp hr
    exact decide_eq_true rfl
  have hrows : ((w.save guid m).rowsOf guid).map HonorRow.kill =
      (w.rowsOf guid).map HonorRow.kill ++
        (m.honorCP.filter (·.state = .new)).map HonorCP.kill := by
    simp only [World.rowsOf, World.save]
    rw [List.filter_append, hnew, List.map_append, List.map_map]
    rfl
  have hsplit : (m.honorCP.filter (·.state = .unchanged) ++
      m.honorCP.filter (·.state = .new)).Perm m.honorCP := by
    have hfilter : m.honorCP.filter (·.state = .new) =
        m.honorCP.filter fun e => !decide (e.state = .unchanged) := by
      refine List.filter_congr fun e _ => ?_
      cases e.state with
      | new | unchanged => rfl
    rw [hfilter]
    exact List.filter_append_perm _ _
  rw [saved_kills, hrows]
  refine ((hsplit.map HonorCP.kill).symm.trans ?_)
  rw [List.map_append]
  exact hsynced.rows.append_right _

theorem kept_save (h : Kept w) (hfind : w.online.find? guid = some m) : Kept (w.save guid m) := by
  have hsynced := h.synced guid m hfind
  have hstored : ∀ n : UInt32, UInt32.ofNat n.toNat = n := fun n => UInt32.ofNat_toNat
  have hrows : ∀ other, other ≠ guid → (w.save guid m).rowsOf other = w.rowsOf other := by
    intro other hne
    refine rowsOf_append_of_ne fun r hr => ?_
    obtain ⟨_, -, rfl⟩ := List.mem_map.mp hr
    exact fun heq => hne heq.symm
  have hself : (w.save guid m).online.find? guid = some m.saved :=
    w.online.find?_assign_self guid m.saved
  have hother : ∀ other, other ≠ guid →
      (w.save guid m).online.find? other = w.online.find? other :=
    fun other hne => w.online.find?_assign_of_ne hne m.saved
  refine { calendar := ⟨h.calendar.1, h.calendar.2, h.calendar.3⟩, synced := ?_, right := ?_ }
  · intro other m' hfind'
    by_cases hsame : other = guid
    · subst hsame
      cases Option.some.inj (hself.symm.trans hfind')
      refine ⟨?_, ?_, ?_⟩
      · rw [saved_unchanged]
        exact saved_rows hsynced
      · simp only [World.save, if_true, hstored]
        rfl
      · simp only [World.save, if_true, hstored]
        rfl
    · have hold := h.synced other m' ((hother other hsame).symm.trans hfind')
      refine ⟨?_, ?_, ?_⟩
      · rw [hrows other hsame]
        exact hold.rows
      · simp only [World.save, if_neg hsame]
        exact hold.hk
      · simp only [World.save, if_neg hsame]
        exact hold.dk
  · intro other
    by_cases hsame : other = guid
    · subst hsame
      refine (h.right other).of_perm ?_ ?_ (List.Perm.of_eq ?_) rfl rfl
      · simp only [World.save, if_true, hstored]
        exact hsynced.hk
      · simp only [World.save, if_true, hstored]
        exact hsynced.dk
      · rw [kills_of_online hself, saved_kills, kills_of_online hfind]
    · refine (h.right other).of_perm ?_ ?_ (List.Perm.of_eq ?_) rfl rfl
      · simp only [World.save, if_neg hsame]
      · simp only [World.save, if_neg hsame]
      · simp only [World.kills, hother other hsame, hrows other hsame]

/-- A player whose entries are all saved may leave. -/
theorem kept_leave (h : Kept w) (hfind : w.online.find? guid = some m)
    (hsaved : m.honorCP.filter (·.state = .unchanged) = m.honorCP) :
    Kept { w with online := w.online.erase guid } := by
  refine { calendar := ⟨h.calendar.1, h.calendar.2, h.calendar.3⟩, synced := ?_, right := ?_ }
  · intro other m' hfind'
    have hne : other ≠ guid := by
      rintro rfl
      exact nomatch (w.online.find?_erase_self other).symm.trans hfind'
    have hold := h.synced other m' ((w.online.find?_erase_of_ne hne).symm.trans hfind')
    exact ⟨hold.1, hold.2, hold.3⟩
  · intro other
    refine (h.right other).of_perm rfl rfl ?_ rfl rfl
    by_cases hsame : other = guid
    · subst hsame
      have hrows := (h.synced other m hfind).rows
      rw [hsaved] at hrows
      rw [kills_of_offline (w.online.find?_erase_self other), kills_of_online hfind]
      exact hrows.symm
    · simp only [World.kills, w.online.find?_erase_of_ne hsame]
      exact List.Perm.refl _

theorem kept_add (h : Kept w) (hfind : w.online.find? guid = some m) (type : UInt8)
    (accepted : Bool) : Kept (w.add guid m type accepted) := by
  simp only [World.add]
  split
  · exact h
  · generalize hm' : HonorMgr.update _ w.today w.weekBeginDay = m'
    have hcp : m'.honorCP = m.honorCP ++ [HonorCP.mk w.today type .new] := by rw [← hm']; rfl
    have hhk : m'.storedHK = m.storedHK := by rw [← hm']; rfl
    have hdk : m'.storedDK = m.storedDK := by rw [← hm']; rfl
    have hsynced := h.synced guid m hfind
    refine { calendar := ⟨h.calendar.1, h.calendar.2, h.calendar.3⟩, synced := ?_, right := ?_ }
    · intro other m'' hfind'
      by_cases hsame : other = guid
      · subst hsame
        cases Option.some.inj ((w.online.find?_assign_self other m').symm.trans hfind')
        refine ⟨?_, hhk.trans hsynced.hk, hdk.trans hsynced.dk⟩
        rw [hcp, List.filter_append, List.filter_cons_of_neg (by simp), List.filter_nil,
          List.append_nil]
        exact hsynced.rows
      · have hold := h.synced other m'' ((w.online.find?_assign_of_ne hsame m').symm.trans hfind')
        exact ⟨hold.1, hold.2, hold.3⟩
    · intro other
      have hcount : ∀ type', (w.added ++ [(guid, type)]).count (other, type') =
          w.added.count (other, type') + if guid = other ∧ type = type' then 1 else 0 := by
        intro type'
        rw [List.count_append, List.count_singleton]
        simp only [beq_iff_eq, Prod.mk.injEq]
      by_cases hsame : other = guid
      · subst hsame
        have hkills : World.kills { w with
            online := w.online.assign other m', added := w.added ++ [(other, type)] } other =
              w.kills other ++ [(w.today, type)] := by
          refine (kills_of_online (w.online.find?_assign_self other m')).trans ?_
          rw [hcp, List.map_append, kills_of_online hfind]
          rfl
        have hpush : ∀ type', UInt32.ofNat (tally type' w.weekBeginDay
            (w.kills other ++ [(w.today, type)])) =
              UInt32.ofNat (tally type' w.weekBeginDay (w.kills other)) +
                UInt32.ofNat (if type = type' then 1 else 0) := by
          intro type'
          have htoday : w.weekBeginDay ≤ w.today := h.calendar.begun
          rw [tally_push, UInt32.ofNat_add]
          simp only [htoday, and_true]
        refine { hk := ?_, dk := ?_, fresh := ?_ }
        · rw [hkills]
          refine (congrArg (UInt32.ofNat (w.honorStoredHK other) + ·) (hpush honorable)).trans ?_
          rw [← UInt32.add_assoc, (h.right other).hk, hcount, UInt32.ofNat_add]
          simp only [true_and]
        · rw [hkills]
          refine (congrArg (UInt32.ofNat (w.honorStoredDK other) + ·) (hpush dishonorable)).trans ?_
          rw [← UInt32.add_assoc, (h.right other).dk, hcount, UInt32.ofNat_add]
          simp only [true_and]
        · rw [hkills]
          intro k hk htype
          cases List.mem_append.mp hk with
          | inl hold => exact (h.right other).fresh k hold htype
          | inr hnew => exact List.mem_singleton.mp hnew ▸ h.calendar.begun
      · have hkills : World.kills { w with
            online := w.online.assign guid m', added := w.added ++ [(guid, type)] } other =
              w.kills other := by
          simp only [World.kills, w.online.find?_assign_of_ne hsame]
          rfl
        have hnone : ∀ type', (w.added ++ [(guid, type)]).count (other, type') =
            w.added.count (other, type') := by
          intro type'
          rw [hcount, if_neg fun hboth => hsame hboth.1.symm, Nat.add_zero]
        refine { hk := ?_, dk := ?_, fresh := ?_ }
        · rw [hkills, hnone]
          exact (h.right other).hk
        · rw [hkills, hnone]
          exact (h.right other).dk
        · rw [hkills]
          exact (h.right other).fresh

end Steps

section Maintenance

variable {w : World}

/-- Scores of distinct players are each added once, and nothing else changes. -/
theorem flushScore_fold (score : UInt32 → WeeklyScore) (hscore : ∀ guid, (score guid).guid = guid)
    (guids : List UInt32) (hnodup : guids.Nodup) (w : World) :
    ∃ hk dk, (guids.map score).foldl World.flushScore w =
        { w with honorStoredHK := hk, honorStoredDK := dk } ∧
      ∀ guid, hk guid = w.honorStoredHK guid + (if guid ∈ guids then (score guid).hk else 0) ∧
        dk guid = w.honorStoredDK guid + (if guid ∈ guids then (score guid).dk else 0) := by
  induction guids generalizing w with
  | nil => exact ⟨_, _, rfl, fun _ => ⟨rfl, rfl⟩⟩
  | cons first guids ih =>
      obtain ⟨hfirst, hnodup⟩ := List.nodup_cons.mp hnodup
      obtain ⟨hk, dk, hfold, hsums⟩ := ih hnodup (w.flushScore (score first))
      refine ⟨hk, dk, hfold, fun guid => ?_⟩
      obtain ⟨hhk, hdk⟩ := hsums guid
      rw [hhk, hdk]
      simp only [World.flushScore, hscore, List.mem_cons]
      by_cases hsame : guid = first
      · subst hsame
        simp [hfirst]
      · simp [hsame]

theorem flushRankPoints_eq (w : World) :
    ∃ hk dk, w.flushRankPoints w.loadWeeklyScores =
        { w with
          rows := w.rows.filter fun r => ¬ r.date < w.weekEndDay
          honorStoredHK := hk
          honorStoredDK := dk } ∧
      ∀ guid, hk guid = w.honorStoredHK guid +
          (w.rowsOf guid).countP (fun r => r.type = honorable ∧ w.inWeek r) ∧
        dk guid = w.honorStoredDK guid +
          (w.rowsOf guid).countP (fun r => r.type = dishonorable ∧ w.inWeek r) := by
  obtain ⟨hk, dk, hfold, hsums⟩ := flushScore_fold
    (fun guid => ⟨guid, (w.rowsOf guid).countP fun r => r.type = honorable ∧ w.inWeek r,
      (w.rowsOf guid).countP fun r => r.type = dishonorable ∧ w.inWeek r⟩)
    (fun _ => rfl) ((w.rows.filter w.inWeek).map (·.guid)).dedup (List.nodup_dedup _) w
  refine ⟨hk, dk, ?_, fun guid => ?_⟩
  · exact congrArg (fun w : World => { w with
      rows := w.rows.filter fun r => ¬ r.date < w.weekEndDay }) hfold
  · obtain ⟨hhk, hdk⟩ := hsums guid
    have hzero : guid ∉ ((w.rows.filter w.inWeek).map (·.guid)).dedup → ∀ type : UInt8,
        (w.rowsOf guid).countP (fun r => r.type = type ∧ w.inWeek r) = 0 := by
      intro habsent type
      refine List.countP_eq_zero.mpr fun r hr hboth => habsent ?_
      obtain ⟨hrow, hguid⟩ := List.mem_filter.mp hr
      refine List.mem_dedup.mpr (List.mem_map.mpr ⟨r, List.mem_filter.mpr ⟨hrow, ?_⟩, ?_⟩)
      · exact (of_decide_eq_true hboth).2
      · exact of_decide_eq_true hguid
    rw [hhk, hdk]
    by_cases hmem : guid ∈ ((w.rows.filter w.inWeek).map (·.guid)).dedup
    · simp only [if_pos hmem, and_self]
    · simp only [if_neg hmem, hzero hmem, and_self]

def NoneOnLastDay (w : World) : Prop :=
  ∀ r ∈ w.rows, r.type = dishonorable → r.date ≠ w.weekEndDay

theorem kept_doMaintenance (h : Kept w) (hoffline : w.online.entries = [])
    (hnone : w.markerToStart = true → NoneOnLastDay w) : Kept w.doMaintenance := by
  simp only [World.doMaintenance]
  split
  · exact h
  · rename_i hmarker
    have hmark : w.markerToStart = true := Bool.not_eq_false _ ▸ hmarker
    obtain ⟨hk, dk, hflush, hsums⟩ := flushRankPoints_eq w
    rw [hflush]
    have habsent : ∀ guid, w.online.find? guid = none := by
      intro guid
      rw [Lib.UnorderedMap.find?_eq_none_iff, Lib.UnorderedMap.keys, hoffline]
      exact List.not_mem_nil
    have hnext := h.calendar.next
    refine { calendar := ?_, synced := ?_, right := fun guid => ?_ }
    · exact ⟨h.calendar.marked hmark, rfl, fun hset => absurd hset Bool.false_ne_true⟩
    · intro guid m hfind
      exact absurd ((habsent guid).symm.trans hfind) (Option.some_ne_none _).symm
    · have hkills := kills_of_offline (habsent guid)
      have hrows : World.kills
          { today := w.today, lastMaintenanceDay := w.nextMaintenanceDay,
            nextMaintenanceDay := w.nextMaintenanceDay + 7, markerToStart := false,
            rows := w.rows.filter fun r => ¬ r.date < w.weekEndDay, honorStoredHK := hk,
            honorStoredDK := dk, online := w.online, added := w.added } guid =
          (w.kills guid).filter fun k => ¬ k.1 < w.weekEndDay := by
        rw [hkills]
        refine Eq.trans (kills_of_offline (habsent guid)) ?_
        simp only [World.rowsOf]
        rw [List.filter_filter, List.filter_map, List.filter_filter]
        refine congrArg _ (List.filter_congr fun r _ => ?_)
        simp only [Function.comp, HonorRow.kill]
        exact Bool.and_comm ..
      have hafter : ∀ type : UInt8, tally type w.nextMaintenanceDay
          ((w.kills guid).filter fun k => ¬ k.1 < w.weekEndDay) =
            tally type (w.weekBeginDay + 7) (w.kills guid) := by
        intro type
        rw [hnext, tally, List.countP_filter]
        refine List.countP_congr fun k _ => ?_
        simp only [World.weekBeginDay, World.weekEndDay, Bool.and_eq_true]
        constructor
        · exact And.left
        · intro hboth
          have hlate := (of_decide_eq_true hboth).2
          exact ⟨hboth, decide_eq_true (by omega)⟩
      have hweek : ∀ type : UInt8,
          (w.rowsOf guid).countP (fun r => r.type = type ∧ w.inWeek r) =
            (w.kills guid).countP fun k =>
              k.2 = type ∧ w.weekBeginDay ≤ k.1 ∧ k.1 ≤ w.weekBeginDay + 6 := by
        intro type
        rw [hkills, List.countP_map]
        refine List.countP_congr fun r _ => ?_
        have hboth : (r.type = type ∧ w.inWeek r = true) ↔
            (r.type = type ∧ w.weekBeginDay ≤ r.date ∧ r.date ≤ w.weekBeginDay + 6) :=
          and_congr_right' decide_eq_true_iff
        exact decide_eq_true_iff.trans (hboth.trans decide_eq_true_iff.symm)
      have htotal : ∀ type : UInt8, ∀ stored : Nat,
          UInt32.ofNat (stored + (w.rowsOf guid).countP fun r => r.type = type ∧ w.inWeek r) +
            UInt32.ofNat (tally type w.nextMaintenanceDay
              ((w.kills guid).filter fun k => ¬ k.1 < w.weekEndDay)) =
          UInt32.ofNat stored + UInt32.ofNat (tally type w.weekBeginDay (w.kills guid)) := by
        intro type stored
        have hsplit := congrArg UInt32.ofNat
          (tally_week type w.weekBeginDay (w.kills guid))
        rw [hafter, hweek, UInt32.ofNat_add, UInt32.add_assoc, hsplit, UInt32.ofNat_add]
      refine { hk := ?_, dk := ?_, fresh := ?_ }
      · rw [hrows]
        simp only [(hsums guid).1]
        exact (htotal honorable _).trans (h.right guid).hk
      · rw [hrows]
        simp only [(hsums guid).2]
        exact (htotal dishonorable _).trans (h.right guid).dk
      · rw [hrows]
        intro k hk htype
        obtain ⟨hold, hdate⟩ := List.mem_filter.mp hk
        have hlast : k.1 ≠ w.weekEndDay := by
          rw [hkills] at hold
          obtain ⟨r, hr, rfl⟩ := List.mem_map.mp hold
          exact hnone hmark r (List.mem_of_mem_filter hr) htype
        have hend : w.weekEndDay ≤ k.1 := not_lt.mp (of_decide_eq_true hdate)
        simp only [World.weekBeginDay, World.weekEndDay] at hlast hend ⊢
        omega

end Maintenance

section Runs

/-- Maintenance runs before anybody logs in. -/
def Called (w : World) : HonorEvent → Prop
  | .doMaintenance => w.online.entries = []
  | _ => True

/-- A maintenance finds no dishonorable kill on the last day of the week. -/
def InWindow (w : World) : HonorEvent → Prop
  | .doMaintenance => w.markerToStart = true → NoneOnLastDay w
  | _ => True

theorem kept_step {w : World} (h : Kept w) (e : HonorEvent) (hcalled : Called w e)
    (hwindow : InWindow w e) : Kept (w.step e) := by
  cases e with
  | newDay => exact kept_newDay h
  | login guid =>
      simp only [World.step]
      split
      · rename_i hfind
        exact kept_login h hfind
      · exact h
  | save guid =>
      simp only [World.step]
      split
      · exact h
      · rename_i m hfind
        exact kept_save h hfind
  | logout guid =>
      simp only [World.step]
      split
      · exact h
      · rename_i m hfind
        exact kept_leave (m := m.saved) (kept_save h hfind)
          (w.online.find?_assign_self guid m.saved) (saved_unchanged m)
  | add guid type accepted =>
      simp only [World.step]
      split
      · exact h
      · rename_i m hfind
        exact kept_add h hfind type accepted
  | update guid =>
      simp only [World.step]
      split
      · exact h
      · rename_i m hfind
        exact kept_update h hfind w.today w.weekBeginDay
  | checkMaintenanceDay =>
      simp only [World.step, World.checkMaintenanceDay]
      split
      · rename_i hdue
        refine
          { calendar := ⟨h.calendar.1, h.calendar.2, fun _ => hdue.1⟩, synced := ?_, right := ?_ }
        · exact fun guid m hfind => ⟨(h.synced guid m hfind).1, (h.synced guid m hfind).2,
            (h.synced guid m hfind).3⟩
        · exact fun guid => ⟨(h.right guid).1, (h.right guid).2, (h.right guid).3⟩
      · exact h
  | doMaintenance => exact kept_doMaintenance h hcalled hwindow

theorem kept_start (lastMaintenanceDay days : Nat) : Kept (start lastMaintenanceDay days) where
  calendar := ⟨Nat.le_add_right _ _, rfl, nofun⟩
  synced := fun _ _ hfind => nomatch hfind
  right := fun _ => ⟨rfl, rfl, fun _ hk => absurd hk List.not_mem_nil⟩

/-- What `Update` counts is what was ever added. -/
theorem kills_counted_once (lastMaintenanceDay days : Nat) (events : List HonorEvent)
    (h : Lib.Along World.step (fun w e => Called w e ∧ InWindow w e)
      (start lastMaintenanceDay days) events) :
    let w := Lib.run World.step (start lastMaintenanceDay days) events
    ∀ guid m, w.online.find? guid = some m →
      (m.update w.today w.weekBeginDay).counts.totalHK =
          UInt32.ofNat (w.added.count (guid, honorable)) ∧
        (m.update w.today w.weekBeginDay).counts.totalDK =
          UInt32.ofNat (w.added.count (guid, dishonorable)) := by
  intro w guid m hfind
  have hkept : Kept w := Lib.run_invariant (I := Kept)
    (fun _ e hw he => kept_step hw e he.1 he.2) (kept_start lastMaintenanceDay days) h
  have hsynced := hkept.synced guid m hfind
  have hright := hkept.right guid
  have hkills := kills_of_online hfind
  obtain ⟨hhk, hdk⟩ := countEntry_fold w.today w.weekBeginDay m.honorCP
    { totalHK := m.storedHK, totalDK := m.storedDK }
  constructor
  · refine hhk.trans ?_
    rw [← hkills]
    exact (congrArg (· + _) hsynced.hk).trans hright.hk
  · refine hdk.trans ?_
    rw [← hkills, tally_of_fresh hright.fresh]
    exact (congrArg (· + _) hsynced.dk).trans hright.dk

def weekEvents : List HonorEvent :=
  [.login 1, .add 1 honorable true, .add 1 dishonorable true, .newDay, .add 1 honorable true,
    .logout 1, .newDay, .checkMaintenanceDay, .doMaintenance, .login 1]

theorem kills_counted_over_week :
    ∃ m, (Lib.run World.step (start 100 5) weekEvents).online.find? 1 = some m ∧
      (m.update 107 107).counts.totalHK = 2 ∧ (m.update 107 107).counts.totalDK = 1 := by
  have hweek := kills_counted_once 100 5 weekEvents ?_ 1
  · obtain ⟨m, hm⟩ := Option.isSome_iff_exists.mp
      (by decide +kernel :
        ((Lib.run World.step (start 100 5) weekEvents).online.find? 1).isSome = true)
    exact ⟨m, hm, hweek m hm⟩
  · refine ⟨⟨trivial, trivial⟩, ⟨trivial, trivial⟩, ⟨trivial, trivial⟩, ⟨trivial, trivial⟩,
      ⟨trivial, trivial⟩, ⟨trivial, trivial⟩, ⟨trivial, trivial⟩, ⟨trivial, trivial⟩,
      ⟨rfl, fun _ => ?_⟩, ⟨trivial, trivial⟩, trivial⟩
    simp only [NoneOnLastDay]
    decide +kernel

def lastDayEvents : List HonorEvent :=
  [.login 1, .add 1 dishonorable true, .logout 1, .newDay, .checkMaintenanceDay, .doMaintenance,
    .login 1]

/-- It is in the stored counter and, as its row stays, among the entries too. -/
theorem last_day_counted_twice :
    Lib.Along World.step Called (start 100 6) lastDayEvents ∧
      (Lib.run World.step (start 100 6) lastDayEvents).added = [(1, dishonorable)] ∧
      ∃ m, (Lib.run World.step (start 100 6) lastDayEvents).online.find? 1 = some m ∧
        (m.update 107 107).counts.totalDK = 2 := by
  refine ⟨⟨trivial, trivial, trivial, trivial, trivial, rfl, trivial, trivial⟩, rfl,
    ⟨[⟨106, dishonorable, .unchanged⟩], 0, 1, {}⟩, rfl, rfl⟩

end Runs

end TortoiseWow.Honor
