import TortoiseWow.Session.Headless

/-!
Who owns a session: the one entry of its character, until it is destroyed or handed over.
`Moves` are the ways in which sessions go on without a start; everything that the manager does
with a session is made of them. Each login query holder is on its way or consumed.
-/

namespace TortoiseWow.Headless

namespace HeadlessSessionMgr

def entries (s : HeadlessSessionMgr) : List (UInt64 × SessionEntry) :=
  s.sessions.entries ++ s.pendingSessions.entries

/-- What the manager can do with its sessions, one entry at a time. -/
inductive Moves (s : HeadlessSessionMgr) : HeadlessSessionMgr → Prop where
  | refl : Moves s s
  | work {t : HeadlessSessionMgr} (heap : Nat → WorldSession) (before : Moves s t) :
      Moves s { t with heap := heap }
  | endPending {t : HeadlessSessionMgr} {guid : UInt64} {entry : SessionEntry} (ending : Ending)
      (before : Moves s t) (found : t.pendingSessions.find? guid = some entry) :
      Moves s { t with
        pendingSessions := t.pendingSessions.erase guid
        ended := t.ended ++ [⟨entry.session, ending⟩] }
  | endActive {t : HeadlessSessionMgr} {guid : UInt64} {entry : SessionEntry} (ending : Ending)
      (before : Moves s t) (found : t.sessions.find? guid = some entry) :
      Moves s { t with
        sessions := t.sessions.erase guid
        ended := t.ended ++ [⟨entry.session, ending⟩] }
  | promote {t : HeadlessSessionMgr} {guid : UInt64} {entry : SessionEntry}
      (before : Moves s t) (found : t.pendingSessions.find? guid = some entry)
      (free : t.sessions.find? guid = none) :
      Moves s { t with
        pendingSessions := t.pendingSessions.erase guid
        sessions := t.sessions.assign guid entry }
  | elapse {t : HeadlessSessionMgr} {guid : UInt64} {entry : SessionEntry} {elapsed : UInt32}
      (before : Moves s t) (found : t.sessions.find? guid = some entry) (grace : elapsed ≤ 5000) :
      Moves s { t with
        sessions := t.sessions.assign guid { entry with outOfWorldElapsed := elapsed } }

variable {s t u : HeadlessSessionMgr}

theorem Moves.trans (h : Moves s t) (hnext : Moves t u) : Moves s u := by
  induction hnext with
  | refl => exact h
  | work heap _ ih => exact ih.work heap
  | endPending ending _ found ih => exact ih.endPending ending found
  | endActive ending _ found ih => exact ih.endActive ending found
  | promote _ found free ih => exact ih.promote found free
  | elapse _ found grace ih => exact ih.elapse found grace

theorem moves_foldl {f : HeadlessSessionMgr → UInt64 → HeadlessSessionMgr}
    (hf : ∀ t guid, Moves t (f t guid)) (guids : List UInt64) (s : HeadlessSessionMgr) :
    Moves s (guids.foldl f s) := by
  induction guids generalizing s with
  | nil => exact .refl
  | cons guid guids ih => exact (hf s guid).trans (ih (f s guid))

section Operations

variable {guid : UInt64} {entry : SessionEntry}

theorem moves_endPending (h : s.pendingSessions.find? guid = some entry) :
    Moves s (s.endPending guid entry) := Moves.refl.endPending _ h

theorem moves_endActive (h : s.sessions.find? guid = some entry) (save : Bool) :
    Moves s (s.endActive guid entry save) := Moves.refl.endActive _ h

theorem moves_stopForAccount (s : HeadlessSessionMgr) (accountId : UInt32) (save : Bool) :
    Moves s (s.stopForAccount accountId save) := by
  refine (moves_foldl ?_ _ s).trans (moves_foldl ?_ _ _)
  · intro t guid
    simp only [stopPendingOf]
    split
    · exact .refl
    · rename_i entry hfind
      split
      · exact .refl
      · exact moves_endPending hfind
  · intro t guid
    simp only [stopActiveOf]
    split
    · exact .refl
    · rename_i entry hfind
      split
      · exact .refl
      · exact moves_endActive hfind save

theorem moves_promotePending (s : HeadlessSessionMgr) (around : Surroundings) :
    Moves s (s.promotePending around) := by
  refine moves_foldl ?_ _ s
  intro t guid
  simp only [promoteEntry]
  split
  · exact .refl
  · rename_i entry hfind
    split
    · exact moves_endPending hfind
    · rename_i hfree
      have hnone : t.sessions.find? guid = none :=
        Option.not_isSome_iff_eq_none.mp fun hsome => hfree (Or.inl hsome)
      exact Moves.refl.promote hfind hnone

theorem moves_reclaimForNetwork (s : HeadlessSessionMgr) (guid : UInt64)
    (session replacement : Option Nat) (accountId : UInt32) :
    Moves s (s.reclaimForNetwork guid session replacement accountId).2 := by
  simp only [reclaimForNetwork]
  split
  · rename_i entry session replacement hfind
    split
    · exact .refl
    · rename_i hfits
      split
      · exact .refl
      · rename_i player _
        have hsession : entry.session = session := by
          by_contra hne
          exact hfits (Or.inr (Or.inl hne))
        exact hsession ▸ Moves.refl.endActive (.handedOver player replacement) hfind
  · exact .refl

theorem elapse_le (session : WorldSession) (met : SessionUpdate) (diff : UInt32) {elapsed : UInt32}
    (h : elapsed ≤ 5000) : elapse session met diff elapsed ≤ 5000 := by
  simp only [elapse]
  have hrest : (5000 - elapsed).toNat = 5000 - elapsed.toNat := UInt32.toNat_sub_of_le _ _ h
  have hle : elapsed.toNat ≤ 5000 := UInt32.le_iff_toNat_le.mp h
  rw [UInt32.le_iff_toNat_le]
  split
  · split
    · rename_i hdiff
      have hlt := UInt32.lt_iff_toNat_lt.mp hdiff
      rw [UInt32.toNat_add, Nat.mod_eq_of_lt (by omega)]
      show _ ≤ 5000
      omega
    · rw [UInt32.toNat_add, hrest, Nat.mod_eq_of_lt (by omega)]
      show _ ≤ 5000
      omega
  · exact Nat.zero_le _

theorem moves_updateEntry (diff : UInt32) (met : Nat → SessionUpdate) (s : HeadlessSessionMgr)
    (guid : UInt64) (h : ∀ entry ∈ s.entries, entry.2.outOfWorldElapsed ≤ 5000) :
    Moves s (s.updateEntry diff met guid) := by
  simp only [updateEntry]
  split
  · exact .refl
  · rename_i entry hfind
    have hentry : entry.outOfWorldElapsed ≤ 5000 :=
      h (guid, entry) (List.mem_append_left _ (Lib.OrderedMap.find?_eq_some hfind))
    split
    · exact moves_endActive hfind true
    · have hwork := Moves.refl.work (s := s)
        (Function.update s.heap entry.session
          ((s.heap entry.session).update (met entry.session)).2)
      split
      · exact hwork.endActive _ hfind
      · exact hwork.elapse hfind (elapse_le _ _ _ hentry)

theorem moves_shutdown (s : HeadlessSessionMgr) : Moves s s.shutdown := by
  refine (moves_foldl ?_ _ s).trans (moves_foldl ?_ _ _)
  · intro t guid
    simp only [shutdownPending]
    split
    · exact .refl
    · rename_i entry hfind
      exact moves_endPending hfind
  · intro t guid
    simp only [shutdownActive]
    split
    · exact .refl
    · rename_i entry hfind
      exact moves_endActive hfind true

end Operations

structure Owned (s : HeadlessSessionMgr) : Prop where
  apart : ∀ guid, s.sessions.find? guid = none ∨ s.pendingSessions.find? guid = none
  once : (s.entries.map (·.2.session) ++ s.ended.map (·.session)).Perm (List.range s.created)
  grace : ∀ entry ∈ s.entries, entry.2.outOfWorldElapsed ≤ 5000

/-- A session that leaves the entries is the next one that ended. -/
theorem perm_end {before after ended : List Nat} {id : Nat} (h : before.Perm (id :: after)) :
    (after ++ (ended ++ [id])).Perm (before ++ ended) := by
  calc
    (after ++ (ended ++ [id])).Perm ((after ++ ended) ++ [id]) := by rw [List.append_assoc]
    List.Perm _ (id :: (after ++ ended)) := List.perm_append_singleton _ _
    List.Perm _ (before ++ ended) := (h.append_right ended).symm

section Preserved

variable {guid : UInt64} {entry : SessionEntry}

theorem perm_entries_active (h : s.sessions.find? guid = some entry) :
    s.entries.Perm
      ((guid, entry) :: ((s.sessions.erase guid).entries ++ s.pendingSessions.entries)) :=
  (Lib.OrderedMap.perm_erase (Lib.OrderedMap.find?_eq_some h)).append_right _

theorem perm_entries_pending (h : s.pendingSessions.find? guid = some entry) :
    s.entries.Perm
      ((guid, entry) :: (s.sessions.entries ++ (s.pendingSessions.erase guid).entries)) :=
  ((Lib.OrderedMap.perm_erase (Lib.OrderedMap.find?_eq_some h)).append_left _).trans
    List.perm_middle

theorem find?_erase_none {map : Lib.OrderedMap UInt64 SessionEntry} {other : UInt64}
    (h : map.find? other = none) : (map.erase guid).find? other = none := by
  by_cases hsame : other = guid
  · exact hsame ▸ map.find?_erase_self other
  · exact (map.find?_erase_of_ne hsame).trans h

theorem Owned.moves (h : Owned s) (hmoves : Moves s t) : Owned t := by
  induction hmoves with
  | refl => exact h
  | work heap _ ih => exact ⟨ih.apart, ih.once, ih.grace⟩
  | @endPending t guid entry ending _ found ih =>
      have hperm := perm_entries_pending found
      refine { apart := fun other => ?_, once := ?_, grace := fun other hother => ?_ }
      · exact (ih.apart other).imp_right find?_erase_none
      · rw [List.map_append]
        exact (perm_end (hperm.map (·.2.session))).trans ih.once
      · exact ih.grace other (hperm.mem_iff.mpr (List.mem_cons_of_mem _ hother))
  | @endActive t guid entry ending _ found ih =>
      have hperm := perm_entries_active found
      refine { apart := fun other => ?_, once := ?_, grace := fun other hother => ?_ }
      · exact (ih.apart other).imp_left find?_erase_none
      · rw [List.map_append]
        exact (perm_end (hperm.map (·.2.session))).trans ih.once
      · exact ih.grace other (hperm.mem_iff.mpr (List.mem_cons_of_mem _ hother))
  | @promote t guid entry _ found free ih =>
      have hperm : List.Perm ((t.sessions.assign guid entry).entries ++
          (t.pendingSessions.erase guid).entries) t.entries := by
        have hassign := t.sessions.perm_assign guid entry
        rw [Lib.OrderedMap.erase_of_none free] at hassign
        exact (hassign.append_right _).trans (perm_entries_pending found).symm
      refine { apart := fun other => ?_, once := ?_, grace := fun other hother => ?_ }
      · by_cases hsame : other = guid
        · exact Or.inr (hsame ▸ t.pendingSessions.find?_erase_self other)
        · exact (ih.apart other).imp (t.sessions.find?_assign_of_ne hsame entry).trans
            find?_erase_none
      · exact ((hperm.map (·.2.session)).append_right _).trans ih.once
      · exact ih.grace other (hperm.mem_iff.mp hother)
  | @elapse t guid entry elapsed _ found grace ih =>
      have hassign := (t.sessions.perm_assign guid
        { entry with outOfWorldElapsed := elapsed }).append_right t.pendingSessions.entries
      have hperm := perm_entries_active found
      refine { apart := fun other => ?_, once := ?_, grace := fun other hother => ?_ }
      · by_cases hsame : other = guid
        · subst hsame
          exact (ih.apart other).imp_left fun hnone => nomatch hnone.symm.trans found
        · exact (ih.apart other).imp_left (t.sessions.find?_assign_of_ne hsame _).trans
      · refine List.Perm.trans (List.Perm.append_right _ ?_) ih.once
        exact (hassign.map (·.2.session)).trans (hperm.map (·.2.session)).symm
      · cases List.mem_cons.mp (hassign.mem_iff.mp hother) with
        | inl hnew => exact hnew ▸ grace
        | inr hold => exact ih.grace other (hperm.mem_iff.mpr (List.mem_cons_of_mem _ hold))

theorem moves_update (h : Owned s) (diff : UInt32) (met : Nat → SessionUpdate) :
    Moves s (s.update diff met) := by
  simp only [update]
  generalize s.sessions.entries.map (·.1) = guids
  induction guids generalizing s with
  | nil => exact .refl
  | cons guid guids ih =>
      have hone := moves_updateEntry diff met s guid h.grace
      exact hone.trans (ih (h.moves hone))

theorem moves_stop (hdepth : s.stopDeferralDepth = 0) (guid : UInt64) (save : Bool) :
    Moves s (s.stop guid save).2 := by
  simp only [stop, if_neg (not_not.mpr hdepth)]
  split
  · rename_i entry hfind
    exact moves_endActive hfind save
  · split
    · exact .refl
    · rename_i entry hfind
      exact moves_endPending hfind

theorem stop_cases (s : HeadlessSessionMgr) (guid : UInt64) (save : Bool) :
    Moves s (s.stop guid save).2 ∨
      ∃ entry, s.current? guid = some entry ∧ (s.stop guid save).2 =
        s.deferStop guid entry save := by
  by_cases hdepth : s.stopDeferralDepth = 0
  · exact Or.inl (moves_stop hdepth guid save)
  · simp only [stop, if_pos hdepth]
    split
    · exact Or.inl .refl
    · rename_i entry hfind
      exact Or.inr ⟨entry, hfind, rfl⟩

theorem Owned.stop (h : Owned s) (guid : UInt64) (save : Bool) : Owned (s.stop guid save).2 := by
  cases stop_cases s guid save with
  | inl hmoves => exact h.moves hmoves
  | inr hdefer =>
      obtain ⟨entry, -, hstop⟩ := hdefer
      rw [hstop]
      exact ⟨h.apart, h.once, h.grace⟩

theorem Owned.endStopDeferral (h : Owned s) : Owned s.endStopDeferral := by
  simp only [HeadlessSessionMgr.endStopDeferral]
  split
  · exact h
  · split
    · exact ⟨h.apart, h.once, h.grace⟩
    · have hstart :
        Owned { s with stopDeferralDepth := 0, deferredStops := .empty, requests := [] } :=
        ⟨h.apart, h.once, h.grace⟩
      refine @Lib.run_always _ _ applyStop _ (fun t stop ht => ?_) _ hstart _
      simp only [applyStop]
      split
      · exact ht.stop _ _
      · exact ht

end Preserved

section Starts

theorem Owned.enroll (h : Owned s) {guid : UInt64} (hactive : s.sessions.find? guid = none)
    (hpending : s.pendingSessions.find? guid = none) (accountId : UInt32) :
    Owned (s.enroll accountId guid) := by
  have hassign := s.pendingSessions.perm_assign guid
    { session := s.created
      accountId := accountId
      characterGuid := guid
      requestToken := s.newRequestToken }
  rw [Lib.OrderedMap.erase_of_none hpending] at hassign
  have hperm := (hassign.append_left s.sessions.entries).trans List.perm_middle
  refine { apart := fun other => ?_, once := ?_, grace := fun other hother => ?_ }
  · by_cases hsame : other = guid
    · exact Or.inl (hsame ▸ hactive)
    · exact (h.apart other).imp_right (s.pendingSessions.find?_assign_of_ne hsame _).trans
  · refine ((hperm.map (·.2.session)).append_right _).trans ?_
    rw [HeadlessSessionMgr.enroll, List.range_succ]
    exact (h.once.cons s.created).trans (List.perm_append_singleton _ _).symm
  · cases List.mem_cons.mp (hperm.mem_iff.mp hother) with
    | inl hnew => exact hnew ▸ UInt32.le_iff_toNat_le.mpr (Nat.zero_le _)
    | inr hold => exact h.grace other hold

theorem free_of_validateStart {around : Surroundings} {accountId : UInt32} {guid : UInt64}
    (h : s.validateStart around accountId guid = .started) :
    s.sessions.find? guid = none ∧ s.pendingSessions.find? guid = none := by
  by_contra htaken
  have hduplicate : (s.sessions.find? guid).isSome ∨ (s.pendingSessions.find? guid).isSome := by
    cases hactive : s.sessions.find? guid with
    | some entry => exact Or.inl rfl
    | none =>
        cases hpending : s.pendingSessions.find? guid with
        | some entry => exact Or.inr rfl
        | none => exact absurd ⟨hactive, hpending⟩ htaken
  simp only [validateStart, if_pos hduplicate] at h
  repeat' split at h
  all_goals cases h

end Starts

section Logins

/-- The login query holders are the same. -/
structure SameHolders (s t : HeadlessSessionMgr) : Prop where
  inFlight : t.inFlight = s.inFlight
  made : t.made = s.made
  consumed : t.consumed = s.consumed

theorem Moves.sameHolders (h : Moves s t) : SameHolders s t := by
  induction h with
  | refl => exact ⟨rfl, rfl, rfl⟩
  | work _ _ ih => exact ⟨ih.inFlight, ih.made, ih.consumed⟩
  | endPending _ _ _ ih => exact ⟨ih.inFlight, ih.made, ih.consumed⟩
  | endActive _ _ _ ih => exact ⟨ih.inFlight, ih.made, ih.consumed⟩
  | promote _ _ _ ih => exact ⟨ih.inFlight, ih.made, ih.consumed⟩
  | elapse _ _ _ ih => exact ⟨ih.inFlight, ih.made, ih.consumed⟩

theorem sameHolders_stop (s : HeadlessSessionMgr) (guid : UInt64) (save : Bool) :
    SameHolders s (s.stop guid save).2 := by
  cases stop_cases s guid save with
  | inl hmoves => exact hmoves.sameHolders
  | inr hdefer =>
      obtain ⟨entry, -, hstop⟩ := hdefer
      rw [hstop]
      exact ⟨rfl, rfl, rfl⟩

theorem sameHolders_endStopDeferral (s : HeadlessSessionMgr) :
    SameHolders s s.endStopDeferral := by
  simp only [HeadlessSessionMgr.endStopDeferral]
  split
  · exact ⟨rfl, rfl, rfl⟩
  · split
    · exact ⟨rfl, rfl, rfl⟩
    · have hstart : SameHolders s
          { s with stopDeferralDepth := 0, deferredStops := .empty, requests := [] } :=
        ⟨rfl, rfl, rfl⟩
      refine @Lib.run_always _ _ applyStop _ (fun t stop ht => ?_) _ hstart _
      simp only [applyStop]
      split
      · have hstop := sameHolders_stop t stop.1 stop.2.save
        exact ⟨hstop.inFlight.trans ht.inFlight, hstop.made.trans ht.made,
          hstop.consumed.trans ht.consumed⟩
      · exact ht

def StopsLogin (s : HeadlessSessionMgr) (around : Surroundings) (holder : LoginQueryHolder)
    (entry : SessionEntry) : Prop :=
  around.accountBanned holder.accountId = false ∧
    (isRefused around holder = true ∨ ∃ livePlayer, around.player holder.guid = some livePlayer ∧
      (s.heap entry.session).player ≠ some livePlayer)

variable {around : Surroundings} {holder : LoginQueryHolder} {entry : SessionEntry}

theorem find?_of_findEntry (h : s.findEntry holder = some entry) :
    s.sessions.find? holder.guid = some entry ∨ s.pendingSessions.find? holder.guid =
      some entry := by
  simp only [findEntry] at h
  split at h
  · rename_i found hfound
    cases h
    exact Or.inl (Option.eq_some_of_filter_eq_some hfound)
  · exact Or.inr (Option.eq_some_of_filter_eq_some h)

theorem loginEntry_eq (around : Surroundings) (h : Owned s)
    (hentry : s.findEntry holder = some entry) :
    ∃ t, s.loginEntry around entry holder = t.consume holder ∧ Moves s t := by
  simp only [loginEntry]
  split
  · exact ⟨_, rfl, Moves.refl.work _⟩
  · rename_i pending hpending
    have hfree : s.sessions.find? holder.guid = none :=
      (h.apart holder.guid).resolve_right fun hnone => nomatch hnone.symm.trans hpending
    have hsame : s.pendingSessions.find? holder.guid = some entry :=
      (find?_of_findEntry hentry).resolve_left fun hactive => nomatch hactive.symm.trans hfree
    split
    · rename_i active hactive
      exact nomatch hactive.symm.trans hfree
    · exact ⟨_, rfl, (Moves.refl.promote hsame hfree).work _⟩

theorem handleLoginCallback_cases (h : Owned s) (around : Surroundings)
    (holder : LoginQueryHolder) :
    ∃ t, s.handleLoginCallback around holder = t.consume holder ∧
      (Moves s t ∨ ∃ entry, s.findEntry holder = some entry ∧ StopsLogin s around holder entry ∧
        t = (s.stop holder.guid false).2) := by
  simp only [handleLoginCallback]
  split
  · exact ⟨s, rfl, Or.inl .refl⟩
  · split
    · exact ⟨s, rfl, Or.inl .refl⟩
    · rename_i entry hentry
      split
      · exact ⟨_, rfl, Or.inl (moves_stopForAccount s _ true)⟩
      · rename_i hbanned
        have hbanned := Bool.eq_false_of_not_eq_true hbanned
        split
        · rename_i hrefused
          exact ⟨_, rfl, Or.inr ⟨entry, hentry, ⟨hbanned, Or.inl hrefused⟩, rfl⟩⟩
        · split
          · rename_i livePlayer hlive
            split
            · rename_i hother
              exact ⟨_, rfl, Or.inr ⟨entry, hentry, ⟨hbanned, Or.inr ⟨livePlayer, hlive, hother⟩⟩,
                rfl⟩⟩
            · exact ⟨s, rfl, Or.inl .refl⟩
          · obtain ⟨t, heq, hmoves⟩ := loginEntry_eq around h hentry
            exact ⟨t, heq, Or.inl hmoves⟩

theorem Owned.consume (h : Owned s) (holder : LoginQueryHolder) : Owned (s.consume holder) :=
  ⟨h.apart, h.once, h.grace⟩

theorem Owned.handleLoginCallback (h : Owned s) (around : Surroundings)
    (holder : LoginQueryHolder) : Owned (s.handleLoginCallback around holder) := by
  obtain ⟨t, heq, hcases⟩ := handleLoginCallback_cases h around holder
  rw [heq]
  refine Owned.consume ?_ holder
  cases hcases with
  | inl hmoves => exact h.moves hmoves
  | inr hstops =>
      obtain ⟨entry, -, -, rfl⟩ := hstops
      exact h.stop _ _

theorem handleLoginCallback_holders (h : Owned s) (around : Surroundings)
    (holder : LoginQueryHolder) :
    SameHolders (s.consume holder) (s.handleLoginCallback around holder) := by
  obtain ⟨t, heq, hcases⟩ := handleLoginCallback_cases h around holder
  have hsame : SameHolders s t := by
    cases hcases with
    | inl hmoves => exact hmoves.sameHolders
    | inr hstops =>
        obtain ⟨entry, -, -, rfl⟩ := hstops
        exact sameHolders_stop s _ _
  rw [heq]
  exact ⟨hsame.inFlight, hsame.made, congrArg (· ++ [holder.id]) hsame.consumed⟩

theorem late_callback (around : Surroundings) (holder : LoginQueryHolder)
    (h : ∀ entry, s.sessions.find? holder.guid = some entry ∨
        s.pendingSessions.find? holder.guid = some entry →
      entry.requestToken ≠ holder.requestToken) :
    s.handleLoginCallback around holder = s.consume holder := by
  simp only [HeadlessSessionMgr.handleLoginCallback]
  split
  · rfl
  · split
    · rfl
    · rename_i entry hentry
      have hmatches : s.isEntryOf holder entry = true := by
        simp only [findEntry] at hentry
        split at hentry
        · rename_i found hfound
          cases hentry
          exact (Option.filter_eq_some_iff.mp hfound).2
        · exact (Option.filter_eq_some_iff.mp hentry).2
      exact absurd (of_decide_eq_true hmatches).2.2.1 (h entry (find?_of_findEntry hentry))

end Logins

section Steps

variable {around : Surroundings}

theorem loginPlayer_cases (s : HeadlessSessionMgr) (around : Surroundings) (id : Nat)
    (guid token : UInt64) :
    ∃ t holder, Moves s t ∧ holder.id = t.made ∧
      ((s.loginPlayer around id guid token).2 = t ∨
        (s.loginPlayer around id guid token).2 = ({ t with made := t.made + 1 }).consume holder ∨
        (s.loginPlayer around id guid token).2 =
          { t with made := t.made + 1, inFlight := t.inFlight ++ [holder] }) := by
  simp only [loginPlayer]
  split
  · exact ⟨s, ⟨s.made, 0, 0, .headless, 0⟩, .refl, rfl, Or.inl rfl⟩
  · split
    · exact ⟨s, _, .refl, rfl, Or.inr (Or.inl rfl)⟩
    · split
      · exact ⟨_, _, Moves.refl.work _, rfl, Or.inr (Or.inl rfl)⟩
      · exact ⟨_, _, Moves.refl.work _, rfl, Or.inr (Or.inr rfl)⟩

/-- Every holder that was made is on its way or consumed, and only once. -/
def Spent (s : HeadlessSessionMgr) : Prop :=
  (s.inFlight.map (·.id) ++ s.consumed).Perm (List.range s.made)

theorem Spent.same (h : Spent s) (hsame : SameHolders s t) : Spent t := by
  rw [Spent, hsame.inFlight, hsame.made, hsame.consumed]
  exact h

theorem Spent.consume (h : Spent s) (holder : LoginQueryHolder) (hid : holder.id = s.made) :
    Spent (({ s with made := s.made + 1 }).consume holder) := by
  rw [Spent, HeadlessSessionMgr.consume, List.range_succ, ← List.append_assoc, hid]
  exact h.append_right _

theorem Spent.send (h : Spent s) (holder : LoginQueryHolder) (hid : holder.id = s.made) :
    Spent { s with made := s.made + 1, inFlight := s.inFlight ++ [holder] } := by
  rw [Spent, List.range_succ, List.map_append, List.append_assoc, List.map_singleton, hid]
  exact List.perm_middle.trans ((h.cons s.made).trans (List.perm_append_singleton _ _).symm)

/-- A start that dispatched its query, or whose session ended again. -/
theorem start_cases (s : HeadlessSessionMgr) (around : Surroundings) (accountId : UInt32)
    (guid : UInt64) :
    (s.start around accountId guid).2 = s ∨
      s.sessions.find? guid = none ∧ s.pendingSessions.find? guid = none ∧
        ∃ t u, Moves (s.enroll accountId guid) t ∧ Moves u (s.start around accountId guid).2 ∧
          ∃ holder, holder.id = t.made ∧ (u = t ∨
            u = ({ t with made := t.made + 1 }).consume holder ∨
            u = { t with made := t.made + 1, inFlight := t.inFlight ++ [holder] }) := by
  simp only [HeadlessSessionMgr.start]
  split
  · exact Or.inl rfl
  · rename_i hstarted
    obtain ⟨hactive, hpending⟩ := free_of_validateStart (not_not.mp hstarted)
    rw [if_neg (by simp [hpending])]
    obtain ⟨t, holder, hmoves, hid, hcases⟩ := loginPlayer_cases (s.enroll accountId guid) around
      s.created guid s.newRequestToken
    refine Or.inr ⟨hactive, hpending, t, _, hmoves, ?_, holder, hid, hcases⟩
    split
    · exact .refl
    · split
      · exact .refl
      · rename_i pending hfind
        split
        · exact moves_endPending hfind
        · exact .refl

theorem Owned.start (h : Owned s) (around : Surroundings) (accountId : UInt32) (guid : UInt64) :
    Owned (s.start around accountId guid).2 := by
  cases start_cases s around accountId guid with
  | inl hsame => exact hsame.symm ▸ h
  | inr hnew =>
      obtain ⟨hactive, hpending, t, u, hmoves, hend, holder, -, hcases⟩ := hnew
      have ht := (h.enroll hactive hpending accountId).moves hmoves
      refine Owned.moves ?_ hend
      rcases hcases with rfl | rfl | rfl
      · exact ht
      · exact ⟨ht.apart, ht.once, ht.grace⟩
      · exact ⟨ht.apart, ht.once, ht.grace⟩

theorem Spent.start (h : Spent s) (around : Surroundings) (accountId : UInt32) (guid : UInt64) :
    Spent (s.start around accountId guid).2 := by
  cases start_cases s around accountId guid with
  | inl hsame => exact hsame.symm ▸ h
  | inr hnew =>
      obtain ⟨-, -, t, u, hmoves, hend, holder, hid, hcases⟩ := hnew
      have henroll : Spent (s.enroll accountId guid) := h
      have ht := henroll.same hmoves.sameHolders
      refine Spent.same ?_ hend.sameHolders
      rcases hcases with rfl | rfl | rfl
      · exact ht
      · exact ht.consume holder hid
      · exact ht.send holder hid

theorem startPrepared_cases (s : HeadlessSessionMgr) (around : Surroundings)
    (holder : LoginQueryHolder) :
    (s.startPrepared around holder).2 = s.consume holder ∨
      holder.transport = .headless ∧
        s.validateStart around holder.accountId holder.guid = .started ∧
        ∃ login : LoginQueryHolder, login = { holder with requestToken := s.newRequestToken } ∧
          let t := ((s.enroll holder.accountId holder.guid).bindLogin s.created holder.guid
            s.newRequestToken).handleLoginCallback around login
          (s.startPrepared around holder).2 = t ∨
            t.isLoggedIn holder.guid s.newRequestToken = false ∧
              (t.findEntry login).isSome ∧
              (s.startPrepared around holder).2 = (t.stop holder.guid false).2 := by
  simp only [HeadlessSessionMgr.startPrepared]
  split
  · exact Or.inl rfl
  · rename_i hprepared
    have htransport : holder.transport = .headless := by
      by_contra hne
      exact hprepared (Or.inl hne)
    split
    · exact Or.inl rfl
    · rename_i hstarted
      have hstarted := not_not.mp hstarted
      obtain ⟨-, hpending⟩ := free_of_validateStart hstarted
      rw [if_neg (by simp [hpending])]
      refine Or.inr ⟨htransport, hstarted, _, rfl, ?_⟩
      split
      · exact Or.inl rfl
      · rename_i hlogged
        split
        · rename_i hentry
          exact Or.inr ⟨Bool.eq_false_of_not_eq_true hlogged, hentry, rfl⟩
        · exact Or.inl rfl

theorem Owned.bindLogin (h : Owned s) (id : Nat) (guid token : UInt64) :
    Owned (s.bindLogin id guid token) := ⟨h.apart, h.once, h.grace⟩

theorem Owned.startPrepared (h : Owned s) (around : Surroundings) (holder : LoginQueryHolder) :
    Owned (s.startPrepared around holder).2 ∧
      SameHolders (s.consume holder) (s.startPrepared around holder).2 := by
  cases startPrepared_cases s around holder with
  | inl hconsumed => exact hconsumed.symm ▸ ⟨h.consume holder, rfl, rfl, rfl⟩
  | inr hnew =>
      obtain ⟨-, hstarted, login, rfl, hcases⟩ := hnew
      obtain ⟨hactive, hpending⟩ := free_of_validateStart hstarted
      have hbound := (h.enroll hactive hpending holder.accountId).bindLogin s.created holder.guid
        s.newRequestToken
      have hcallback := hbound.handleLoginCallback around
        { holder with requestToken := s.newRequestToken }
      have hsame := handleLoginCallback_holders hbound around
        { holder with requestToken := s.newRequestToken }
      cases hcases with
      | inl hend =>
          rw [hend]
          exact ⟨hcallback, hsame.inFlight, hsame.made, hsame.consumed⟩
      | inr hstop =>
          rw [hstop.2.2]
          have hstopped := sameHolders_stop (((s.enroll holder.accountId holder.guid).bindLogin
            s.created holder.guid s.newRequestToken).handleLoginCallback around
              { holder with requestToken := s.newRequestToken }) holder.guid false
          exact ⟨hcallback.stop _ _, hstopped.inFlight.trans hsame.inFlight,
            hstopped.made.trans hsame.made, hstopped.consumed.trans hsame.consumed⟩

/-- A holder that reached the manager is no longer on its way. -/
theorem perm_deliver {index : Nat} {holder : LoginQueryHolder}
    (h : s.inFlight[index]? = some holder) :
    (((s.inFlight.eraseIdx index).map (·.id)) ++ (s.consumed ++ [holder.id])).Perm
      (s.inFlight.map (·.id) ++ s.consumed) := by
  obtain ⟨hlt, rfl⟩ := List.getElem?_eq_some_iff.mp h
  have hperm : s.inFlight.Perm (s.inFlight[index] :: s.inFlight.eraseIdx index) :=
    (List.getElem_cons_eraseIdx_perm hlt).symm
  exact perm_end (hperm.map (·.id))

theorem Owned.step (h : Owned s) (e : HeadlessEvent) : Owned (s.step e) := by
  cases e with
  | start around accountId guid => exact h.start around accountId guid
  | startPrepared around holder =>
      cases holder with
      | none => exact h
      | some data =>
          have hmade : Owned { s with made := s.made + 1 } := ⟨h.apart, h.once, h.grace⟩
          exact (hmade.startPrepared around (s.newHolder data)).1
  | stop guid save => exact h.stop guid save
  | stopForAccount accountId save => exact h.moves (moves_stopForAccount s accountId save)
  | handleLoginCallback around index =>
      simp only [HeadlessSessionMgr.step]
      split
      · exact h
      · rename_i holder _
        have hsent : Owned { s with inFlight := s.inFlight.eraseIdx index } :=
          ⟨h.apart, h.once, h.grace⟩
        exact hsent.handleLoginCallback around holder
  | reclaimForNetwork guid session replacement accountId =>
      exact h.moves (moves_reclaimForNetwork s guid session replacement accountId)
  | promotePending around => exact h.moves (moves_promotePending s around)
  | beginStopDeferral => exact ⟨h.apart, h.once, h.grace⟩
  | endStopDeferral => exact h.endStopDeferral
  | update diff met => exact h.moves (moves_update h diff met)
  | shutdown => exact h.moves (moves_shutdown s)
  | otherLogin data => exact ⟨h.apart, h.once, h.grace⟩
  | work change => exact ⟨h.apart, h.once, h.grace⟩

theorem Spent.step (h : Spent s) (howned : Owned s) (e : HeadlessEvent) : Spent (s.step e) := by
  cases e with
  | start around accountId guid => exact h.start around accountId guid
  | startPrepared around holder =>
      cases holder with
      | none => exact h
      | some data =>
          have hmade : Owned { s with made := s.made + 1 } :=
            ⟨howned.apart, howned.once, howned.grace⟩
          exact (h.consume (s.newHolder data) rfl).same
            (hmade.startPrepared around (s.newHolder data)).2
  | stop guid save => exact h.same (sameHolders_stop s guid save)
  | stopForAccount accountId save =>
      exact h.same (moves_stopForAccount s accountId save).sameHolders
  | handleLoginCallback around index =>
      simp only [HeadlessSessionMgr.step]
      split
      · exact h
      · rename_i holder hholder
        have hsent : Owned { s with inFlight := s.inFlight.eraseIdx index } :=
          ⟨howned.apart, howned.once, howned.grace⟩
        refine Spent.same ?_ (handleLoginCallback_holders hsent around holder)
        exact (perm_deliver hholder).trans h
  | reclaimForNetwork guid session replacement accountId =>
      exact h.same (moves_reclaimForNetwork s guid session replacement accountId).sameHolders
  | promotePending around => exact h.same (moves_promotePending s around).sameHolders
  | beginStopDeferral => exact h
  | endStopDeferral => exact h.same (sameHolders_endStopDeferral s)
  | update diff met => exact h.same (moves_update howned diff met).sameHolders
  | shutdown => exact h.same (moves_shutdown s).sameHolders
  | otherLogin data => exact h.send (s.newHolder data) rfl
  | work change => exact h

theorem shutdown_entries (s : HeadlessSessionMgr) : s.shutdown.entries = [] := by
  have hpending : ∀ (guids : List UInt64) (t : HeadlessSessionMgr),
      (∀ entry ∈ t.pendingSessions.entries, entry.1 ∈ guids) →
      (guids.foldl shutdownPending t).pendingSessions.entries = [] := by
    intro guids
    induction guids with
    | nil => exact fun t ht => List.eq_nil_iff_forall_not_mem.mpr fun entry hentry =>
        absurd (ht entry hentry) List.not_mem_nil
    | cons guid guids ih =>
        intro t ht
        refine ih (t.shutdownPending guid) fun entry hentry => ?_
        simp only [shutdownPending] at hentry
        split at hentry
        · rename_i hnone
          have hne := Lib.OrderedMap.find?_eq_none.mp hnone entry hentry
          exact List.mem_of_ne_of_mem hne (ht entry hentry)
        · obtain ⟨hmem, hne⟩ := Lib.OrderedMap.mem_erase.mp hentry
          exact List.mem_of_ne_of_mem hne (ht entry hmem)
  have hactive : ∀ (guids : List UInt64) (t : HeadlessSessionMgr),
      t.pendingSessions.entries = [] → (∀ entry ∈ t.sessions.entries, entry.1 ∈ guids) →
      (guids.foldl shutdownActive t).entries = [] := by
    intro guids
    induction guids with
    | nil =>
        intro t hnone ht
        have hsessions : t.sessions.entries = [] :=
          List.eq_nil_iff_forall_not_mem.mpr fun entry hentry =>
            absurd (ht entry hentry) List.not_mem_nil
        simp only [List.foldl_nil, HeadlessSessionMgr.entries, hsessions, hnone, List.append_nil]
    | cons guid guids ih =>
        intro t hnone ht
        refine ih (t.shutdownActive guid) ?_ fun entry hentry => ?_
        · simp only [shutdownActive]
          split
          · exact hnone
          · exact hnone
        · simp only [shutdownActive] at hentry
          split at hentry
          · rename_i hfind
            have hne := Lib.OrderedMap.find?_eq_none.mp hfind entry hentry
            exact List.mem_of_ne_of_mem hne (ht entry hentry)
          · obtain ⟨hmem, hne⟩ := Lib.OrderedMap.mem_erase.mp hentry
            exact List.mem_of_ne_of_mem hne (ht entry hmem)
  refine hactive _ _ (hpending _ s fun entry hentry => ?_) fun entry hentry => ?_
  · exact List.mem_map_of_mem hentry
  · exact List.mem_map_of_mem hentry

end Steps

section Runs

theorem owned_start : Owned {} where
  apart := fun _ => Or.inl rfl
  once := .nil
  grace := fun _ hentry => absurd hentry List.not_mem_nil

/-- Of the calls of the manager, in any order. -/
theorem sessions_owned_once (events : List HeadlessEvent) :
    let s := Lib.run HeadlessSessionMgr.step {} events
    (∀ guid, s.sessions.find? guid = none ∨ s.pendingSessions.find? guid = none) ∧
      (s.entries.map (·.2.session) ++ s.ended.map (·.session)).Perm (List.range s.created) ∧
      (s.shutdown.ended.map (·.session)).Perm (List.range s.shutdown.created) ∧
      (s.inFlight.map (·.id) ++ s.consumed).Perm (List.range s.made) ∧
      (∀ entry ∈ s.entries, entry.2.outOfWorldElapsed ≤ 5000) ∧
      ∀ around holder, (∀ entry, s.sessions.find? holder.guid = some entry ∨
          s.pendingSessions.find? holder.guid = some entry →
        entry.requestToken ≠ holder.requestToken) →
          s.handleLoginCallback around holder = s.consume holder := by
  intro s
  have hkept : Owned s ∧ Spent s :=
    Lib.run_always (I := fun s => Owned s ∧ Spent s)
      (fun s e hs => ⟨hs.1.step e, hs.2.step hs.1 e⟩) ⟨owned_start, List.Perm.nil⟩ events
  obtain ⟨howned, hspent⟩ := hkept
  have hshutdown := (howned.moves (moves_shutdown s)).once
  rw [shutdown_entries] at hshutdown
  exact ⟨howned.apart, howned.once, hshutdown, hspent, howned.grace,
    fun around holder => late_callback around holder⟩

end Runs

end HeadlessSessionMgr

end TortoiseWow.Headless
