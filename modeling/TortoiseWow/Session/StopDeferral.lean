import TortoiseWow.Session.Ownership

/-!
What becomes of the stops that were deferred. A deferred stop is kept under its character with
the token of the session that was current; a stop of a later session of the character is
merged into it and goes with it. `Window` relates the requests to the deferred stops as long
as no stop meets the deferred stop of an earlier session.
-/

namespace TortoiseWow.Headless

namespace HeadlessSessionMgr

variable {s t u : HeadlessSessionMgr}

def Superseded (s : HeadlessSessionMgr) (guid : UInt64) : Prop :=
  ∃ stop entry, s.deferredStops.find? guid = some stop ∧ s.current? guid = some entry ∧
    stop.token ≠ entry.requestToken

def FreshToken (s : HeadlessSessionMgr) (guid : UInt64) : Prop :=
  ∀ stop, s.deferredStops.find? guid = some stop → stop.token ≠ s.newRequestToken

def InTime (s : HeadlessSessionMgr) : HeadlessEvent → Prop
  | .start _ _ guid => FreshToken s guid
  | .startPrepared _ none => True
  | .startPrepared around (some data) =>
      FreshToken s data.guid ∧
        -- a login that fails is stopped
        (s.stopDeferralDepth ≠ 0 → (s.deferredStops.find? data.guid).isSome →
          s.validateStart around data.accountId data.guid = .started → around.loadFromDB ≠ none)
  | .stop guid _ => s.stopDeferralDepth ≠ 0 → ¬ Superseded s guid
  | .handleLoginCallback around index =>
      ∀ holder entry, s.inFlight[index]? = some holder → s.findEntry holder = some entry →
        StopsLogin s around holder entry → s.stopDeferralDepth ≠ 0 → ¬ Superseded s holder.guid
  | _ => True

structure Window (s : HeadlessSessionMgr) : Prop where
  asked : ∀ guid stop, s.deferredStops.find? guid = some stop → ∃ r ∈ s.requests, r.guid = guid
  merged : ∀ guid stop, s.deferredStops.find? guid = some stop →
    (stop.save = true ↔ ∀ r ∈ s.requests, r.guid = guid → r.save = true)
  token : ∀ r ∈ s.requests, ∃ stop, s.deferredStops.find? r.guid = some stop ∧
    ∀ entry, (r.guid, entry) ∈ s.entries →
      (entry.requestToken = stop.token ↔ entry.session = r.session)
  home : ∀ r ∈ s.requests, ∀ entry ∈ s.entries, entry.2.session = r.session → entry.1 = r.guid
  old : ∀ r ∈ s.requests, r.session < s.created

section Frame

/-- What the moves of sessions leave alone. -/
structure Frame (s t : HeadlessSessionMgr) : Prop where
  depth : t.stopDeferralDepth = s.stopDeferralDepth
  stops : t.deferredStops = s.deferredStops
  requests : t.requests = s.requests
  created : t.created = s.created

theorem Moves.frame (h : Moves s t) : Frame s t := by
  induction h with
  | refl => exact ⟨rfl, rfl, rfl, rfl⟩
  | work _ _ ih => exact ⟨ih.depth, ih.stops, ih.requests, ih.created⟩
  | endPending _ _ _ ih => exact ⟨ih.depth, ih.stops, ih.requests, ih.created⟩
  | endActive _ _ _ ih => exact ⟨ih.depth, ih.stops, ih.requests, ih.created⟩
  | promote _ _ _ ih => exact ⟨ih.depth, ih.stops, ih.requests, ih.created⟩
  | elapse _ _ _ ih => exact ⟨ih.depth, ih.stops, ih.requests, ih.created⟩

theorem Moves.shrinks (h : Moves s t) {entry : UInt64 × SessionEntry} (hentry : entry ∈ t.entries) :
    ∃ old, (entry.1, old) ∈ s.entries ∧ old.session = entry.2.session ∧
      old.requestToken = entry.2.requestToken := by
  induction h generalizing entry with
  | refl => exact ⟨entry.2, hentry, rfl, rfl⟩
  | work _ _ ih => exact ih hentry
  | endPending _ _ found ih =>
      exact ih ((perm_entries_pending found).mem_iff.mpr (List.mem_cons_of_mem _ hentry))
  | endActive _ _ found ih =>
      exact ih ((perm_entries_active found).mem_iff.mpr (List.mem_cons_of_mem _ hentry))
  | @promote t guid moved _ found free ih =>
      refine ih ?_
      cases List.mem_append.mp hentry with
      | inl hactive =>
          cases (Lib.OrderedMap.mem_assignEntries t.sessions.sorted).mp hactive with
          | inl hmoved =>
              exact List.mem_append_right _ (hmoved ▸ Lib.OrderedMap.find?_eq_some found)
          | inr hother => exact List.mem_append_left _ hother.1
      | inr hpending => exact List.mem_append_right _ (Lib.OrderedMap.mem_erase.mp hpending).1
  | @elapse t guid aged elapsed _ found grace ih =>
      cases List.mem_append.mp hentry with
      | inl hactive =>
          cases (Lib.OrderedMap.mem_assignEntries t.sessions.sorted).mp hactive with
          | inl haged =>
              subst haged
              have hold : (guid, aged) ∈ t.entries :=
                List.mem_append_left _ (Lib.OrderedMap.find?_eq_some found)
              have hkept := ih hold
              exact hkept
          | inr hother => exact ih (List.mem_append_left _ hother.1)
      | inr hpending => exact ih (List.mem_append_right _ hpending)

theorem Window.moves (h : Window s) (hmoves : Moves s t) : Window t := by
  have hframe := hmoves.frame
  refine { asked := ?_, merged := ?_, token := ?_, home := ?_, old := ?_ }
  · rw [hframe.stops, hframe.requests]
    exact h.asked
  · rw [hframe.stops, hframe.requests]
    exact h.merged
  · rw [hframe.stops, hframe.requests]
    intro r hr
    obtain ⟨stop, hstop, htoken⟩ := h.token r hr
    refine ⟨stop, hstop, fun entry hentry => ?_⟩
    obtain ⟨old, hold, hsession, hrequest⟩ := hmoves.shrinks hentry
    exact hsession ▸ hrequest ▸ htoken old hold
  · rw [hframe.requests]
    intro r hr entry hentry hsession
    obtain ⟨old, hold, holdSession, -⟩ := hmoves.shrinks hentry
    exact h.home r hr (entry.1, old) hold (holdSession.trans hsession)
  · rw [hframe.requests, hframe.created]
    exact h.old

end Frame

section Stops

variable {guid : UInt64} {entry : SessionEntry}

theorem mem_entries_of_current? (h : s.current? guid = some entry) : (guid, entry) ∈ s.entries := by
  simp only [current?] at h
  split at h
  · rename_i active hactive
    cases h
    exact List.mem_append_left _ (Lib.OrderedMap.find?_eq_some hactive)
  · exact List.mem_append_right _ (Lib.OrderedMap.find?_eq_some h)

theorem current?_of_mem (h : Owned s) (hentry : (guid, entry) ∈ s.entries) :
    s.current? guid = some entry := by
  simp only [current?]
  cases List.mem_append.mp hentry with
  | inl hactive => rw [Lib.OrderedMap.find?_of_mem hactive]
  | inr hpending =>
      have hfound := Lib.OrderedMap.find?_of_mem hpending
      have hnone := (h.apart guid).resolve_right fun hnone => nomatch hnone.symm.trans hfound
      rw [hnone]
      exact hfound

theorem Owned.sessions_nodup (h : Owned s) : (s.entries.map (·.2.session)).Nodup :=
  (List.nodup_append.mp (h.once.nodup_iff.mpr List.nodup_range)).1

theorem Owned.session_lt (h : Owned s) {entry : UInt64 × SessionEntry}
    (hentry : entry ∈ s.entries) :
    entry.2.session < s.created :=
  List.mem_range.mp (h.once.mem_iff.mp
    (List.mem_append_left _ (List.mem_map_of_mem hentry)))

theorem Window.deferStop (h : Window s) (howned : Owned s) (hentry : s.current? guid = some entry)
    (hintime : ¬ Superseded s guid) (save : Bool) : Window (s.deferStop guid entry save) := by
  have hmem := mem_entries_of_current? hentry
  -- the token that is recorded is the one of the current session
  have hstop : ∃ stop, (s.deferStop guid entry save).deferredStops =
    s.deferredStops.assign guid stop ∧
      stop.token = entry.requestToken ∧
      (stop.save = true ↔ (∀ r ∈ s.requests, r.guid = guid → r.save = true) ∧ save = true) := by
    refine ⟨_, rfl, ?_⟩
    cases hfind : s.deferredStops.find? guid with
    | some stop =>
        refine ⟨?_, ?_⟩
        · by_contra hne
          exact hintime ⟨stop, entry, hfind, hentry, hne⟩
        · rw [← h.merged guid stop hfind]
          exact Bool.and_eq_true_iff
    | none =>
        refine ⟨rfl, fun hsave => ⟨fun r hr hguid => ?_, hsave⟩, And.right⟩
        obtain ⟨stop, hstop, -⟩ := h.token r hr
        exact nomatch (hguid ▸ hfind).symm.trans hstop
  obtain ⟨stop, hstops, htoken, hsave⟩ := hstop
  have hrequests : (s.deferStop guid entry save).requests =
      s.requests ++ [⟨guid, entry.session, save⟩] := rfl
  refine { asked := ?_, merged := ?_, token := ?_, home := ?_, old := ?_ }
  · intro other stop' hfind
    rw [hrequests]
    by_cases hsame : other = guid
    · exact ⟨_, List.mem_append_right _ List.mem_cons_self, hsame.symm⟩
    · rw [hstops, s.deferredStops.find?_assign_of_ne hsame] at hfind
      obtain ⟨r, hr, hguid⟩ := h.asked other stop' hfind
      exact ⟨r, List.mem_append_left _ hr, hguid⟩
  · intro other stop' hfind
    rw [hrequests]
    by_cases hsame : other = guid
    · subst hsame
      rw [hstops, s.deferredStops.find?_assign_self] at hfind
      cases hfind
      rw [hsave]
      constructor
      · rintro ⟨hold, hnew⟩ r hr hguid
        cases List.mem_append.mp hr with
        | inl hmem => exact hold r hmem hguid
        | inr hmem => exact List.mem_singleton.mp hmem ▸ hnew
      · intro hall
        exact ⟨fun r hr => hall r (List.mem_append_left _ hr),
          hall _ (List.mem_append_right _ List.mem_cons_self) rfl⟩
    · rw [hstops, s.deferredStops.find?_assign_of_ne hsame] at hfind
      rw [h.merged other stop' hfind]
      constructor
      · intro hold r hr hguid
        cases List.mem_append.mp hr with
        | inl hmem => exact hold r hmem hguid
        | inr hmem =>
            cases List.mem_singleton.mp hmem
            exact absurd hguid.symm hsame
      · exact fun hall r hr => hall r (List.mem_append_left _ hr)
  · intro r hr
    rw [hrequests] at hr
    have hself := s.deferredStops.find?_assign_self guid stop
    cases List.mem_append.mp hr with
    | inl hold =>
        obtain ⟨stop', hfind, hiff⟩ := h.token r hold
        by_cases hsame : r.guid = guid
        · refine ⟨stop, hstops ▸ hsame ▸ hself, fun other hother => ?_⟩
          have hone : stop'.token = stop.token := by
            rw [htoken]
            by_contra hne
            exact hintime ⟨stop', entry, hsame ▸ hfind, hentry, hne⟩
          exact hone ▸ hiff other hother
        · exact ⟨stop', hstops ▸ (s.deferredStops.find?_assign_of_ne hsame stop).trans hfind, hiff⟩
    | inr hnew =>
        cases List.mem_singleton.mp hnew
        refine ⟨stop, hstops ▸ hself, fun other hother => ?_⟩
        cases (current?_of_mem howned hother).symm.trans hentry
        exact iff_of_true htoken.symm rfl
  · intro r hr other hother hsession
    cases List.mem_append.mp hr with
    | inl hold => exact h.home r hold other hother hsession
    | inr hnew =>
        cases List.mem_singleton.mp hnew
        have hsame : other = (guid, entry) :=
          List.inj_on_of_nodup_map howned.sessions_nodup hother hmem hsession
        exact hsame ▸ rfl
  · intro r hr
    cases List.mem_append.mp hr with
    | inl hold => exact h.old r hold
    | inr hnew => exact List.mem_singleton.mp hnew ▸ howned.session_lt hmem

theorem Window.stop (h : Window s) (howned : Owned s) (guid : UInt64) (save : Bool)
    (hintime : s.stopDeferralDepth ≠ 0 → ¬ Superseded s guid) : Window (s.stop guid save).2 := by
  by_cases hdepth : s.stopDeferralDepth = 0
  · exact h.moves (moves_stop hdepth guid save)
  · cases stop_cases s guid save with
    | inl hmoves => exact h.moves hmoves
    | inr hdefer =>
        obtain ⟨entry, hentry, hstop⟩ := hdefer
        rw [hstop]
        exact h.deferStop howned hentry (hintime hdepth) save

end Stops

section Starts

variable {around : Surroundings} {holder : LoginQueryHolder}

theorem Window.enroll (h : Window s) {guid : UInt64} (hfree : s.pendingSessions.find? guid = none)
    (hfresh : FreshToken s guid) (accountId : UInt32) : Window (s.enroll accountId guid) := by
  have hassign := s.pendingSessions.perm_assign guid
    { session := s.created
      accountId := accountId
      characterGuid := guid
      requestToken := s.newRequestToken }
  rw [Lib.OrderedMap.erase_of_none hfree] at hassign
  have hperm := (hassign.append_left s.sessions.entries).trans List.perm_middle
  have hnew : ∀ r ∈ s.requests, s.created ≠ r.session := fun r hr => (h.old r hr).ne'
  refine { asked := h.asked, merged := h.merged, token := ?_, home := ?_, old := ?_ }
  · intro r hr
    obtain ⟨stop, hstop, htoken⟩ := h.token r hr
    refine ⟨stop, hstop, fun entry hentry => ?_⟩
    cases List.mem_cons.mp (hperm.mem_iff.mp hentry) with
    | inl hcreated =>
        cases hcreated
        exact iff_of_false (hfresh stop hstop).symm (hnew r hr)
    | inr hold => exact htoken entry hold
  · intro r hr entry hentry hsession
    cases List.mem_cons.mp (hperm.mem_iff.mp hentry) with
    | inl hcreated =>
        subst hcreated
        exact absurd hsession (hnew r hr)
    | inr hold => exact h.home r hr entry hold hsession
  · exact fun r hr => (h.old r hr).trans (Nat.lt_succ_self _)

theorem Window.start (h : Window s) (around : Surroundings) (accountId : UInt32) (guid : UInt64)
    (hfresh : FreshToken s guid) : Window (s.start around accountId guid).2 := by
  cases start_cases s around accountId guid with
  | inl hsame => exact hsame.symm ▸ h
  | inr hnew =>
      obtain ⟨-, hfree, t, u, hmoves, hend, holder, -, hcases⟩ := hnew
      have ht := (h.enroll hfree hfresh accountId).moves hmoves
      refine Window.moves ?_ hend
      rcases hcases with rfl | rfl | rfl
      · exact ht
      · exact ⟨ht.asked, ht.merged, ht.token, ht.home, ht.old⟩
      · exact ⟨ht.asked, ht.merged, ht.token, ht.home, ht.old⟩

theorem Window.consume (h : Window s) (holder : LoginQueryHolder) : Window (s.consume holder) :=
  ⟨h.asked, h.merged, h.token, h.home, h.old⟩

theorem Window.handleLoginCallback (h : Window s) (howned : Owned s) (around : Surroundings)
    (holder : LoginQueryHolder)
    (hintime : ∀ entry, s.findEntry holder = some entry → StopsLogin s around holder entry →
      s.stopDeferralDepth ≠ 0 → ¬ Superseded s holder.guid) :
    Window (s.handleLoginCallback around holder) := by
  obtain ⟨t, heq, hcases⟩ := handleLoginCallback_cases howned around holder
  rw [heq]
  refine Window.consume ?_ holder
  cases hcases with
  | inl hmoves => exact h.moves hmoves
  | inr hstops =>
      obtain ⟨entry, hentry, hstops, rfl⟩ := hstops
      exact h.stop howned _ _ (hintime entry hentry hstops)

/-- The surroundings that let a session start do not stop its login. -/
theorem passes_of_validateStart {accountId : UInt32} {guid : UInt64}
    (h : s.validateStart around accountId guid = .started) :
    around.accountBanned accountId = false ∧ around.characterLocked (getCounter guid) = false ∧
      around.characterAccount (getCounter guid) = some accountId ∧ around.player guid = none := by
  simp only [validateStart] at h
  cases hcharacter : around.characterAccount (getCounter guid) with
  | none =>
      simp only [hcharacter] at h
      split_ifs at h
  | some uiAccount =>
      simp only [hcharacter] at h
      split_ifs at h with _ _ _ hbanned hlocked howner _ _ hplayer
      exact ⟨Bool.eq_false_of_not_eq_true hbanned, Bool.eq_false_of_not_eq_true hlocked,
        congrArg some (not_not.mp howner), Option.not_isSome_iff_eq_none.mp hplayer⟩

theorem not_stopsLogin
    (hstarted : s.validateStart around holder.accountId holder.guid = .started)
    (entry : SessionEntry) (t : HeadlessSessionMgr) (token : UInt64) :
    ¬ StopsLogin t around { holder with requestToken := token } entry := by
  obtain ⟨-, hlocked, hcharacter, hplayer⟩ := passes_of_validateStart hstarted
  rintro ⟨-, hrefused | ⟨livePlayer, hlive, -⟩⟩
  · cases of_decide_eq_true hrefused with
    | inl hlock => exact Bool.false_ne_true (hlocked.symm.trans hlock)
    | inr hother => exact hother hcharacter
  · exact nomatch hlive.symm.trans hplayer

structure Bound (session : WorldSession) (login : LoginQueryHolder) : Prop where
  request : session.isLoginRequest login = true
  account : login.accountId = session.accountId
  player : session.player = none
  loading : session.playerLoading = true

theorem isLoggedIn_of_load (login : LoginQueryHolder) {entry : SessionEntry}
    (hnone : s.sessions.find? login.guid = none)
    (hsome : s.pendingSessions.find? login.guid = some entry)
    (htransport : login.transport = .headless) (hentry : s.isEntryOf login entry = true)
    (hbound : Bound (s.heap entry.session) login)
    (hbanned : around.accountBanned login.accountId = false)
    (hrefused : isRefused around login = false) (hplayer : around.player login.guid = none)
    {player : Nat} (hload : around.loadFromDB = some player) :
    (s.handleLoginCallback around login).isLoggedIn login.guid entry.requestToken = true := by
  have hfound : s.findEntry login = some entry := by
    simp only [findEntry, hnone, hsome, Option.filter_none, Option.filter_some, hentry, if_true]
  have hlogin : (s.heap entry.session).handlePlayerLogin around login =
      { s.heap entry.session with
        player := some player
        masterPlayer := true
        playerLoading := false
        headlessLoginRequested := false } := by
    simp [WorldSession.handlePlayerLogin, hbound.request, hbound.account, hbound.player,
      hbound.loading, hplayer, hload]
  simp only [HeadlessSessionMgr.handleLoginCallback, htransport, hfound, hbanned, hrefused, hplayer,
    loginEntry, hsome, hnone, ne_eq, not_true_eq_false, Bool.false_eq_true, if_false]
  simp only [handlePlayerLogin, setSession, HeadlessSessionMgr.consume, isLoggedIn,
    Lib.OrderedMap.find?_assign_self, Option.any_some, Function.update_self, hlogin,
    Option.isSome_some, and_self, decide_true]

theorem isLoggedIn_startPrepared
    (hstarted : s.validateStart around holder.accountId holder.guid = .started)
    (htransport : holder.transport = .headless) {player : Nat}
    (hload : around.loadFromDB = some player) :
    (((s.enroll holder.accountId holder.guid).bindLogin s.created holder.guid
      s.newRequestToken).handleLoginCallback around
        { holder with requestToken := s.newRequestToken }).isLoggedIn holder.guid
          s.newRequestToken = true := by
  obtain ⟨hbanned, hlocked, hcharacter, hplayer⟩ := passes_of_validateStart hstarted
  have hheap : ((s.enroll holder.accountId holder.guid).bindLogin s.created holder.guid
      s.newRequestToken).heap s.created =
        { accountId := holder.accountId
          loginRequestGuid := holder.guid
          loginRequestToken := s.newRequestToken
          playerLoading := true
          headlessLoginRequested := true } := by
    simp only [bindLogin, setSession, HeadlessSessionMgr.enroll, Function.update_self]
  have hsome : ((s.enroll holder.accountId holder.guid).bindLogin s.created holder.guid
      s.newRequestToken).pendingSessions.find? holder.guid =
        some ⟨s.created, holder.accountId, holder.guid, s.newRequestToken, 0⟩ :=
    s.pendingSessions.find?_assign_self _ _
  have hnone : ((s.enroll holder.accountId holder.guid).bindLogin s.created holder.guid
      s.newRequestToken).sessions.find? holder.guid = none := (free_of_validateStart hstarted).1
  refine isLoggedIn_of_load { holder with requestToken := s.newRequestToken } hnone hsome htransport
    ?_ ?_ hbanned ?_ hplayer hload
  · simp only [isEntryOf, hheap, htransport, and_self, decide_true]
  · refine ⟨?_, ?_, ?_, ?_⟩
    · simp only [WorldSession.isLoginRequest, hheap, htransport, and_self, decide_true]
    · rw [hheap]
    · rw [hheap]
    · rw [hheap]
  · simp only [isRefused, hlocked, hcharacter, ne_eq, not_true_eq_false, or_false,
      Bool.false_eq_true, decide_false]

theorem Window.startPrepared (h : Window s) (howned : Owned s) (around : Surroundings)
    (holder : LoginQueryHolder) (hfresh : FreshToken s holder.guid)
    (hload : s.stopDeferralDepth ≠ 0 → (s.deferredStops.find? holder.guid).isSome →
      s.validateStart around holder.accountId holder.guid = .started →
      around.loadFromDB ≠ none) : Window (s.startPrepared around holder).2 := by
  cases startPrepared_cases s around holder with
  | inl hconsumed => exact hconsumed.symm ▸ h.consume holder
  | inr hnew =>
      obtain ⟨htransport, hstarted, login, rfl, hcases⟩ := hnew
      obtain ⟨hactive, hpending⟩ := free_of_validateStart hstarted
      have howned' := (howned.enroll hactive hpending holder.accountId).bindLogin s.created
        holder.guid s.newRequestToken
      have hwindow : Window ((s.enroll holder.accountId holder.guid).bindLogin s.created holder.guid
          s.newRequestToken) :=
            (h.enroll hpending hfresh holder.accountId).moves (Moves.refl.work _)
      obtain ⟨t, hcallback, hmoves⟩ := handleLoginCallback_cases howned' around
        { holder with requestToken := s.newRequestToken }
      have hmoves := hmoves.resolve_right fun ⟨entry, _, hstops, _⟩ =>
        not_stopsLogin hstarted entry _ _ hstops
      have ht := hwindow.moves hmoves
      cases hcases with
      | inl hend =>
          rw [hend, hcallback]
          exact ht.consume _
      | inr hstop =>
          obtain ⟨hfailed, -, hstop⟩ := hstop
          rw [hstop, hcallback]
          refine (ht.consume _).stop ((howned'.moves hmoves).consume _) _ _ fun hdepth hlater => ?_
          obtain ⟨stop, entry, hdeferred, -, -⟩ := hlater
          have hframe := hmoves.frame
          have hsome : s.deferredStops.find? holder.guid = some stop :=
            (congrArg (·.find? holder.guid) hframe.stops).symm.trans hdeferred
          have hnone : around.loadFromDB ≠ none :=
            hload (hframe.depth ▸ hdepth) (hsome ▸ rfl) hstarted
          obtain ⟨player, hplayer⟩ := Option.ne_none_iff_exists'.mp hnone
          have hlogged := isLoggedIn_startPrepared hstarted htransport hplayer
          exact Bool.false_ne_true (hfailed.symm.trans hlogged)

end Starts

section Closing

def stopEnding (s : HeadlessSessionMgr) (stop : UInt64 × DeferredStop) (entry : SessionEntry) :
    Ended :=
  let loggedOut := (s.heap entry.session).player.isSome || (s.heap entry.session).masterPlayer
  { session := entry.session
    ending := if (s.sessions.find? stop.1).isSome then .destroyed stop.2.save true loggedOut
      else .destroyed false false loggedOut }

def Meets (s : HeadlessSessionMgr) (stop : UInt64 × DeferredStop) (entry : SessionEntry) : Prop :=
  (stop.1, entry) ∈ s.entries ∧ entry.requestToken = stop.2.token

/-- Only the entry of the character changes. -/
structure Applied (s t : HeadlessSessionMgr) (guid : UInt64) : Prop where
  depth : t.stopDeferralDepth = s.stopDeferralDepth
  heap : t.heap = s.heap
  sessions : ∀ other, other ≠ guid → t.sessions.find? other = s.sessions.find? other

theorem isFor_iff {stop : DeferredStop} {found : Option SessionEntry} :
    isFor stop found = true ↔ ∃ entry, found = some entry ∧ entry.requestToken = stop.token := by
  simp only [isFor, Option.any_eq_true, decide_eq_true_eq]

theorem isFor_iff_meets {stop : UInt64 × DeferredStop} :
    isFor stop.2 (s.sessions.find? stop.1) ∨ isFor stop.2 (s.pendingSessions.find? stop.1) ↔
      ∃ entry, Meets s stop entry := by
  constructor
  · rintro (hactive | hpending)
    · obtain ⟨entry, hfind, htoken⟩ := isFor_iff.mp hactive
      exact ⟨entry, List.mem_append_left _ (Lib.OrderedMap.find?_eq_some hfind), htoken⟩
    · obtain ⟨entry, hfind, htoken⟩ := isFor_iff.mp hpending
      exact ⟨entry, List.mem_append_right _ (Lib.OrderedMap.find?_eq_some hfind), htoken⟩
  · rintro ⟨entry, hmem, htoken⟩
    cases List.mem_append.mp hmem with
    | inl hactive =>
        exact Or.inl (isFor_iff.mpr ⟨entry, Lib.OrderedMap.find?_of_mem hactive, htoken⟩)
    | inr hpending =>
        exact Or.inr (isFor_iff.mpr ⟨entry, Lib.OrderedMap.find?_of_mem hpending, htoken⟩)

theorem stop_meets (howned : Owned s) (hdepth : s.stopDeferralDepth = 0)
    {stop : UInt64 × DeferredStop} {entry : SessionEntry} (hmeets : Meets s stop entry) :
    (s.stop stop.1 stop.2.save).2.ended = s.ended ++ [s.stopEnding stop entry] ∧
      s.entries.Perm ((stop.1, entry) :: (s.stop stop.1 stop.2.save).2.entries) ∧
      Applied s (s.stop stop.1 stop.2.save).2 stop.1 := by
  simp only [HeadlessSessionMgr.stop, if_neg (not_not.mpr hdepth), stopEnding]
  cases List.mem_append.mp hmeets.1 with
  | inl hmem =>
      have hactive := Lib.OrderedMap.find?_of_mem hmem
      rw [hactive]
      exact ⟨rfl, perm_entries_active hactive, rfl, rfl,
        fun other hne => s.sessions.find?_erase_of_ne hne⟩
  | inr hmem =>
      have hpending := Lib.OrderedMap.find?_of_mem hmem
      have hactive := (howned.apart stop.1).resolve_right fun hnone =>
        absurd (hnone.symm.trans hpending) (Option.some_ne_none _).symm
      rw [hactive, hpending]
      exact ⟨rfl, perm_entries_pending hpending, rfl, rfl, fun _ _ => rfl⟩

theorem applyStop_cases (howned : Owned s) (hdepth : s.stopDeferralDepth = 0)
    (stop : UInt64 × DeferredStop) :
    (∃ entry, Meets s stop entry ∧ (s.applyStop stop).ended = s.ended ++ [s.stopEnding stop entry] ∧
        s.entries.Perm ((stop.1, entry) :: (s.applyStop stop).entries) ∧
        Applied s (s.applyStop stop) stop.1) ∨
      (∀ entry, ¬ Meets s stop entry) ∧ s.applyStop stop = s := by
  by_cases hmeets : ∃ entry, Meets s stop entry
  · rw [applyStop, if_pos (isFor_iff_meets.mpr hmeets)]
    obtain ⟨entry, hmeets⟩ := hmeets
    exact Or.inl ⟨entry, hmeets, stop_meets howned hdepth hmeets⟩
  · rw [applyStop, if_neg (mt isFor_iff_meets.mp hmeets)]
    exact Or.inr ⟨not_exists.mp hmeets, rfl⟩

theorem owned_applyStop (howned : Owned s) (stop : UInt64 × DeferredStop) :
    Owned (s.applyStop stop) := by
  simp only [applyStop]
  split
  · exact howned.stop _ _
  · exact howned

theorem applyStops_spec (stops : List (UInt64 × DeferredStop)) (hkeys : (stops.map (·.1)).Nodup)
    (howned : Owned s) (hdepth : s.stopDeferralDepth = 0) :
    ∃ stopped, (stops.foldl applyStop s).ended = s.ended ++ stopped ∧
      (∀ x, x ∈ stopped ↔ ∃ stop ∈ stops, ∃ entry, Meets s stop entry ∧ x =
        s.stopEnding stop entry) ∧
      ∀ entry ∈ s.entries, (∀ stop ∈ stops, stop.1 = entry.1 → ¬ Meets s stop entry.2) →
        entry ∈ (stops.foldl applyStop s).entries := by
  induction stops generalizing s with
  | nil => exact ⟨[], (List.append_nil _).symm, by simp, fun entry hentry _ => hentry⟩
  | cons first stops ih =>
      obtain ⟨hfirst, hkeys⟩ := List.nodup_cons.mp hkeys
      rw [List.foldl_cons]
      cases applyStop_cases howned hdepth first with
      | inr hsame =>
          obtain ⟨hnone, hsame⟩ := hsame
          rw [hsame]
          obtain ⟨stopped, hended, hmem, hleft⟩ := ih hkeys howned hdepth
          refine ⟨stopped, hended, fun x => (hmem x).trans ⟨?_, ?_⟩, fun entry hentry hfree => ?_⟩
          · rintro ⟨stop, hstop, hx⟩
            exact ⟨stop, List.mem_cons_of_mem _ hstop, hx⟩
          · rintro ⟨stop, hstop, entry, hmeets, hx⟩
            cases List.mem_cons.mp hstop with
            | inl hsame => exact absurd (hsame ▸ hmeets) (hnone entry)
            | inr hlater => exact ⟨stop, hlater, entry, hmeets, hx⟩
          · exact hleft entry hentry fun stop hstop => hfree stop (List.mem_cons_of_mem _ hstop)
      | inl hends =>
          obtain ⟨entry, hmeets, hended, hperm, happlied⟩ := hends
          obtain ⟨stopped, hrest, hmem, hleft⟩ :=
            ih hkeys (owned_applyStop howned first) (happlied.depth.trans hdepth)
          -- the other characters are as before
          have hne : ∀ stop ∈ stops, stop.1 ≠ first.1 := by
            intro stop hstop hsame
            exact hfirst (List.mem_map.mpr ⟨stop, hstop, hsame⟩)
          have hother : ∀ stop ∈ stops, ∀ other, Meets (s.applyStop first) stop other ↔
              Meets s stop other := by
            intro stop hstop other
            refine and_congr_left fun _ => ?_
            rw [hperm.mem_iff, List.mem_cons]
            refine ⟨Or.inr, fun hcases => hcases.resolve_left fun heq => ?_⟩
            exact hne stop hstop (congrArg (·.1) heq)
          have hending : ∀ stop ∈ stops, ∀ other, (s.applyStop first).stopEnding stop other =
              s.stopEnding stop other := by
            intro stop hstop other
            rw [stopEnding, stopEnding, happlied.heap, happlied.sessions _ (hne stop hstop)]
          refine ⟨s.stopEnding first entry :: stopped, ?_, fun x =>
            ?_, fun other hentry hfree => ?_⟩
          · rw [hrest, hended, List.append_assoc]
            rfl
          · rw [List.mem_cons, hmem]
            constructor
            · rintro (rfl | ⟨stop, hstop, other, hmeets', rfl⟩)
              · exact ⟨first, List.mem_cons_self, entry, hmeets, rfl⟩
              · exact ⟨stop, List.mem_cons_of_mem _ hstop, other,
                  (hother stop hstop other).mp hmeets',
                  hending stop hstop other⟩
            · rintro ⟨stop, hstop, other, hmeets', rfl⟩
              cases List.mem_cons.mp hstop with
              | inl hsame =>
                  subst hsame
                  cases (current?_of_mem howned hmeets.1).symm.trans
                    (current?_of_mem howned hmeets'.1)
                  exact Or.inl rfl
              | inr hlater =>
                  exact Or.inr ⟨stop, hlater, other, (hother stop hlater other).mpr hmeets',
                    (hending stop hlater other).symm⟩
          · refine hleft other ?_ fun stop hstop hsame hmeets' =>
              hfree stop (List.mem_cons_of_mem _ hstop) hsame ((hother stop hstop _).mp hmeets')
            cases List.mem_cons.mp (hperm.mem_iff.mp hentry) with
            | inl heq =>
                subst heq
                exact absurd hmeets (hfree first List.mem_cons_self rfl)
            | inr hrest => exact hrest

end Closing

section Runs

def Carried (s t : HeadlessSessionMgr) : Prop :=
  ∃ stopped, t.ended = s.ended ++ stopped ∧
    (∀ id, id ∈ stopped.map (·.session) ↔
      id ∈ s.entries.map (·.2.session) ∧ ∃ r ∈ s.requests, r.session = id) ∧
    (∀ x ∈ stopped, ∃ save clearCharacterOnline loggedOut,
      x.ending = .destroyed save clearCharacterOnline loggedOut ∧
        ((∃ r ∈ s.requests, r.session = x.session ∧ r.save = false) → save = false) ∧
        ((∃ entry ∈ s.sessions.entries, entry.2.session = x.session) →
          (∀ r ∈ s.requests, r.session = x.session → r.save = true) → save = true)) ∧
    ∀ entry ∈ s.entries, (∀ r ∈ s.requests, r.session ≠ entry.2.session) → entry ∈ t.entries

theorem Window.requested (h : Window s) {stop : UInt64 × DeferredStop} {entry : SessionEntry}
    (hstop : stop ∈ s.deferredStops.entries) (hmeets : Meets s stop entry) :
    ∀ r ∈ s.requests, r.guid = stop.1 → r.session = entry.session := by
  intro r hr hguid
  obtain ⟨stop', hfind, htoken⟩ := h.token r hr
  have hsame : stop' = stop.2 :=
    Option.some.inj (hfind.symm.trans (hguid ▸ Lib.OrderedMap.find?_of_mem hstop))
  exact ((htoken entry (hguid ▸ hmeets.1)).mp (hsame ▸ hmeets.2)).symm

theorem Window.carried (h : Window s) (howned : Owned s) (hdepth : s.stopDeferralDepth = 1) :
    Carried s s.endStopDeferral := by
  have hclose : s.endStopDeferral = s.deferredStops.entries.foldl applyStop
      { s with stopDeferralDepth := 0, deferredStops := .empty, requests := [] } := by
    rw [endStopDeferral, hdepth]
    rfl
  have howned' : Owned { s with stopDeferralDepth := 0, deferredStops := .empty, requests := [] } :=
    ⟨howned.apart, howned.once, howned.grace⟩
  obtain ⟨stopped, hended, hmem, hleft⟩ :=
    applyStops_spec s.deferredStops.entries s.deferredStops.keys_nodup howned' rfl
  rw [← hclose] at hended hleft
  refine ⟨stopped, hended, fun id => ?_, fun x hx => ?_, fun entry hentry hfree => ?_⟩
  · constructor
    · intro hid
      obtain ⟨x, hx, rfl⟩ := List.mem_map.mp hid
      obtain ⟨stop, hstop, entry, hmeets, rfl⟩ := (hmem x).mp hx
      obtain ⟨r, hr, hguid⟩ := h.asked stop.1 stop.2 (Lib.OrderedMap.find?_of_mem hstop)
      exact ⟨List.mem_map.mpr ⟨_, hmeets.1, rfl⟩, r, hr, h.requested hstop hmeets r hr hguid⟩
    · rintro ⟨hid, r, hr, hsession⟩
      obtain ⟨entry, hentry, rfl⟩ := List.mem_map.mp hid
      have hguid := h.home r hr entry hentry hsession.symm
      obtain ⟨stop, hfind, htoken⟩ := h.token r hr
      have hmeets : Meets s (r.guid, stop) entry.2 :=
        ⟨hguid ▸ hentry, (htoken entry.2 (hguid ▸ hentry)).mpr hsession.symm⟩
      exact List.mem_map.mpr
        ⟨_, (hmem _).mpr ⟨_, Lib.OrderedMap.find?_eq_some hfind, _, hmeets, rfl⟩,
        rfl⟩
  · obtain ⟨stop, hstop, entry, hmeets, rfl⟩ := (hmem x).mp hx
    have hmerged := h.merged stop.1 stop.2 (Lib.OrderedMap.find?_of_mem hstop)
    have hrefused : (∃ r ∈ s.requests, r.session = entry.session ∧ r.save = false) →
        stop.2.save = false := by
      rintro ⟨r, hr, hsession, hsave⟩
      refine Bool.eq_false_of_not_eq_true fun htrue => ?_
      have hguid := h.home r hr _ hmeets.1 hsession.symm
      exact Bool.false_ne_true (hsave.symm.trans (hmerged.mp htrue r hr hguid.symm))
    cases hactive : s.sessions.find? stop.1 with
    | some active =>
        refine ⟨stop.2.save, true, _, if_pos (hactive ▸ rfl), hrefused, fun _ hall => ?_⟩
        refine hmerged.mpr fun r hr hguid => ?_
        exact hall r hr (h.requested hstop hmeets r hr hguid)
    | none =>
        refine ⟨false, false, _, if_neg (by simp [hactive]), fun _ => rfl, ?_⟩
        rintro ⟨other, hother, hsession⟩ -
        have hsame : other = (stop.1, entry) := List.inj_on_of_nodup_map howned.sessions_nodup
          (List.mem_append_left _ hother) hmeets.1 hsession
        subst hsame
        exact absurd (hactive.symm.trans (Lib.OrderedMap.find?_of_mem hother))
          (Option.some_ne_none _).symm
  · refine hleft entry hentry fun stop hstop hsame hmeets => ?_
    obtain ⟨r, hr, hguid⟩ := h.asked stop.1 stop.2 (Lib.OrderedMap.find?_of_mem hstop)
    exact hfree r hr (h.requested hstop hmeets r hr hguid)

theorem window_of_none (hrequests : s.requests = [])
    (hstops : ∀ guid, s.deferredStops.find? guid = none) : Window s where
  asked := fun guid _ hfind => absurd ((hstops guid).symm.trans hfind) nofun
  merged := fun guid _ hfind => absurd ((hstops guid).symm.trans hfind) nofun
  token := fun _ hr => absurd (hrequests ▸ hr) List.not_mem_nil
  home := fun _ hr => absurd (hrequests ▸ hr) List.not_mem_nil
  old := fun _ hr => absurd (hrequests ▸ hr) List.not_mem_nil

theorem Window.closed (h : Window s) : Window s.endStopDeferral := by
  simp only [endStopDeferral]
  split
  · exact h
  · split
    · exact ⟨h.asked, h.merged, h.token, h.home, h.old⟩
    · have hempty :
        Window { s with stopDeferralDepth := 0, deferredStops := .empty, requests := [] } :=
        window_of_none rfl fun _ => rfl
      have hkept := @Lib.run_always _ _ applyStop
        (fun t => Window t ∧ t.stopDeferralDepth = 0) (fun t stop ht => ?_) _
        ⟨hempty, rfl⟩ s.deferredStops.entries
      · exact hkept.1
      · simp only [applyStop]
        split
        · have hmoves := moves_stop ht.2 stop.1 stop.2.save
          exact ⟨ht.1.moves hmoves, hmoves.frame.depth.trans ht.2⟩
        · exact ht

theorem Window.step (h : Window s) (howned : Owned s) (e : HeadlessEvent) (hintime : InTime s e) :
    Window (s.step e) := by
  cases e with
  | start around accountId guid => exact h.start around accountId guid hintime
  | startPrepared around holder =>
      cases holder with
      | none => exact h
      | some data =>
          have howned' : Owned { s with made := s.made + 1 } :=
            ⟨howned.apart, howned.once, howned.grace⟩
          have hwindow : Window { s with made := s.made + 1 } :=
            ⟨h.asked, h.merged, h.token, h.home, h.old⟩
          exact hwindow.startPrepared howned' around (s.newHolder data) hintime.1 hintime.2
  | stop guid save => exact h.stop howned guid save hintime
  | stopForAccount accountId save => exact h.moves (moves_stopForAccount s accountId save)
  | handleLoginCallback around index =>
      simp only [HeadlessSessionMgr.step]
      split
      · exact h
      · rename_i holder hholder
        have howned' : Owned { s with inFlight := s.inFlight.eraseIdx index } :=
          ⟨howned.apart, howned.once, howned.grace⟩
        have hwindow : Window { s with inFlight := s.inFlight.eraseIdx index } :=
          ⟨h.asked, h.merged, h.token, h.home, h.old⟩
        exact hwindow.handleLoginCallback howned' around holder fun entry hentry =>
          hintime holder entry hholder hentry
  | reclaimForNetwork guid session replacement accountId =>
      exact h.moves (moves_reclaimForNetwork s guid session replacement accountId)
  | promotePending around => exact h.moves (moves_promotePending s around)
  | beginStopDeferral => exact ⟨h.asked, h.merged, h.token, h.home, h.old⟩
  | endStopDeferral => exact h.closed
  | update diff met => exact h.moves (moves_update howned diff met)
  | shutdown => exact h.moves (moves_shutdown s)
  | otherLogin data => exact ⟨h.asked, h.merged, h.token, h.home, h.old⟩
  | work change => exact ⟨h.asked, h.merged, h.token, h.home, h.old⟩

end Runs

section Kept

theorem requests_stop (s : HeadlessSessionMgr) (guid : UInt64) (save : Bool) :
    s.requests <+: (s.stop guid save).2.requests := by
  cases stop_cases s guid save with
  | inl hmoves => exact hmoves.frame.requests ▸ List.prefix_rfl
  | inr hdefer =>
      obtain ⟨entry, -, hstop⟩ := hdefer
      rw [hstop]
      exact List.prefix_append _ _

theorem requests_handleLoginCallback (howned : Owned s) (around : Surroundings)
    (holder : LoginQueryHolder) :
    s.requests <+: (s.handleLoginCallback around holder).requests := by
  obtain ⟨t, heq, hcases⟩ := handleLoginCallback_cases howned around holder
  rw [heq]
  cases hcases with
  | inl hmoves =>
      have hsame : (t.consume holder).requests = s.requests := hmoves.frame.requests
      exact hsame ▸ List.prefix_rfl
  | inr hstops =>
      obtain ⟨entry, -, -, rfl⟩ := hstops
      exact requests_stop s _ _

theorem requests_step (howned : Owned s) (e : HeadlessEvent)
    (hopen : e = .endStopDeferral → s.stopDeferralDepth ≠ 1) :
    s.requests <+: (s.step e).requests := by
  have hmoves : ∀ t, Moves s t → s.requests <+: t.requests :=
    fun t hmoves => hmoves.frame.requests ▸ List.prefix_rfl
  cases e with
  | start around accountId guid =>
      cases start_cases s around accountId guid with
      | inl hsame => exact (congrArg (·.requests) hsame).symm ▸ List.prefix_rfl
      | inr hnew =>
          obtain ⟨-, -, t, u, hbegin, hend, holder, -, hcases⟩ := hnew
          have hu : u.requests = t.requests := by
            rcases hcases with rfl | rfl | rfl <;> rfl
          have hsame : (s.start around accountId guid).2.requests = s.requests :=
            hend.frame.requests.trans (hu.trans hbegin.frame.requests)
          exact hsame ▸ List.prefix_rfl
  | startPrepared around holder =>
      cases holder with
      | none => exact List.prefix_rfl
      | some data =>
          have howned' : Owned { s with made := s.made + 1 } :=
            ⟨howned.apart, howned.once, howned.grace⟩
          cases startPrepared_cases { s with made := s.made + 1 } around (s.newHolder data) with
          | inl hconsumed => exact (congrArg (·.requests) hconsumed).symm ▸ List.prefix_rfl
          | inr hnew =>
              obtain ⟨-, hstarted, login, -, hcases⟩ := hnew
              obtain ⟨hactive, hpending⟩ := free_of_validateStart hstarted
              have hcallback := requests_handleLoginCallback ((howned'.enroll hactive hpending
                (s.newHolder data).accountId).bindLogin s.created (s.newHolder data).guid
                  s.newRequestToken) around login
              cases hcases with
              | inl hend => exact (congrArg (·.requests) hend).symm ▸ hcallback
              | inr hstop =>
                  exact (congrArg (·.requests) hstop.2.2).symm ▸ hcallback.trans
                    (requests_stop _ _ _)
  | stop guid save => exact requests_stop s guid save
  | stopForAccount accountId save => exact hmoves _ (moves_stopForAccount s accountId save)
  | handleLoginCallback around index =>
      simp only [HeadlessSessionMgr.step]
      split
      · exact List.prefix_rfl
      · rename_i holder hholder
        have howned' : Owned { s with inFlight := s.inFlight.eraseIdx index } :=
          ⟨howned.apart, howned.once, howned.grace⟩
        exact requests_handleLoginCallback howned' around holder
  | reclaimForNetwork guid session replacement accountId =>
      exact hmoves _ (moves_reclaimForNetwork s guid session replacement accountId)
  | promotePending around => exact hmoves _ (moves_promotePending s around)
  | beginStopDeferral => exact List.prefix_rfl
  | endStopDeferral =>
      simp only [HeadlessSessionMgr.step, HeadlessSessionMgr.endStopDeferral]
      split
      · exact List.prefix_rfl
      · split
        · exact List.prefix_rfl
        · rename_i hlast
          have hone : s.stopDeferralDepth = 1 := by
            have hzero := not_not.mp hlast
            exact (UInt32.sub_add_cancel _ 1).symm.trans (congrArg (· + 1) hzero)
          exact absurd hone (hopen rfl)
  | update diff met => exact hmoves _ (moves_update howned diff met)
  | shutdown => exact hmoves _ (moves_shutdown s)
  | otherLogin data => exact List.prefix_rfl
  | work change => exact List.prefix_rfl

/-- Requests are recorded, kept to the end of their window and carried out there. -/
theorem stops_carried_out (events : List HeadlessEvent)
    (h : Lib.Along HeadlessSessionMgr.step InTime {} events) :
    let s := Lib.run HeadlessSessionMgr.step {} events
    (∀ guid save, s.stopDeferralDepth ≠ 0 → (s.stop guid save).1 = true →
        ∃ entry, s.current? guid = some entry ∧
          (s.stop guid save).2.requests = s.requests ++ [⟨guid, entry.session, save⟩]) ∧
      (∀ e, (e = .endStopDeferral → s.stopDeferralDepth ≠ 1) →
        s.requests <+: (s.step e).requests) ∧
      (s.stopDeferralDepth = 1 → Carried s (s.step .endStopDeferral)) := by
  intro s
  have hkept : Owned s ∧ Window s :=
    Lib.run_invariant (I := fun s => Owned s ∧ Window s)
      (fun s e hs hintime => ⟨hs.1.step e, hs.2.step hs.1 e hintime⟩)
      ⟨owned_start, window_of_none rfl fun _ => rfl⟩ h
  refine ⟨fun guid save hdepth hstopped => ?_, fun e => requests_step hkept.1 e,
    fun hdepth => hkept.2.carried hkept.1 hdepth⟩
  simp only [HeadlessSessionMgr.stop, if_pos hdepth] at hstopped ⊢
  cases hcurrent : s.current? guid with
  | none =>
      rw [hcurrent] at hstopped
      exact absurd hstopped Bool.false_ne_true
  | some entry => exact ⟨entry, rfl, rfl⟩

def quiet : Surroundings where
  accountName := fun _ => true
  accountBanned := fun _ => false
  characterLocked := fun _ => false
  characterAccount := fun _ => some 1
  networkLogin := fun _ => false
  player := fun _ => none
  initialized := true
  queued := true
  nextLoginRequestToken := 1
  loadFromDB := none

/-- Two stops of one session in one window, the second without a save. -/
def windowEvents : List HeadlessEvent :=
  [.start quiet 1 5, .promotePending quiet, .beginStopDeferral, .stop 5 true, .stop 5 false]

theorem stops_carried_out_twice :
    Carried (Lib.run HeadlessSessionMgr.step {} windowEvents)
      ((Lib.run HeadlessSessionMgr.step {} windowEvents).step .endStopDeferral) := by
  refine (stops_carried_out windowEvents ?_).2.2 rfl
  refine ⟨nofun, trivial, trivial, fun _ => ?_, fun _ => ?_, trivial⟩
  · rintro ⟨stop, entry, hstop, -, -⟩
    exact nomatch hstop
  · rintro ⟨stop, entry, hstop, hentry, hne⟩
    cases Option.some.inj hstop
    cases Option.some.inj hentry
    exact hne rfl

/-- A stop, the account banned, the character started again, and a stop of the new session. -/
def supersededEvents : List HeadlessEvent :=
  [.start quiet 1 5, .beginStopDeferral, .stop 5 true, .stopForAccount 1 true, .start quiet 1 5]

/-- The second stop returns true, and its session is still there after the window. -/
theorem later_stop_lost :
    let s := Lib.run HeadlessSessionMgr.step {} supersededEvents
    s.stopDeferralDepth = 1 ∧ (s.current? 5).map (·.session) = some 1 ∧ (s.stop 5 false).1 = true ∧
      (((s.stop 5 false).2.step .endStopDeferral).current? 5).map (·.session) = some 1 ∧
      ((s.stop 5 false).2.step .endStopDeferral).stopDeferralDepth = 0 := by
  refine ⟨rfl, ?_, ?_, ?_, ?_⟩ <;> decide +kernel

end Kept

end HeadlessSessionMgr

end TortoiseWow.Headless
