import TortoiseWow.Battleground.Matching

/-!
The representation of the queue: players and groups point to each other, and
every group with players is in one list, the one of its bracket and team.
-/

namespace TortoiseWow.Battleground

namespace State

/-- The group is once in this list and in no other. -/
def Placed (s : State) (ptr : Ptr) (bracket : Bracket) (kind : Kind) (team : Team) : Prop :=
  (s.queuedGroups bracket kind team).count ptr = 1 ∧
    ∀ b k t, ptr ∈ s.queuedGroups b k t → b = bracket ∧ k = kind ∧ t = team

/-- The links between players, groups and lists. A pending group gets its players
before it is listed. -/
structure Linked (s : State) (pending : Option Ptr) : Prop where
  fresh : ∀ ptr, s.groups.next ≤ ptr → s.groups.entry ptr = none
  alive : ∀ guid info, s.queuedPlayers.find? guid = some info →
    ∃ ginfo, s.groups.entry info.groupInfo = some ginfo
  linked : ∀ ptr ginfo, s.groups.entry ptr = some ginfo → ∀ guid, guid ∈ ginfo.players ↔
    ∃ info, s.queuedPlayers.find? guid = some info ∧ info.groupInfo = ptr
  distinct : ∀ ptr ginfo, s.groups.entry ptr = some ginfo → ginfo.players.Nodup
  placed : ∀ ptr ginfo, s.groups.entry ptr = some ginfo → ginfo.players ≠ [] →
    pending ≠ some ptr → ∃ kind, s.Placed ptr ginfo.bracketId kind ginfo.groupTeam
  listed : ∀ bracket kind team, ∀ ptr ∈ s.queuedGroups bracket kind team,
    ∃ ginfo, s.groups.entry ptr = some ginfo ∧ ginfo.players ≠ []
  unlisted : ∀ ptr, pending = some ptr → ∀ bracket kind team,
    ptr ∉ s.queuedGroups bracket kind team

/-- Nothing that `Linked` speaks about differs. -/
structure SameLinks (s s' : State) : Prop where
  next : s'.groups.next = s.groups.next
  queuedPlayers : ∀ guid, (s'.queuedPlayers.find? guid).map (·.groupInfo) =
    (s.queuedPlayers.find? guid).map (·.groupInfo)
  queuedGroups : s'.queuedGroups = s.queuedGroups
  entries : ∀ ptr, (s'.groups.entry ptr).map (fun g => (g.players, g.bracketId, g.groupTeam)) =
    (s.groups.entry ptr).map fun g => (g.players, g.bracketId, g.groupTeam)

namespace SameLinks

variable {s s' s'' : State}

theorem trans (h : SameLinks s s') (h' : SameLinks s' s'') : SameLinks s s'' :=
  ⟨h'.next.trans h.next, fun guid => (h'.queuedPlayers guid).trans (h.queuedPlayers guid),
    h'.queuedGroups.trans h.queuedGroups, fun ptr => (h'.entries ptr).trans (h.entries ptr)⟩

theorem entry (h : SameLinks s s') {ptr : Ptr} {ginfo : GroupQueueInfo}
    (hentry : s'.groups.entry ptr = some ginfo) : ∃ old, s.groups.entry ptr = some old ∧
      old.players = ginfo.players ∧ old.bracketId = ginfo.bracketId ∧
      old.groupTeam = ginfo.groupTeam := by
  have hsame := h.entries ptr
  rw [hentry] at hsame
  obtain ⟨old, hold, heq⟩ := Option.map_eq_some_iff.mp hsame.symm
  simp only [Prod.mk.injEq] at heq
  exact ⟨old, hold, heq⟩

theorem symm (h : SameLinks s s') : SameLinks s' s :=
  ⟨h.next.symm, fun guid => (h.queuedPlayers guid).symm, h.queuedGroups.symm,
    fun ptr => (h.entries ptr).symm⟩

theorem points (h : SameLinks s s') {guid : Guid} {ptr : Ptr} :
    (∃ info, s'.queuedPlayers.find? guid = some info ∧ info.groupInfo = ptr) ↔
      ∃ info, s.queuedPlayers.find? guid = some info ∧ info.groupInfo = ptr := by
  have hsame := h.queuedPlayers guid
  rw [← Option.map_eq_some_iff, ← Option.map_eq_some_iff, hsame]

theorem linked (hsame : SameLinks s s') {pending : Option Ptr} (h : s.Linked pending) :
    s'.Linked pending := by
  refine ⟨?_, ?_, ?_, ?_, ?_, ?_, ?_⟩
  · intro ptr hptr
    rw [hsame.next] at hptr
    have hnone := hsame.entries ptr
    rw [h.fresh ptr hptr] at hnone
    exact Option.map_eq_none_iff.mp hnone
  · intro guid info hinfo
    obtain ⟨old, hold, hptr⟩ := hsame.points.mp ⟨info, hinfo, rfl⟩
    obtain ⟨ginfo, hginfo⟩ := h.alive guid old hold
    obtain ⟨ginfo', hginfo', -⟩ := hsame.symm.entry hginfo
    exact ⟨ginfo', hptr ▸ hginfo'⟩
  · intro ptr ginfo hginfo guid
    obtain ⟨old, hold, hplayers, -, -⟩ := hsame.entry hginfo
    rw [hsame.points, ← hplayers]
    exact h.linked ptr old hold guid
  · intro ptr ginfo hginfo
    obtain ⟨old, hold, hplayers, -, -⟩ := hsame.entry hginfo
    exact hplayers ▸ h.distinct ptr old hold
  · intro ptr ginfo hginfo hne hpending
    obtain ⟨old, hold, hplayers, hbracket, hteam⟩ := hsame.entry hginfo
    obtain ⟨kind, hplaced⟩ := h.placed ptr old hold (hplayers ▸ hne) hpending
    refine ⟨kind, ?_⟩
    unfold Placed
    rw [hsame.queuedGroups, ← hbracket, ← hteam]
    exact hplaced
  · intro bracket kind team ptr hptr
    rw [hsame.queuedGroups] at hptr
    obtain ⟨ginfo, hginfo, hne⟩ := h.listed bracket kind team ptr hptr
    obtain ⟨ginfo', hginfo', hplayers, -⟩ := hsame.symm.entry hginfo
    exact ⟨ginfo', hginfo', hplayers ▸ hne⟩
  · intro ptr hpending
    rw [hsame.queuedGroups]
    exact h.unlisted ptr hpending

theorem modifyGroup (s : State) (ptr : Ptr) {f : GroupQueueInfo → GroupQueueInfo}
    (hf : ∀ g, ((f g).players, (f g).bracketId, (f g).groupTeam) =
      (g.players, g.bracketId, g.groupTeam)) : SameLinks s (s.modifyGroup ptr f) := by
  refine ⟨rfl, fun _ => rfl, rfl, ?_⟩
  intro ptr'
  simp only [State.modifyGroup, Heap.modify]
  by_cases hsame : ptr' = ptr
  · subst hsame
    rw [Function.update_self, Option.map_map]
    exact congrArg (fun g => Option.map g _) (funext hf)
  · rw [Function.update_of_ne hsame]

theorem markInvited (s : State) (now : UInt32) (ptr : Ptr) (bg : BattleGround) :
    SameLinks s (s.markInvited now ptr bg) := modifyGroup s ptr fun _ => rfl

end SameLinks

section Joining

variable {s : State} {ptr : Ptr} {ginfo : GroupQueueInfo}

theorem Linked.pend (h : s.Linked none) (hentry : s.groups.entry ptr = some ginfo)
    (hempty : ginfo.players = []) : s.Linked (some ptr) := by
  refine { h with placed := ?_, unlisted := ?_ }
  · intro ptr' ginfo' hentry' hne _
    exact h.placed ptr' ginfo' hentry' hne (by simp)
  · intro ptr' hpending bracket kind team hmem
    obtain rfl := Option.some.inj hpending
    obtain ⟨ginfo', hentry', hne⟩ := h.listed bracket kind team ptr hmem
    obtain rfl := Option.some.inj (hentry.symm.trans hentry')
    exact hne hempty

theorem Linked.allocate (h : s.Linked none) (leader : Joining) (request : JoinRequest) :
    (s.allocate leader request).2.Linked none := by
  have hnone : s.groups.entry s.groups.next = none := h.fresh _ (Nat.le_refl _)
  have hold : ∀ ptr' ginfo', s.groups.entry ptr' = some ginfo' → ptr' ≠ s.groups.next := by
    rintro ptr' ginfo' hentry rfl
    rw [hnone] at hentry
    cases hentry
  have hcases : ∀ ptr' ginfo', (s.allocate leader request).2.groups.entry ptr' = some ginfo' →
      ptr' = s.groups.next ∧ ginfo'.players = [] ∨ s.groups.entry ptr' = some ginfo' := by
    intro ptr' ginfo' hentry
    by_cases hsame : ptr' = s.groups.next
    · subst hsame
      simp only [State.allocate, Function.update_self, Option.some.injEq] at hentry
      subst hentry
      exact Or.inl ⟨rfl, rfl⟩
    · simp only [State.allocate, Function.update_of_ne hsame] at hentry
      exact Or.inr hentry
  have hkeeps : ∀ ptr' ginfo', s.groups.entry ptr' = some ginfo' →
      (s.allocate leader request).2.groups.entry ptr' = some ginfo' := by
    intro ptr' ginfo' hentry
    simp only [State.allocate, Function.update_of_ne (hold ptr' ginfo' hentry)]
    exact hentry
  refine ⟨?_, ?_, ?_, ?_, ?_, ?_, ?_⟩
  · intro ptr' hptr'
    have hlt : s.groups.next < ptr' := hptr'
    simp only [State.allocate, Function.update_of_ne (Nat.ne_of_gt hlt)]
    exact h.fresh ptr' (Nat.le_of_lt hlt)
  · intro guid info hinfo
    obtain ⟨ginfo', hginfo'⟩ := h.alive guid info hinfo
    exact ⟨ginfo', hkeeps _ _ hginfo'⟩
  · intro ptr' ginfo' hentry guid
    obtain ⟨rfl, hempty⟩ | hentry := hcases ptr' ginfo' hentry
    · rw [hempty]
      refine ⟨fun hmem => (List.not_mem_nil hmem).elim, ?_⟩
      rintro ⟨info, hinfo, hptr⟩
      obtain ⟨ginfo'', hginfo''⟩ := h.alive guid info hinfo
      exact absurd hptr (hold _ _ hginfo'')
    · exact h.linked ptr' ginfo' hentry guid
  · intro ptr' ginfo' hentry
    obtain ⟨-, hempty⟩ | hentry := hcases ptr' ginfo' hentry
    · rw [hempty]
      exact List.nodup_nil
    · exact h.distinct ptr' ginfo' hentry
  · intro ptr' ginfo' hentry hne hpending
    obtain ⟨-, hempty⟩ | hentry := hcases ptr' ginfo' hentry
    · exact absurd hempty hne
    · exact h.placed ptr' ginfo' hentry hne hpending
  · intro bracket kind team ptr' hmem
    obtain ⟨ginfo', hentry, hne⟩ := h.listed bracket kind team ptr' hmem
    exact ⟨ginfo', hkeeps _ _ hentry, hne⟩
  · intro ptr' hpending
    cases hpending

theorem Linked.enqueue (h : s.Linked (some ptr)) (hentry : s.groups.entry ptr = some ginfo)
    {guid : Guid} (hnew : s.queuedPlayers.find? guid = none) :
    (s.enqueue ptr guid).Linked (some ptr) := by
  have hself : (s.enqueue ptr guid).groups.entry ptr =
      some { ginfo with players := ginfo.players.insert guid } := by
    simp [State.enqueue, State.modifyGroup, Heap.modify, hentry]
  have hother : ∀ ptr', ptr' ≠ ptr →
      (s.enqueue ptr guid).groups.entry ptr' = s.groups.entry ptr' := by
    intro ptr' hne
    simp [State.enqueue, State.modifyGroup, Heap.modify, Function.update_of_ne hne]
  have hfind : ∀ other, other ≠ guid →
      (s.enqueue ptr guid).queuedPlayers.find? other = s.queuedPlayers.find? other :=
    fun other hne => Lib.OrderedMap.find?_assign_of_ne _ hne _
  have hfound : (s.enqueue ptr guid).queuedPlayers.find? guid =
      some { online := true, lastOnlineTime := 0, groupInfo := ptr } :=
    Lib.OrderedMap.find?_assign_self _ _ _
  refine ⟨?_, ?_, ?_, ?_, ?_, ?_, h.unlisted⟩
  · intro ptr' hptr'
    have hnone : s.groups.entry ptr' = none := h.fresh ptr' hptr'
    have hne : ptr' ≠ ptr := by
      rintro rfl
      rw [hentry] at hnone
      cases hnone
    rw [hother ptr' hne]
    exact hnone
  · intro other info hinfo
    by_cases hsame : other = guid
    · subst hsame
      rw [hfound] at hinfo
      obtain rfl := Option.some.inj hinfo
      exact ⟨_, hself⟩
    · rw [hfind other hsame] at hinfo
      obtain ⟨ginfo', hginfo'⟩ := h.alive other info hinfo
      by_cases hptr : info.groupInfo = ptr
      · rw [hptr]
        exact ⟨_, hself⟩
      · exact ⟨ginfo', (hother _ hptr).trans hginfo'⟩
  · intro ptr' ginfo' hentry' other
    by_cases hptr : ptr' = ptr
    · subst hptr
      rw [hself] at hentry'
      obtain rfl := Option.some.inj hentry'
      rw [List.mem_insert_iff]
      by_cases hsame : other = guid
      · subst hsame
        exact iff_of_true (Or.inl rfl) ⟨_, hfound, rfl⟩
      · rw [hfind other hsame, ← h.linked ptr' ginfo hentry other]
        exact or_iff_right hsame
    · rw [hother ptr' hptr] at hentry'
      rw [h.linked ptr' ginfo' hentry' other]
      by_cases hsame : other = guid
      · subst hsame
        rw [hnew, hfound]
        refine iff_of_false (by simp) ?_
        rintro ⟨info, hinfo, hgroup⟩
        obtain rfl := Option.some.inj hinfo
        exact hptr hgroup.symm
      · rw [hfind other hsame]
  · intro ptr' ginfo' hentry'
    by_cases hptr : ptr' = ptr
    · subst hptr
      rw [hself] at hentry'
      obtain rfl := Option.some.inj hentry'
      exact (h.distinct ptr' ginfo hentry).insert
    · rw [hother ptr' hptr] at hentry'
      exact h.distinct ptr' ginfo' hentry'
  · intro ptr' ginfo' hentry' hne hpending
    have hptr : ptr' ≠ ptr := fun hsame => hpending (congrArg some hsame.symm)
    rw [hother ptr' hptr] at hentry'
    exact h.placed ptr' ginfo' hentry' hne hpending
  · intro bracket kind team ptr' hmem
    have hptr : ptr' ≠ ptr := by
      rintro rfl
      exact h.unlisted ptr' rfl bracket kind team hmem
    obtain ⟨ginfo', hentry', hne⟩ := h.listed bracket kind team ptr' hmem
    exact ⟨ginfo', (hother ptr' hptr).trans hentry', hne⟩

theorem queuedGroups_setGroups (s : State) (bracket b : Bracket) (kind k : Kind) (team t : Team)
    (groups : List Ptr) : (s.setGroups bracket kind team groups).queuedGroups b k t =
      if b = bracket ∧ k = kind ∧ t = team then groups else s.queuedGroups b k t := rfl

/-- The pending group is listed, or was left without players. -/
theorem Linked.list (h : s.Linked (some ptr)) (kind : Kind) : (s.list ptr kind).Linked none := by
  unfold State.list
  cases hentry : s.groups.entry ptr with
  | none =>
      refine { h with placed := ?_, unlisted := fun _ hnone => nomatch hnone }
      intro ptr' ginfo' hentry' hne _
      refine h.placed ptr' ginfo' hentry' hne ?_
      rintro hpending
      obtain rfl := Option.some.inj hpending
      rw [hentry] at hentry'
      cases hentry'
  | some ginfo =>
      dsimp only
      split
      case isTrue hempty =>
        refine { h with placed := ?_, unlisted := fun _ hnone => nomatch hnone }
        intro ptr' ginfo' hentry' hne _
        refine h.placed ptr' ginfo' hentry' hne ?_
        intro hpending
        obtain rfl := Option.some.inj hpending
        obtain rfl := Option.some.inj (hentry.symm.trans hentry')
        exact hne hempty
      case isFalse hne =>
        refine ⟨h.fresh, h.alive, h.linked, h.distinct, ?_, ?_, fun _ hnone => nomatch hnone⟩
        · intro ptr' ginfo' hentry' hne' _
          by_cases hptr : ptr' = ptr
          · subst hptr
            obtain rfl := Option.some.inj (hentry.symm.trans hentry')
            refine ⟨kind, ?_, ?_⟩
            · rw [queuedGroups_setGroups, if_pos ⟨rfl, rfl, rfl⟩, List.count_append,
                List.count_eq_zero_of_not_mem (h.unlisted ptr' rfl _ _ _)]
              simp
            · intro b k t hmem
              rw [queuedGroups_setGroups] at hmem
              split at hmem
              · assumption
              · exact absurd hmem (h.unlisted ptr' rfl b k t)
          · obtain ⟨kind', hcount, honly⟩ := h.placed ptr' ginfo' hentry' hne'
              (fun hpending => hptr (Option.some.inj hpending).symm)
            refine ⟨kind', ?_, ?_⟩
            · rw [queuedGroups_setGroups]
              split
              case isTrue hplace =>
                obtain ⟨hb, hk, ht⟩ := hplace
                rw [List.count_append, ← hb, ← hk, ← ht, hcount]
                simp [Ne.symm hptr]
              case isFalse => exact hcount
            · intro b k t hmem
              rw [queuedGroups_setGroups] at hmem
              split at hmem
              case isTrue hplace =>
                obtain ⟨rfl, rfl, rfl⟩ := hplace
                rcases List.mem_append.mp hmem with hmem | hmem
                · exact honly _ _ _ hmem
                · exact absurd (List.mem_singleton.mp hmem) hptr
              case isFalse => exact honly b k t hmem
        · intro b k t ptr' hmem
          rw [queuedGroups_setGroups] at hmem
          split at hmem
          · rcases List.mem_append.mp hmem with hmem | hmem
            · exact h.listed _ _ _ ptr' hmem
            · obtain rfl := List.mem_singleton.mp hmem
              exact ⟨ginfo, hentry, hne⟩
          · exact h.listed b k t ptr' hmem

theorem allocate_entry (s : State) (leader : Joining) (request : JoinRequest) :
    ∃ ginfo, (s.allocate leader request).2.groups.entry s.groups.next = some ginfo ∧
      ginfo.players = [] :=
  ⟨_, Function.update_self .., rfl⟩

theorem Linked.addSolo (h : s.Linked none) {leader : Joining}
    (hnew : s.queuedPlayers.find? leader.guid = none) (request : JoinRequest) :
    (s.addSolo leader request).Linked none := by
  obtain ⟨ginfo, hentry, hempty⟩ := s.allocate_entry leader request
  exact (((h.allocate leader request).pend hentry hempty).enqueue hentry hnew).list _

/-- What AddGroup does to what it finds: other queued players stay as they are, and
entries below the next place of the heap that it does not fill. -/
theorem enqueue_find?_of_ne (s : State) (ptr : Ptr) {guid other : Guid} (h : other ≠ guid) :
    (s.enqueue ptr guid).queuedPlayers.find? other = s.queuedPlayers.find? other :=
  Lib.OrderedMap.find?_assign_of_ne _ h _

theorem list_queuedPlayers (s : State) (ptr : Ptr) (kind : Kind) :
    (s.list ptr kind).queuedPlayers = s.queuedPlayers ∧ (s.list ptr kind).groups = s.groups := by
  unfold State.list
  split
  · split <;> exact ⟨rfl, rfl⟩
  · exact ⟨rfl, rfl⟩

theorem addSolo_find?_of_ne (s : State) {leader : Joining} {other : Guid}
    (h : other ≠ leader.guid) (request : JoinRequest) :
    (s.addSolo leader request).queuedPlayers.find? other = s.queuedPlayers.find? other := by
  unfold State.addSolo
  dsimp only
  rw [(list_queuedPlayers ..).1]
  exact enqueue_find?_of_ne _ _ h

theorem addSolo_entry_of_lt (s : State) {ptr : Ptr} (h : ptr < s.groups.next) (leader : Joining)
    (request : JoinRequest) :
    (s.addSolo leader request).groups.entry ptr = s.groups.entry ptr ∧
      ptr < (s.addSolo leader request).groups.next := by
  unfold State.addSolo
  dsimp only
  rw [(list_queuedPlayers ..).2]
  refine ⟨?_, Nat.lt_succ_of_lt h⟩
  simp [State.enqueue, State.modifyGroup, Heap.modify, State.allocate,
    Function.update_of_ne (Nat.ne_of_lt h)]

theorem Linked.addMembers_solo {groupLimit : Nat} {party : Party}
    (hlimit : groupLimit < party.membersCount) (request : JoinRequest) {members : List Joining}
    (hdistinct : (members.map (·.guid)).Nodup)
    (hnew : ∀ member ∈ members, member.guid ∉ request.excludedMembers →
      s.queuedPlayers.find? member.guid = none)
    (h : s.Linked none) (hentry : s.groups.entry ptr = some ginfo) (hlt : ptr < s.groups.next) :
    (members.foldl (addMember groupLimit party request ptr) s).Linked none ∧
      (members.foldl (addMember groupLimit party request ptr) s).groups.entry ptr = some ginfo := by
  induction members generalizing s with
  | nil => exact ⟨h, hentry⟩
  | cons member rest ih =>
      obtain ⟨hout, hrest⟩ := List.nodup_cons.mp hdistinct
      have hstep : addMember groupLimit party request ptr s member =
          if member.guid ∈ request.excludedMembers then s
          else s.addSolo member { request with isPremade := false, excludedMembers := [] } := by
        unfold addMember
        rw [if_pos hlimit]
      rw [List.foldl_cons, hstep]
      split
      · exact ih hrest (fun m hm => hnew m (List.mem_cons_of_mem _ hm)) h hentry hlt
      case isFalse hjoins =>
        have hframe := s.addSolo_entry_of_lt hlt member
          { request with isPremade := false, excludedMembers := [] }
        refine ih hrest ?_ (h.addSolo (hnew member List.mem_cons_self hjoins) _)
          (hframe.1.trans hentry) hframe.2
        intro m hm hm'
        have hne : m.guid ≠ member.guid := fun hsame => hout (List.mem_map.mpr ⟨m, hm, hsame⟩)
        rw [s.addSolo_find?_of_ne hne]
        exact hnew m (List.mem_cons_of_mem _ hm) hm'

theorem Linked.addMembers_together {groupLimit : Nat} {party : Party}
    (hlimit : ¬ groupLimit < party.membersCount) (request : JoinRequest) {members : List Joining}
    (hdistinct : (members.map (·.guid)).Nodup)
    (hnew : ∀ member ∈ members, member.guid ∉ request.excludedMembers →
      s.queuedPlayers.find? member.guid = none)
    (h : s.Linked (some ptr)) (hentry : s.groups.entry ptr = some ginfo) :
    (members.foldl (addMember groupLimit party request ptr) s).Linked (some ptr) := by
  induction members generalizing s ginfo with
  | nil => exact h
  | cons member rest ih =>
      obtain ⟨hout, hrest⟩ := List.nodup_cons.mp hdistinct
      have hstep : addMember groupLimit party request ptr s member =
          if member.guid ∈ request.excludedMembers then s else s.enqueue ptr member.guid := by
        unfold addMember
        rw [if_neg hlimit]
      rw [List.foldl_cons, hstep]
      split
      · exact ih hrest (fun m hm => hnew m (List.mem_cons_of_mem _ hm)) h hentry
      case isFalse hjoins =>
        have hself : (s.enqueue ptr member.guid).groups.entry ptr =
            some { ginfo with players := ginfo.players.insert member.guid } := by
          simp [State.enqueue, State.modifyGroup, Heap.modify, hentry]
        refine ih hrest ?_ (h.enqueue hentry (hnew member List.mem_cons_self hjoins)) hself
        intro m hm hm'
        have hne : m.guid ≠ member.guid := fun hsame => hout (List.mem_map.mpr ⟨m, hm, hsame⟩)
        rw [s.enqueue_find?_of_ne ptr hne]
        exact hnew m (List.mem_cons_of_mem _ hm) hm'

theorem addGroup_missing (groupLimit : Nat) (s : State) (leader : Joining)
    (party : Option Party) (request : JoinRequest) :
    (s.addGroup groupLimit leader party request).groupInfoMissing = s.groupInfoMissing := by
  have hlist : ∀ (s : State) ptr kind, (s.list ptr kind).groupInfoMissing = s.groupInfoMissing := by
    intro s ptr kind
    unfold State.list
    split
    · split <;> rfl
    · rfl
  have hsolo : ∀ (s : State) leader request,
      (s.addSolo leader request).groupInfoMissing = s.groupInfoMissing :=
    fun _ _ _ => hlist _ _ _
  cases party with
  | none => exact hsolo s leader request
  | some party =>
      refine (hlist _ _ _).trans ?_
      have hmembers : ∀ (members : List Joining) (t : State) ptr,
          (members.foldl (addMember groupLimit party request ptr) t).groupInfoMissing =
            t.groupInfoMissing := by
        intro members
        induction members with
        | nil => exact fun _ _ => rfl
        | cons member rest ih =>
            intro t ptr
            refine (ih _ ptr).trans ?_
            unfold addMember
            split
            · rfl
            · split
              · exact hsolo ..
              · rfl
      exact hmembers party.members _ _

/-- The players that AddGroup queues. -/
def joiners (leader : Joining) (party : Option Party) (request : JoinRequest) : List Guid :=
  match party with
  | none => [leader.guid]
  | some party =>
      (party.members.map (·.guid)).filter fun guid => decide (guid ∉ request.excludedMembers)

theorem Linked.addGroup (h : s.Linked none) (groupLimit : Nat) {leader : Joining}
    {party : Option Party} {request : JoinRequest}
    (hnew : ∀ guid ∈ joiners leader party request, s.queuedPlayers.find? guid = none) :
    (s.addGroup groupLimit leader party request).Linked none := by
  cases party with
  | none => exact h.addSolo (hnew _ (List.mem_singleton.mpr rfl)) request
  | some party =>
      obtain ⟨ginfo, hentry, hempty⟩ := s.allocate_entry leader request
      have hnew' : ∀ member ∈ party.members, member.guid ∉ request.excludedMembers →
          (s.allocate leader request).2.queuedPlayers.find? member.guid = none := by
        intro member hmember hjoins
        refine hnew member.guid (List.mem_filter.mpr ⟨List.mem_map_of_mem hmember, ?_⟩)
        exact decide_eq_true hjoins
      unfold State.addGroup
      by_cases hlimit : groupLimit < party.membersCount
      · obtain ⟨hlinked, hentry'⟩ := (h.allocate leader request).addMembers_solo hlimit request
          party.distinct hnew' hentry (Nat.lt_succ_self _)
        exact (hlinked.pend hentry' hempty).list _
      · have hlinked := ((h.allocate leader request).pend hentry hempty).addMembers_together hlimit
          request party.distinct hnew' hentry
        exact hlinked.list _

end Joining

section Leaving

variable {s : State} {ptr : Ptr} {group : GroupQueueInfo} {guid : Guid} {info : PlayerQueueInfo}

theorem findSome?_eq_of_only {α β : Type} {f : α → Option β} {a : α} {value : β} {list : List α}
    (hmem : a ∈ list) (hvalue : f a = some value) (honly : ∀ x, x ≠ a → f x = none) :
    list.findSome? f = some value := by
  induction list with
  | nil => cases hmem
  | cons first rest ih =>
      by_cases hfirst : first = a
      · subst hfirst
        rw [List.findSome?_cons, hvalue]
      · rw [List.findSome?_cons, honly first hfirst]
        exact ih ((List.mem_cons.mp hmem).resolve_left (Ne.symm hfirst))

theorem Placed.findGroup {bracket : Bracket} {kind : Kind} {team : Team}
    (h : s.Placed ptr bracket kind team) : s.findGroup ptr team = some (bracket, kind) := by
  have hmem : ptr ∈ s.queuedGroups bracket kind team := by
    refine List.count_pos_iff.mp ?_
    rw [h.1]
    exact Nat.one_pos
  refine findSome?_eq_of_only (List.mem_reverse.mpr (List.mem_finRange bracket)) ?_ ?_
  · cases kind with
    | normal => exact if_pos hmem
    | premade =>
        have hnot : ptr ∉ s.queuedGroups bracket .normal team := by
          intro hnormal
          exact nomatch (h.2 _ _ _ hnormal).2.1
        rw [if_neg hnot]
        exact if_pos hmem
  · intro b hb
    rw [if_neg fun hin => hb (h.2 _ _ _ hin).1]
    exact if_neg fun hin => hb (h.2 _ _ _ hin).1

theorem Linked.points_unlink (h : s.Linked none) (hinfo : s.queuedPlayers.find? guid = some info)
    {ptr' : Ptr} {ginfo' : GroupQueueInfo} (hentry' : s.groups.entry ptr' = some ginfo')
    (other : Guid) :
    (∃ info', (s.queuedPlayers.erase guid).find? other = some info' ∧ info'.groupInfo = ptr') ↔
      other ≠ guid ∧ other ∈ ginfo'.players := by
  by_cases hsame : other = guid
  · subst hsame
    rw [Lib.OrderedMap.find?_erase_self]
    simp
  · rw [Lib.OrderedMap.find?_erase_of_ne _ hsame, ← h.linked ptr' ginfo' hentry' other]
    exact (and_iff_right hsame).symm

theorem Linked.mem_players (h : s.Linked none) (hinfo : s.queuedPlayers.find? guid = some info)
    (hentry : s.groups.entry info.groupInfo = some group) : guid ∈ group.players :=
  (h.linked _ _ hentry guid).mpr ⟨info, hinfo, rfl⟩

theorem Linked.not_mem_players (h : s.Linked none)
    (hinfo : s.queuedPlayers.find? guid = some info) {ptr' : Ptr} {ginfo' : GroupQueueInfo}
    (hentry' : s.groups.entry ptr' = some ginfo') (hne : ptr' ≠ info.groupInfo) :
    guid ∉ ginfo'.players := by
  intro hmem
  obtain ⟨info', hinfo', hptr⟩ := (h.linked ptr' ginfo' hentry' guid).mp hmem
  obtain rfl := Option.some.inj (hinfo.symm.trans hinfo')
  exact hne hptr.symm

theorem unlink_entry_self (hentry : s.groups.entry ptr = some group) :
    (s.unlink guid ptr).groups.entry ptr =
      some { group with players := group.players.erase guid } := by
  simp [State.unlink, State.modifyGroup, Heap.modify, hentry]

theorem unlink_entry_of_ne {ptr' : Ptr} (hne : ptr' ≠ ptr) :
    (s.unlink guid ptr).groups.entry ptr' = s.groups.entry ptr' := by
  simp [State.unlink, State.modifyGroup, Heap.modify, Function.update_of_ne hne]

theorem Linked.unlink (h : s.Linked none) (hinfo : s.queuedPlayers.find? guid = some info)
    (hentry : s.groups.entry info.groupInfo = some group)
    (hrest : group.players.erase guid ≠ []) : (s.unlink guid info.groupInfo).Linked none := by
  have hself := @unlink_entry_self _ _ _ guid hentry
  have hnonempty : group.players ≠ [] := List.ne_nil_of_mem (h.mem_players hinfo hentry)
  have hold : ∀ ptr' ginfo', (s.unlink guid info.groupInfo).groups.entry ptr' = some ginfo' →
      ∃ old, s.groups.entry ptr' = some old ∧ ginfo'.players = old.players.erase guid ∧
        ginfo'.bracketId = old.bracketId ∧ ginfo'.groupTeam = old.groupTeam := by
    intro ptr' ginfo' hentry'
    by_cases hptr : ptr' = info.groupInfo
    · subst hptr
      rw [hself] at hentry'
      obtain rfl := Option.some.inj hentry'
      exact ⟨group, hentry, rfl, rfl, rfl⟩
    · rw [unlink_entry_of_ne hptr] at hentry'
      refine ⟨ginfo', hentry', ?_, rfl, rfl⟩
      exact (List.erase_of_not_mem (h.not_mem_players hinfo hentry' hptr)).symm
  refine ⟨?_, ?_, ?_, ?_, ?_, ?_, fun _ hnone => nomatch hnone⟩
  · intro ptr' hptr'
    have hnone : s.groups.entry ptr' = none := h.fresh ptr' hptr'
    have hne : ptr' ≠ info.groupInfo := by
      rintro rfl
      rw [hentry] at hnone
      cases hnone
    rw [unlink_entry_of_ne hne]
    exact hnone
  · intro other info' hinfo'
    have hne : other ≠ guid := by
      rintro rfl
      rw [State.unlink, Lib.OrderedMap.find?_erase_self] at hinfo'
      cases hinfo'
    rw [State.unlink, Lib.OrderedMap.find?_erase_of_ne _ hne] at hinfo'
    obtain ⟨ginfo', hginfo'⟩ := h.alive other info' hinfo'
    by_cases hptr : info'.groupInfo = info.groupInfo
    · rw [hptr]
      exact ⟨_, hself⟩
    · exact ⟨ginfo', (unlink_entry_of_ne hptr).trans hginfo'⟩
  · intro ptr' ginfo' hentry' other
    obtain ⟨old, hold', hplayers, -, -⟩ := hold ptr' ginfo' hentry'
    rw [hplayers, (h.distinct ptr' old hold').mem_erase_iff]
    exact (h.points_unlink hinfo hold' other).symm
  · intro ptr' ginfo' hentry'
    obtain ⟨old, hold', hplayers, -, -⟩ := hold ptr' ginfo' hentry'
    rw [hplayers]
    exact (h.distinct ptr' old hold').erase _
  · intro ptr' ginfo' hentry' hne hpending
    obtain ⟨old, hold', hplayers, hbracket, hteam⟩ := hold ptr' ginfo' hentry'
    rw [hbracket, hteam]
    refine h.placed ptr' old hold' ?_ hpending
    intro hempty
    rw [hempty] at hplayers
    exact hne hplayers
  · intro bracket kind team ptr' hmem
    obtain ⟨ginfo', hentry', hne⟩ := h.listed bracket kind team ptr' hmem
    by_cases hptr : ptr' = info.groupInfo
    · rw [hptr]
      exact ⟨_, hself, hrest⟩
    · exact ⟨ginfo', (unlink_entry_of_ne hptr).trans hentry', hne⟩

/-- The last player takes the group with him. -/
theorem Linked.unlist (h : s.Linked none) (hinfo : s.queuedPlayers.find? guid = some info)
    (hentry : s.groups.entry info.groupInfo = some group)
    (hempty : group.players.erase guid = []) {kind : Kind}
    (hplaced : s.Placed info.groupInfo group.bracketId kind group.groupTeam) :
    ((s.unlink guid info.groupInfo).unlist info.groupInfo (group.bracketId, kind)
      group.groupTeam).Linked none := by
  generalize ht : (s.unlink guid info.groupInfo).unlist info.groupInfo (group.bracketId, kind)
    group.groupTeam = t
  have hself : t.groups.entry info.groupInfo = none := by
    rw [← ht]
    exact Function.update_self ..
  have hother : ∀ ptr', ptr' ≠ info.groupInfo → t.groups.entry ptr' = s.groups.entry ptr' := by
    intro ptr' hne
    rw [← ht]
    exact (Function.update_of_ne hne _ _).trans (unlink_entry_of_ne hne)
  have hentries : ∀ ptr' ginfo', t.groups.entry ptr' = some ginfo' →
      ptr' ≠ info.groupInfo ∧ s.groups.entry ptr' = some ginfo' := by
    intro ptr' ginfo' hentry'
    have hne : ptr' ≠ info.groupInfo := by
      rintro rfl
      rw [hself] at hentry'
      cases hentry'
    exact ⟨hne, (hother ptr' hne).symm.trans hentry'⟩
  have honly : ∀ other, other ≠ guid → ∀ info', s.queuedPlayers.find? other = some info' →
      info'.groupInfo ≠ info.groupInfo := by
    intro other hne info' hinfo' hptr
    have hmem : other ∈ group.players := (h.linked _ _ hentry other).mpr ⟨info', hinfo', hptr⟩
    have hmem' : other ∈ group.players.erase guid :=
      ((h.distinct _ _ hentry).mem_erase_iff).mpr ⟨hne, hmem⟩
    rw [hempty] at hmem'
    cases hmem'
  have hplayers : t.queuedPlayers = s.queuedPlayers.erase guid := by
    rw [← ht]
    rfl
  have hgroups : ∀ b k u, t.queuedGroups b k u =
      if b = group.bracketId ∧ k = kind ∧ u = group.groupTeam then
        (s.queuedGroups group.bracketId kind group.groupTeam).erase info.groupInfo
      else s.queuedGroups b k u := by
    intro b k u
    rw [← ht]
    rfl
  have hsub : ∀ b k u, ∀ ptr' ∈ t.queuedGroups b k u, ptr' ∈ s.queuedGroups b k u := by
    intro b k u ptr' hmem
    rw [hgroups] at hmem
    split at hmem
    case isTrue hplace =>
      obtain ⟨rfl, rfl, rfl⟩ := hplace
      exact List.mem_of_mem_erase hmem
    case isFalse => exact hmem
  have hgone : ∀ b k u, info.groupInfo ∉ t.queuedGroups b k u := by
    intro b k u hmem
    have hplace := hplaced.2 b k u (hsub b k u _ hmem)
    rw [hgroups, if_pos hplace] at hmem
    have hcount := List.count_pos_iff.mpr hmem
    rw [List.count_erase_self, hplaced.1] at hcount
    exact Nat.lt_irrefl _ hcount
  refine ⟨?_, ?_, ?_, ?_, ?_, ?_, fun _ hnone => nomatch hnone⟩
  · intro ptr' hptr'
    by_cases hne : ptr' = info.groupInfo
    · rw [hne]
      exact hself
    · rw [hother ptr' hne]
      rw [← ht] at hptr'
      exact h.fresh ptr' hptr'
  · intro other info' hinfo'
    rw [hplayers] at hinfo'
    have hne : other ≠ guid := by
      rintro rfl
      rw [Lib.OrderedMap.find?_erase_self] at hinfo'
      cases hinfo'
    rw [Lib.OrderedMap.find?_erase_of_ne _ hne] at hinfo'
    obtain ⟨ginfo', hginfo'⟩ := h.alive other info' hinfo'
    exact ⟨ginfo', (hother _ (honly other hne info' hinfo')).trans hginfo'⟩
  · intro ptr' ginfo' hentry' other
    obtain ⟨hne, hentry'⟩ := hentries ptr' ginfo' hentry'
    rw [hplayers, h.points_unlink hinfo hentry' other]
    refine ⟨fun hmem => ⟨?_, hmem⟩, fun hmem => hmem.2⟩
    rintro rfl
    exact h.not_mem_players hinfo hentry' hne hmem
  · intro ptr' ginfo' hentry'
    exact h.distinct ptr' ginfo' (hentries ptr' ginfo' hentry').2
  · intro ptr' ginfo' hentry' hne hpending
    obtain ⟨hptr, hentry'⟩ := hentries ptr' ginfo' hentry'
    obtain ⟨kind', hcount, hplace⟩ := h.placed ptr' ginfo' hentry' hne hpending
    refine ⟨kind', ?_, fun b k u hmem => hplace b k u (hsub b k u ptr' hmem)⟩
    rw [hgroups]
    split
    case isTrue hsame =>
      obtain ⟨hb, hk, hu⟩ := hsame
      rw [List.count_erase_of_ne hptr, ← hb, ← hk, ← hu]
      exact hcount
    case isFalse => exact hcount
  · intro b k u ptr' hmem
    obtain ⟨ginfo', hentry', hne⟩ := h.listed b k u ptr' (hsub b k u ptr' hmem)
    have hptr : ptr' ≠ info.groupInfo := by
      rintro rfl
      exact hgone b k u hmem
    exact ⟨ginfo', (hother ptr' hptr).trans hentry', hne⟩

theorem SameLinks.decreaseInvited (s : State) (guid : Guid) (group : GroupQueueInfo) :
    SameLinks s (s.decreaseInvited guid group) := ⟨rfl, fun _ => rfl, rfl, fun _ => rfl⟩

theorem Linked.removePlayer (h : s.Linked none) (guid : Guid) (decreaseInvitedCount : Bool) :
    (s.removePlayer guid decreaseInvitedCount).Linked none ∧
      (s.removePlayer guid decreaseInvitedCount).groupInfoMissing = s.groupInfoMissing := by
  unfold State.removePlayer
  cases hinfo : s.queuedPlayers.find? guid with
  | none => exact ⟨h, rfl⟩
  | some info =>
      obtain ⟨group, hentry⟩ := h.alive guid info hinfo
      have hnonempty : group.players ≠ [] := List.ne_nil_of_mem (h.mem_players hinfo hentry)
      obtain ⟨kind, hplaced⟩ := h.placed _ _ hentry hnonempty (by simp)
      simp only [hentry, hplaced.findGroup]
      generalize hs' : (if decreaseInvitedCount = true ∧ group.isInvitedToBGInstanceGUID ≠ 0 then
        s.decreaseInvited guid group else s) = s'
      have hs : s' = s ∨ s' = s.decreaseInvited guid group := by
        rw [← hs']
        split
        · exact Or.inr rfl
        · exact Or.inl rfl
      have hlinked : s'.Linked none := by
        obtain rfl | rfl := hs
        · exact h
        · exact (SameLinks.decreaseInvited s guid group).linked h
      have hinfo' : s'.queuedPlayers.find? guid = some info := by
        obtain rfl | rfl := hs
        · exact hinfo
        · exact hinfo
      have hentry' : s'.groups.entry info.groupInfo = some group := by
        obtain rfl | rfl := hs
        · exact hentry
        · exact hentry
      have hplaced' : s'.Placed info.groupInfo group.bracketId kind group.groupTeam := by
        obtain rfl | rfl := hs
        · exact hplaced
        · exact hplaced
      have hmissing : s'.groupInfoMissing = s.groupInfoMissing := by
        obtain rfl | rfl := hs
        · rfl
        · rfl
      split
      case isTrue hempty => exact ⟨hlinked.unlist hinfo' hentry' hempty hplaced', hmissing⟩
      case isFalse hrest => exact ⟨hlinked.unlink hinfo' hentry' hrest, hmissing⟩

end Leaving

def PoolsOnly (s s' : State) : Prop :=
  ∃ pools observed ended,
    s' = { s with selectionPools := pools, observed := observed, endIncremented := ended }

namespace PoolsOnly

variable {s s' s'' : State}

theorem refl (s : State) : PoolsOnly s s := ⟨_, _, _, rfl⟩

theorem trans (h : PoolsOnly s s') (h' : PoolsOnly s' s'') : PoolsOnly s s'' := by
  obtain ⟨pools, observed, ended, rfl⟩ := h
  obtain ⟨pools', observed', ended', rfl⟩ := h'
  exact ⟨pools', observed', ended', rfl⟩

theorem sameLinks (h : PoolsOnly s s') : SameLinks s s' := by
  obtain ⟨pools, observed, ended, rfl⟩ := h
  exact ⟨rfl, fun _ => rfl, rfl, fun _ => rfl⟩

theorem missing (h : PoolsOnly s s') : s'.groupInfoMissing = s.groupInfoMissing := by
  obtain ⟨pools, observed, ended, rfl⟩ := h
  rfl

theorem setPool (s : State) (team : Team) (pool : SelectionPool) :
    PoolsOnly s (s.setPool team pool) := ⟨_, _, _, rfl⟩

theorem initPools (s : State) : PoolsOnly s s.initPools := (setPool ..).trans (setPool ..)

variable (find : Guid → Option PlayerState) (config : Config) (moment : Moment)

theorem poolAddGroup (s : State) (team : Team) (ptr : Ptr) (desiredCount bgInstanceId : Nat) :
    PoolsOnly s (s.poolAddGroup find team ptr desiredCount bgInstanceId).2 := by
  simp only [State.poolAddGroup]
  split
  · exact setPool ..
  · exact refl s

theorem poolKickGroup (s : State) (team : Team) (size : Nat) :
    PoolsOnly s (s.poolKickGroup team size).2 := by
  simp only [State.poolKickGroup]
  split
  · exact refl s
  · split
    · exact setPool ..
    · exact refl s

theorem fillFrom (s : State) (team : Team) (desiredCount bgInstanceId : Nat) (list : List Ptr) :
    PoolsOnly s (fillFrom find team desiredCount bgInstanceId s list).1 := by
  induction list generalizing s with
  | nil => exact refl s
  | cons ptr rest ih =>
      have hfirst := poolAddGroup find s team ptr desiredCount bgInstanceId
      simp only [State.fillFrom]
      generalize s.poolAddGroup find team ptr desiredCount bgInstanceId = added at hfirst ⊢
      obtain ⟨again, s'⟩ := added
      cases again with
      | true => exact hfirst.trans (ih s')
      | false => exact hfirst

theorem refill (team : Team) (desiredCount bgInstanceId : Nat) (again : Bool) (s : State)
    (list : List Ptr) :
    PoolsOnly s (refill find team desiredCount bgInstanceId again s list).1 := by
  simp only [State.refill]
  split
  · exact fillFrom ..
  · exact refl s

theorem kickRound (s : State) (filling : Filling) (team : Team) :
    PoolsOnly s (s.kickRound find filling team).2.1 := by
  simp only [State.kickRound]
  split
  · split
    · exact (poolKickGroup ..).trans (refill ..)
    · exact ((poolKickGroup ..).trans (refill ..)).trans (poolKickGroup ..)
  · exact (poolKickGroup ..).trans (refill ..)

theorem balance (differential : Int) (fuel : Nat) (s : State) (filling : Filling) :
    PoolsOnly s (s.balance find differential fuel filling) := by
  induction fuel generalizing s filling with
  | zero => exact refl s
  | succ fuel ih =>
      simp only [State.balance]
      split
      · have hround := kickRound find s filling
          (if filling.diff s .alliance < filling.diff s .horde then .alliance else .horde)
        generalize s.kickRound find filling _ = round at hround ⊢
        obtain ⟨again, s', filling'⟩ := round
        cases again with
        | true => exact hround.trans (ih s' filling')
        | false => exact hround
      · exact refl s

theorem fillPlayersToBG (s : State) (bg : BattleGround) (bracket : Bracket) :
    PoolsOnly s (s.fillPlayersToBG config find bg bracket) := by
  simp only [State.fillPlayersToBG]
  split
  · exact refl s
  · split
    · exact (fillFrom ..).trans (fillFrom ..)
    · exact ((fillFrom ..).trans (fillFrom ..)).trans (balance ..)

theorem scan (team : Team) (eligible : State → Ptr → Bool) (minPlayers maxPlayers : Nat)
    (s : State) (list : List Ptr) :
    PoolsOnly s (scan find team eligible minPlayers maxPlayers s list).1 := by
  induction list generalizing s with
  | nil => exact refl s
  | cons ptr rest ih =>
      simp only [State.scan]
      split
      · split
        · exact poolAddGroup ..
        · exact (poolAddGroup ..).trans (ih _)
      · exact ih s

theorem extend (team : Team) (s : State) (list : List Ptr) :
    PoolsOnly s (extend find team s list) := by
  induction list generalizing s with
  | nil => exact refl s
  | cons ptr rest ih =>
      simp only [State.extend]
      split
      · exact ih s
      · have hfirst := poolAddGroup find s team ptr (s.playerCount team.other) 0
        generalize s.poolAddGroup find team ptr (s.playerCount team.other) 0 = added at hfirst ⊢
        obtain ⟨again, s'⟩ := added
        cases again with
        | true => exact hfirst.trans (ih s')
        | false => exact hfirst

theorem scanNormal (s : State) (bracket : Bracket) (minPlayers maxPlayers : Nat) :
    PoolsOnly s (s.scanNormal find bracket minPlayers maxPlayers).1 :=
  (scan ..).trans (scan ..)

theorem balanceNormal (s : State) (minPlayers : Nat) (rest : Option (List Ptr)) :
    PoolsOnly s (s.balanceNormal config find minPlayers rest).2 := by
  cases rest with
  | none => exact ⟨_, _, _, rfl⟩
  | some rest =>
      simp only [State.balanceNormal]
      split
      · exact extend ..
      · exact extend ..

theorem checkNormalMatch (s : State) (bracket : Bracket) (minPlayers maxPlayers : Nat) :
    PoolsOnly s (s.checkNormalMatch config moment bracket minPlayers maxPlayers).2 := by
  simp only [State.checkNormalMatch]
  split
  · exact (scanNormal ..).trans (balanceNormal ..)
  · exact scanNormal ..

theorem scanPremade (s : State) (bracket : Bracket) (minPlayers maxPlayers : Nat) (kind : Kind)
    (team : Team) :
    PoolsOnly s (s.scanPremade config find bracket minPlayers maxPlayers kind team) := scan ..

end PoolsOnly

def ofTeam (s : State) (bracket : Bracket) (team : Team) : List Ptr :=
  s.queuedGroups bracket .premade team ++ s.queuedGroups bracket .normal team

theorem mem_ofTeam {s : State} {ptr : Ptr} {bracket : Bracket} {team : Team} :
    ptr ∈ s.ofTeam bracket team ↔ ∃ kind, ptr ∈ s.queuedGroups bracket kind team := by
  refine List.mem_append.trans ⟨?_, ?_⟩
  · rintro (hmem | hmem)
    · exact ⟨.premade, hmem⟩
    · exact ⟨.normal, hmem⟩
  · rintro ⟨kind, hmem⟩
    cases kind with
    | premade => exact Or.inl hmem
    | normal => exact Or.inr hmem

theorem exists_placed_iff {s : State} {ptr : Ptr} {bracket : Bracket} {team : Team} :
    (∃ kind, s.Placed ptr bracket kind team) ↔
      (s.ofTeam bracket team).count ptr = 1 ∧
        ∀ b t, ptr ∈ s.ofTeam b t → b = bracket ∧ t = team := by
  unfold ofTeam Placed
  rw [List.count_append]
  constructor
  · rintro ⟨kind, hcount, honly⟩
    refine ⟨?_, ?_⟩
    · cases kind with
      | premade =>
          have hzero : ptr ∉ s.queuedGroups bracket .normal team :=
            fun hmem => nomatch (honly _ _ _ hmem).2.1
          rw [hcount, List.count_eq_zero_of_not_mem hzero]
      | normal =>
          have hzero : ptr ∉ s.queuedGroups bracket .premade team :=
            fun hmem => nomatch (honly _ _ _ hmem).2.1
          rw [hcount, List.count_eq_zero_of_not_mem hzero]
    · intro b t hmem
      obtain ⟨kind', hmem'⟩ := mem_ofTeam.mp hmem
      exact ⟨(honly b kind' t hmem').1, (honly b kind' t hmem').2.2⟩
  · rintro ⟨hcount, honly⟩
    have hplace : ∀ kind, (∀ kind', kind' ≠ kind → ptr ∉ s.queuedGroups bracket kind' team) →
        ∀ b k t, ptr ∈ s.queuedGroups b k t → b = bracket ∧ k = kind ∧ t = team := by
      intro kind hnot b k t hmem
      obtain ⟨rfl, rfl⟩ := honly b t (mem_ofTeam.mpr ⟨k, hmem⟩)
      refine ⟨rfl, ?_, rfl⟩
      by_contra hne
      exact hnot k hne hmem
    by_cases hnormal : ptr ∈ s.queuedGroups bracket .normal team
    · have hpos := List.count_pos_iff.mpr hnormal
      have hzero : (s.queuedGroups bracket .premade team).count ptr = 0 := by omega
      refine ⟨.normal, by omega, hplace .normal ?_⟩
      intro kind' hne hmem
      cases kind' with
      | premade => exact absurd hmem (List.count_eq_zero.mp hzero)
      | normal => exact hne rfl
    · have hzero := List.count_eq_zero_of_not_mem hnormal
      refine ⟨.premade, by omega, hplace .premade ?_⟩
      intro kind' hne hmem
      cases kind' with
      | premade => exact hne rfl
      | normal => exact hnormal hmem

theorem Linked.relist {s s' : State} (h : s.Linked none) (hgroups : s'.groups = s.groups)
    (hplayers : s'.queuedPlayers = s.queuedPlayers)
    (hperm : ∀ bracket team, (s'.ofTeam bracket team).Perm (s.ofTeam bracket team)) :
    s'.Linked none := by
  refine ⟨?_, ?_, ?_, ?_, ?_, ?_, fun _ hnone => nomatch hnone⟩
  · rw [hgroups]
    exact h.fresh
  · rw [hgroups, hplayers]
    exact h.alive
  · rw [hgroups, hplayers]
    exact h.linked
  · rw [hgroups]
    exact h.distinct
  · intro ptr ginfo hentry hne hpending
    rw [hgroups] at hentry
    obtain ⟨hcount, honly⟩ := exists_placed_iff.mp (h.placed ptr ginfo hentry hne hpending)
    refine exists_placed_iff.mpr ⟨?_, ?_⟩
    · rw [(hperm _ _).count_eq]
      exact hcount
    · intro b t hmem
      exact honly b t ((hperm b t).mem_iff.mp hmem)
  · intro bracket kind team ptr hmem
    rw [hgroups]
    obtain ⟨kind', hmem'⟩ := mem_ofTeam.mp
      ((hperm bracket team).mem_iff.mp (mem_ofTeam.mpr ⟨kind, hmem⟩))
    exact h.listed bracket kind' team ptr hmem'

structure Keeps (s s' : State) : Prop where
  linked : s.Linked none → s'.Linked none
  missing : s.Linked none → s'.groupInfoMissing = s.groupInfoMissing

namespace Keeps

variable {s s' s'' : State}

theorem refl (s : State) : Keeps s s := ⟨fun h => h, fun _ => rfl⟩

theorem trans (h : Keeps s s') (h' : Keeps s' s'') : Keeps s s'' :=
  ⟨fun hs => h'.linked (h.linked hs),
    fun hs => (h'.missing (h.linked hs)).trans (h.missing hs)⟩

theorem of_poolsOnly (h : PoolsOnly s s') : Keeps s s' :=
  ⟨fun hs => h.sameLinks.linked hs, fun _ => h.missing⟩

theorem of_sameLinks (h : SameLinks s s') (hmissing : s'.groupInfoMissing = s.groupInfoMissing) :
    Keeps s s' :=
  ⟨fun hs => h.linked hs, fun _ => hmissing⟩

theorem foldl {α : Type} {f : State → α → State} (hf : ∀ s a, Keeps s (f s a)) (s : State)
    (list : List α) : Keeps s (list.foldl f s) := by
  induction list generalizing s with
  | nil => exact refl s
  | cons first rest ih => exact (hf s first).trans (ih (f s first))

theorem removePlayer (s : State) (guid : Guid) (decreaseInvitedCount : Bool) :
    Keeps s (s.removePlayer guid decreaseInvitedCount) :=
  ⟨fun hs => (hs.removePlayer guid decreaseInvitedCount).1,
    fun hs => (hs.removePlayer guid decreaseInvitedCount).2⟩

variable (config : Config) (moment : Moment)

theorem inviteGroupToBG (s : State) (ptr : Ptr) (bg : BattleGround) :
    Keeps s (s.inviteGroupToBG moment.find moment.now ptr bg).1 := by
  simp only [State.inviteGroupToBG]
  split
  · exact refl s
  · split
    · refine of_sameLinks ((SameLinks.markInvited s moment.now ptr bg).trans ?_) rfl
      exact ⟨rfl, fun _ => rfl, rfl, fun _ => rfl⟩
    · exact refl s

theorem inviteGroups (list : List Ptr) (sbg : State × BattleGround) :
    Keeps sbg.1 (list.foldl (fun sbg ptr =>
      sbg.1.inviteGroupToBG moment.find moment.now ptr sbg.2) sbg).1 := by
  induction list generalizing sbg with
  | nil => exact refl sbg.1
  | cons ptr rest ih => exact (inviteGroupToBG moment sbg.1 ptr sbg.2).trans (ih _)

theorem inviteAllGroups (s : State) (bg : BattleGround) :
    Keeps s (s.inviteAllGroups moment bg).1 := inviteGroups moment _ (s, bg)

theorem fillBattleGround (bracket : Bracket) (s : State) (instanceID : UInt32) :
    Keeps s (s.fillBattleGround config moment bracket instanceID) := by
  simp only [State.fillBattleGround]
  split
  · rename_i bg _
    split
    · have hfilled : Keeps s (s.initPools.fillPlayersToBG config moment.find bg bracket) :=
        of_poolsOnly ((PoolsOnly.initPools s).trans (PoolsOnly.fillPlayersToBG ..))
      have hinvited := hfilled.trans (inviteAllGroups moment _ bg)
      split
      · exact hinvited.trans (of_sameLinks ⟨rfl, fun _ => rfl, rfl, fun _ => rfl⟩ rfl)
      · exact hinvited.trans (of_sameLinks ⟨rfl, fun _ => rfl, rfl, fun _ => rfl⟩ rfl)
    · exact refl s
  · exact refl s

theorem createMatch (s : State) (bracket : Bracket) (template : Template)
    (minPlayers maxPlayers : Nat) :
    Keeps s (s.createMatch config moment bracket template minPlayers maxPlayers) := by
  have hrecorded : Keeps s (s.recordCreation moment minPlayers maxPlayers) :=
    of_sameLinks ⟨rfl, fun _ => rfl, rfl, fun _ => rfl⟩ rfl
  have hstarted : ∀ (s : State) bg, Keeps s (s.startBattleGround bg) :=
    fun _ _ => of_sameLinks ⟨rfl, fun _ => rfl, rfl, fun _ => rfl⟩ rfl
  have hinvited := hrecorded.trans (inviteAllGroups moment _
    ((s.recordCreation moment minPlayers maxPlayers).createNewBattleGround config bracket template))
  exact (hinvited.trans (hstarted _ _)).trans (of_poolsOnly (PoolsOnly.initPools _))

theorem normalMatches (bracket : Bracket) (template : Template) (minPlayers maxPlayers : Nat)
    (attempts : Nat) (s : State) :
    Keeps s (s.normalMatches config moment bracket template minPlayers maxPlayers attempts) := by
  induction attempts generalizing s with
  | zero => exact refl s
  | succ attempts ih =>
      have hcheck := of_poolsOnly
        (PoolsOnly.checkNormalMatch config moment s bracket minPlayers maxPlayers)
      simp only [State.normalMatches]
      generalize s.checkNormalMatch config moment bracket minPlayers maxPlayers =
        checked at hcheck ⊢
      obtain ⟨found, s'⟩ := checked
      cases found with
      | true => exact hcheck.trans ((createMatch config moment ..).trans (ih _))
      | false => exact hcheck.trans (ih s')

theorem relist (hgroups : s'.groups = s.groups) (hplayers : s'.queuedPlayers = s.queuedPlayers)
    (hmissing : s'.groupInfoMissing = s.groupInfoMissing)
    (hperm : ∀ bracket team, (s'.ofTeam bracket team).Perm (s.ofTeam bracket team)) :
    Keeps s s' :=
  ⟨fun hs => hs.relist hgroups hplayers hperm, fun _ => hmissing⟩

theorem moveToNormal (bracket : Bracket) (minPlayers : Nat) (s : State) (team : Team) :
    Keeps s (s.moveToNormal config moment bracket minPlayers team) := by
  simp only [State.moveToNormal]
  split
  · rename_i ptr rest hlist
    split
    · split
      · refine relist rfl rfl rfl ?_
        intro b t
        by_cases hplace : b = bracket ∧ t = team
        · obtain ⟨rfl, rfl⟩ := hplace
          simp only [ofTeam, queuedGroups_setGroups, and_true, reduceCtorEq, and_false, if_true,
            if_false, hlist]
          rw [List.cons_append, ← List.append_assoc]
          exact List.perm_append_singleton _ _
        · have hsame :
            ∀ k, ((s.setGroups bracket .normal team (s.queuedGroups bracket .normal team ++
              [ptr])).setGroups bracket .premade team rest).queuedGroups b k t =
              s.queuedGroups b k t := by
            intro k
            rw [queuedGroups_setGroups, if_neg fun h => hplace ⟨h.1, h.2.2⟩,
              queuedGroups_setGroups, if_neg fun h => hplace ⟨h.1, h.2.2⟩]
          unfold ofTeam
          rw [hsame, hsame]
      · exact refl s
    · exact refl s
  · exact refl s

theorem reorder (s : State) (bracket : Bracket) {f : List Ptr → List Ptr}
    (hf : ∀ list, (f list).Perm list) : Keeps s (s.reorder bracket f) := by
  refine relist rfl rfl rfl ?_
  intro b t
  have hnormal : ((s.reorder bracket f).queuedGroups b .normal t).Perm
      (s.queuedGroups b .normal t) := by
    simp only [State.reorder, queuedGroups_setGroups]
    split
    case isTrue hplace =>
      obtain ⟨rfl, -, rfl⟩ := hplace
      simp only [reduceCtorEq, and_false, if_false]
      exact hf _
    case isFalse =>
      split
      case isTrue hplace =>
        obtain ⟨rfl, -, rfl⟩ := hplace
        exact hf _
      case isFalse => exact List.Perm.refl _
  have hpremade : (s.reorder bracket f).queuedGroups b .premade t =
      s.queuedGroups b .premade t := by
    simp [State.reorder, queuedGroups_setGroups]
  unfold ofTeam
  rw [hpremade]
  exact hnormal.append_left _

theorem checkPremadeMatch (s : State) (bracket : Bracket) (minPlayers maxPlayers : Nat) :
    Keeps s (s.checkPremadeMatch config moment bracket minPlayers maxPlayers).2 := by
  have hscanned : Keeps s (premadeScans.foldl (fun s place =>
      scanPremade config moment.find bracket minPlayers maxPlayers s place.1 place.2) s) :=
    foldl (fun s place => of_poolsOnly (PoolsOnly.scanPremade ..)) s _
  simp only [State.checkPremadeMatch]
  split
  · exact hscanned
  · exact (hscanned.trans (moveToNormal config moment ..)).trans (moveToNormal config moment ..)

theorem alteracMinimum (s : State) (bracket : Bracket) :
    Keeps s (s.alteracMinimum config moment bracket).2 := by
  simp only [State.alteracMinimum]
  split
  · split
    · exact refl s
    · have hperm : ∀ list, (moment.avShuffle.apply (list.take config.avMinPlayersInQueue) ++
          list.drop config.avMinPlayersInQueue).Perm list := by
        intro list
        have hshuffled :=
          (moment.avShuffle.perm (list.take config.avMinPlayersInQueue)).append_right
          (list.drop config.avMinPlayersInQueue)
        rwa [List.take_append_drop] at hshuffled
      exact reorder s bracket hperm
  · exact refl s

theorem makeMatches (s : State) (bracket : Bracket) (template : Template) (limits : Limits) :
    Keeps s (s.makeMatches config moment bracket template limits) := by
  have hchecked := (of_poolsOnly (PoolsOnly.initPools s)).trans
    (checkPremadeMatch config moment s.initPools bracket limits.minPlayers limits.maxPlayers)
  simp only [State.makeMatches]
  refine Keeps.trans ?_ (normalMatches config moment ..)
  split
  · exact hchecked.trans (createMatch config moment ..)
  · exact hchecked

theorem findMatches (s : State) (bracket : Bracket) (template : Template) :
    Keeps s (s.findMatches config moment bracket template) :=
  (alteracMinimum config moment s bracket).trans (makeMatches config moment ..)

theorem purge (now : UInt32) (fuel : Nat) (s : State) : Keeps s (s.purge now fuel) := by
  induction fuel generalizing s with
  | zero => exact refl s
  | succ fuel ih =>
      simp only [State.purge]
      split
      · exact (removePlayer ..).trans (ih _)
      · exact refl s

theorem update (s : State) (bracket : Bracket) : Keeps s (s.update config moment bracket) := by
  simp only [State.update]
  have hpurged := purge moment.now s.queuedPlayers.entries.length s
  split
  · exact hpurged
  · generalize s.purge moment.now s.queuedPlayers.entries.length = t at hpurged ⊢
    have hordered : Keeps s (if config.randomize = true then t.reorder bracket moment.shuffle.apply
        else t) := by
      split
      · exact hpurged.trans (reorder t bracket moment.shuffle.perm)
      · exact hpurged
    generalize (if config.randomize = true then t.reorder bracket moment.shuffle.apply else t) = u
      at hordered ⊢
    have hfilled := hordered.trans
      (foldl (fillBattleGround config moment bracket) u u.freeSlotQueue)
    split
    · exact hfilled
    · exact hfilled.trans (findMatches config moment ..)

theorem playerLoggedOut (s : State) (guid : Guid) (now : UInt32) :
    Keeps s (s.playerLoggedOut guid now) := by
  simp only [State.playerLoggedOut]
  split
  · exact refl s
  · rename_i info hinfo
    refine of_sameLinks ⟨rfl, ?_, rfl, fun _ => rfl⟩ rfl
    intro other
    by_cases hsame : other = guid
    · subst hsame
      rw [hinfo, Lib.OrderedMap.find?_assign_self]
      rfl
    · rw [Lib.OrderedMap.find?_assign_of_ne _ hsame]

theorem playerLoggedIn (s : State) (guid : Guid) : Keeps s (s.playerLoggedIn guid) := by
  simp only [State.playerLoggedIn]
  split
  · exact refl s
  · rename_i info hinfo
    refine of_sameLinks ⟨rfl, ?_, rfl, fun _ => rfl⟩ rfl
    intro other
    by_cases hsame : other = guid
    · subst hsame
      rw [hinfo, Lib.OrderedMap.find?_assign_self]
      rfl
    · rw [Lib.OrderedMap.find?_assign_of_ne _ hsame]

end Keeps

def Admissible (s : State) : QueueEvent → Prop
  | .addGroup leader party request =>
      ∀ guid ∈ joiners leader party request, s.queuedPlayers.find? guid = none
  | _ => True

theorem Keeps.step (config : Config) {s : State} {event : QueueEvent}
    (h : s.Admissible event) : Keeps s (s.step config event) := by
  cases event with
  | addGroup leader party request =>
      exact ⟨fun hs => hs.addGroup config.groupLimit h,
        fun _ => addGroup_missing config.groupLimit s leader party request⟩
  | removePlayer guid decreaseInvitedCount => exact removePlayer s guid decreaseInvitedCount
  | invite ptr bg moment => exact inviteGroupToBG moment s ptr bg
  | moveToNormal bracket minPlayers team moment =>
      exact moveToNormal config moment bracket minPlayers s team
  | loggedOut guid now => exact playerLoggedOut s guid now
  | loggedIn guid => exact playerLoggedIn s guid
  | update bracket moment => exact update config moment s bracket

theorem linked_empty : ({} : State).Linked none := by
  refine ⟨fun _ _ => rfl, ?_, ?_, ?_, ?_, ?_, ?_⟩
  · intro guid info hinfo
    cases hinfo
  · intro ptr ginfo hentry
    cases hentry
  · intro ptr ginfo hentry
    cases hentry
  · intro ptr ginfo hentry
    cases hentry
  · intro bracket kind team ptr hmem
    cases hmem
  · intro ptr hpending
    cases hpending

/-- In every state of every run from the empty queue the links are whole, and no
RemovePlayer missed its group. -/
theorem linked_in_every_state (config : Config) {events : List QueueEvent}
    (h : Lib.Along (step config) Admissible {} events) :
    ∀ before, before <+: events →
      (run config {} before).Linked none ∧ (run config {} before).groupInfoMissing = false := by
  intro before hbefore
  refine Lib.run_invariant_upto (I := fun s => s.Linked none ∧ s.groupInfoMissing = false)
    ?_ ⟨linked_empty, rfl⟩ h hbefore
  intro s event hs hadmissible
  have hkeeps := Keeps.step config hadmissible
  exact ⟨hkeeps.linked hs.1, (hkeeps.missing hs.1).trans hs.2⟩

/-- A party of three joins as one group, two players leave. -/
theorem linked_after_party :
    (run { bgTypeId := .ws, template := none, premadeQueueGroupMinSize := 6,
           premadeGroupWaitForMatch := 0, invitationType := 0 } {}
      [.addGroup ⟨1, .alliance⟩
         (some { members := [⟨1, .alliance⟩, ⟨2, .alliance⟩, ⟨3, .alliance⟩], membersCount := 3,
                 distinct := by decide })
         { bgTypeId := .ws, bracketId := 4, isPremade := false, instanceId := 0, now := 0 },
       .removePlayer 1 true, .removePlayer 3 true]).Linked none := by
  refine (linked_in_every_state _ ?_ _ (List.prefix_refl _)).1
  refine ⟨?_, trivial, trivial, trivial⟩
  intro guid _
  rfl

end State

end TortoiseWow.Battleground
