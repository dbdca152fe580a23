import TortoiseWow.Battleground.Entering

/-!
The invited counters: each battleground's counter of a team is the number of
players that were counted and have neither been removed nor left, and only such
players are ever counted out.
-/

namespace TortoiseWow.Battleground

namespace State

def invitation (s : State) (guid : Guid) : Option (UInt32 × Team) :=
  (s.queuedPlayers.find? guid).bind fun info =>
    (s.groups.entry info.groupInfo).bind fun ginfo =>
      if ginfo.isInvitedToBGInstanceGUID = 0 then none
      else some (ginfo.isInvitedToBGInstanceGUID, ginfo.groupTeam)

def entered (s : State) : List (Guid × UInt32 × Team) :=
  s.battleGrounds.flatMap fun bg => bg.players.map fun entry => (entry.1, bg.instanceID, entry.2)

/-- How often a player is queued with an invitation, unless he is on his way out. -/
def queuedCount (s : State) (gone : Option Guid) (x : Guid × UInt32 × Team) : Nat :=
  if s.invitation x.1 = some x.2 ∧ gone ≠ some x.1 then 1 else 0

def countedFor (s : State) (instanceID : UInt32) (team : Team) : Nat :=
  (s.counted.map Prod.snd).count (instanceID, team)

/-- The counters are those of the counted players, and whoever is queued with an
invitation, on his way or inside has been counted for it. -/
structure Accounted (config : Config) (gone : Option Guid) (s : State) : Prop where
  types : ∀ ptr ginfo, s.groups.entry ptr = some ginfo → ginfo.bgTypeId = config.bgTypeId
  bgTypes : ∀ bg ∈ s.battleGrounds, bg.typeID = config.bgTypeId
  ids : (s.battleGrounds.map (·.instanceID)).Nodup
  oldIds : ∀ bg ∈ s.battleGrounds, bg.instanceID.toNat ≤ s.maxInstanceId.toNat
  oldCounted : ∀ x ∈ s.counted, x.2.1.toNat ≤ s.maxInstanceId.toNat
  counters : ∀ bg ∈ s.battleGrounds, ∀ team,
    bg.getInvitedCount team = UInt32.ofNat (s.countedFor bg.instanceID team)
  owed : ∀ x, s.queuedCount gone x + s.ported.count x + s.entered.count x ≤ s.counted.count x

theorem getInvitedCount_increases (team team' : Team) (list : List Guid)
    (bg : BattleGround) :
    (list.foldl (fun bg _ => bg.increaseInvitedCount team) bg).getInvitedCount team' =
      bg.getInvitedCount team' + UInt32.ofNat (if team' = team then list.length else 0) := by
  induction list generalizing bg with
  | nil => simp
  | cons guid rest ih =>
      rw [List.foldl_cons, ih]
      have hone : (bg.increaseInvitedCount team).getInvitedCount team' =
          bg.getInvitedCount team' + UInt32.ofNat (if team' = team then 1 else 0) := by
        cases team <;> cases team' <;> simp [BattleGround.increaseInvitedCount,
          BattleGround.getInvitedCount]
      rw [hone, UInt32.add_assoc, ← UInt32.ofNat_add]
      split <;> simp [Nat.add_comm]

/-- A change in which nobody is invited, ports, enters or leaves. -/
structure Calm (config : Config) (s s' : State) : Prop where
  battleGrounds : s'.battleGrounds = s.battleGrounds
  counted : s'.counted = s.counted
  ported : s'.ported = s.ported
  maxInstanceId : s'.maxInstanceId = s.maxInstanceId
  invitation : ∀ guid, s'.invitation guid = s.invitation guid ∨ s'.invitation guid = none
  types : ∀ ptr ginfo', s'.groups.entry ptr = some ginfo' → ginfo'.bgTypeId = config.bgTypeId ∨
    ∃ ginfo, s.groups.entry ptr = some ginfo ∧ ginfo'.bgTypeId = ginfo.bgTypeId

section Counting

variable {config : Config} {s s' : State} {gone : Option Guid}

theorem Calm.refl (config : Config) (s : State) : Calm config s s :=
  ⟨rfl, rfl, rfl, rfl, fun _ => Or.inl rfl, fun _ ginfo h => Or.inr ⟨ginfo, h, rfl⟩⟩

theorem Calm.trans {s'' : State} (h : Calm config s s') (h' : Calm config s' s'') :
    Calm config s s'' := by
  refine ⟨h'.battleGrounds.trans h.battleGrounds, h'.counted.trans h.counted,
    h'.ported.trans h.ported, h'.maxInstanceId.trans h.maxInstanceId, ?_, ?_⟩
  · intro guid
    rcases h'.invitation guid with heq | hnone
    · rw [heq]
      exact h.invitation guid
    · exact Or.inr hnone
  · intro ptr ginfo'' hentry
    rcases h'.types ptr ginfo'' hentry with htype | ⟨ginfo', hentry', heq⟩
    · exact Or.inl htype
    · rw [heq]
      exact h.types ptr ginfo' hentry'

/-- A calm change keeps the account, and closes it for a player who is queued with
no invitation any more. -/
theorem Accounted.calm (h : s.Accounted config gone) (hcalm : Calm config s s')
    (hgone : ∀ guid, gone = some guid → s'.invitation guid = none) : s'.Accounted config none := by
  refine ⟨?_, ?_, ?_, ?_, ?_, ?_, ?_⟩
  · intro ptr ginfo' hentry
    rcases hcalm.types ptr ginfo' hentry with htype | ⟨ginfo, hentry', heq⟩
    · exact htype
    · rw [heq]
      exact h.types ptr ginfo hentry'
  · rw [hcalm.battleGrounds]
    exact h.bgTypes
  · rw [hcalm.battleGrounds]
    exact h.ids
  · rw [hcalm.battleGrounds, hcalm.maxInstanceId]
    exact h.oldIds
  · rw [hcalm.counted, hcalm.maxInstanceId]
    exact h.oldCounted
  · unfold countedFor
    rw [hcalm.battleGrounds, hcalm.counted]
    exact h.counters
  · intro x
    have hle : s'.queuedCount none x ≤ s.queuedCount gone x := by
      unfold queuedCount
      split
      case isTrue hinvited =>
        have hhere : gone ≠ some x.1 := by
          intro hx
          rw [hgone x.1 hx] at hinvited
          cases hinvited.1
        rcases hcalm.invitation x.1 with heq | hnone
        · rw [if_pos ⟨heq.symm.trans hinvited.1, hhere⟩]
        · rw [hnone] at hinvited
          cases hinvited.1
      case isFalse => exact Nat.zero_le _
    have howed := h.owed x
    have hentered : s'.entered = s.entered := by
      unfold entered
      rw [hcalm.battleGrounds]
    rw [hcalm.ported, hcalm.counted, hentered]
    omega

end Counting

section Queue

variable {config : Config} {s s' : State}

theorem invitation_of_find_none {guid : Guid} (h : s.queuedPlayers.find? guid = none) :
    s.invitation guid = none := by
  unfold invitation
  rw [h]
  rfl

theorem invitation_of_uninvited {guid : Guid} {info : PlayerQueueInfo}
    (hinfo : s.queuedPlayers.find? guid = some info)
    (h : ∀ ginfo, s.groups.entry info.groupInfo = some ginfo →
      ginfo.isInvitedToBGInstanceGUID = 0) : s.invitation guid = none := by
  unfold invitation
  rw [hinfo, Option.bind_some]
  cases hentry : s.groups.entry info.groupInfo with
  | none => rfl
  | some ginfo => simp [h ginfo hentry]

def FewerGroups (s s' : State) : Prop :=
  ∀ ptr ginfo', s'.groups.entry ptr = some ginfo' →
    ∃ ginfo, s.groups.entry ptr = some ginfo ∧ ginfo'.bgTypeId = ginfo.bgTypeId ∧
      ginfo'.isInvitedToBGInstanceGUID = ginfo.isInvitedToBGInstanceGUID ∧
      ginfo'.groupTeam = ginfo.groupTeam

theorem FewerGroups.invitation (hgroups : FewerGroups s s') {guid : Guid}
    (hplayer : ∀ info', s'.queuedPlayers.find? guid = some info' →
      ∃ info, s.queuedPlayers.find? guid = some info ∧ info.groupInfo = info'.groupInfo) :
    s'.invitation guid = s.invitation guid ∨ s'.invitation guid = none := by
  cases hfind : s'.queuedPlayers.find? guid with
  | none => exact Or.inr (invitation_of_find_none hfind)
  | some info' =>
      obtain ⟨info, hinfo, hptr⟩ := hplayer info' hfind
      unfold State.invitation
      rw [hfind, hinfo, Option.bind_some, Option.bind_some, hptr]
      cases hentry : s'.groups.entry info'.groupInfo with
      | none => exact Or.inr rfl
      | some ginfo' =>
          obtain ⟨ginfo, hginfo, -, hinvited, hteam⟩ := hgroups _ ginfo' hentry
          rw [hginfo, Option.bind_some, Option.bind_some, hinvited, hteam]
          exact Or.inl rfl

theorem FewerGroups.types (hgroups : FewerGroups s s') (ptr : Ptr) (ginfo' : GroupQueueInfo)
    (hentry : s'.groups.entry ptr = some ginfo') : ginfo'.bgTypeId = config.bgTypeId ∨
      ∃ ginfo, s.groups.entry ptr = some ginfo ∧ ginfo'.bgTypeId = ginfo.bgTypeId := by
  obtain ⟨ginfo, hginfo, htype, -⟩ := hgroups ptr ginfo' hentry
  exact Or.inr ⟨ginfo, hginfo, htype⟩

theorem Calm.of_fewer (hbattle : s'.battleGrounds = s.battleGrounds)
    (hcounted : s'.counted = s.counted) (hported : s'.ported = s.ported)
    (hmax : s'.maxInstanceId = s.maxInstanceId)
    (hplayers : ∀ guid info', s'.queuedPlayers.find? guid = some info' →
      ∃ info, s.queuedPlayers.find? guid = some info ∧ info.groupInfo = info'.groupInfo)
    (hgroups : FewerGroups s s') : Calm config s s' :=
  ⟨hbattle, hcounted, hported, hmax, fun guid => hgroups.invitation (hplayers guid),
    hgroups.types⟩

theorem FewerGroups.unlink (s : State) (guid : Guid) (ptr : Ptr) :
    FewerGroups s (s.unlink guid ptr) := by
  intro ptr' ginfo' h
  by_cases hsame : ptr' = ptr
  · subst hsame
    simp only [State.unlink, State.modifyGroup, Heap.modify, Function.update_self] at h
    obtain ⟨ginfo, hginfo, rfl⟩ := Option.map_eq_some_iff.mp h
    exact ⟨ginfo, hginfo, rfl, rfl, rfl⟩
  · rw [unlink_entry_of_ne hsame] at h
    exact ⟨ginfo', h, rfl, rfl, rfl⟩

theorem unlink_find {guid guid' : Guid} {ptr : Ptr} {info' : PlayerQueueInfo}
    (h : (s.unlink guid ptr).queuedPlayers.find? guid' = some info') :
    guid' ≠ guid ∧ s.queuedPlayers.find? guid' = some info' := by
  simp only [State.unlink, State.modifyGroup] at h
  by_cases hsame : guid' = guid
  · subst hsame
    rw [Lib.OrderedMap.find?_erase_self] at h
    cases h
  · rw [Lib.OrderedMap.find?_erase_of_ne _ hsame] at h
    exact ⟨hsame, h⟩

theorem Calm.removePlayer (config : Config) (s : State) (guid : Guid) :
    Calm config s (s.removePlayer guid false) ∧
      (s.removePlayer guid false).queuedPlayers.find? guid = none ∨
    s.removePlayer guid false = s ∧ s.invitation guid = none := by
  simp only [State.removePlayer, Bool.false_eq_true, false_and, if_false]
  split
  · rename_i hfind
    exact Or.inr ⟨rfl, invitation_of_find_none hfind⟩
  · rename_i info hinfo
    split
    · rename_i hentry
      refine Or.inr ⟨rfl, ?_⟩
      unfold State.invitation
      rw [hinfo, Option.bind_some, hentry]
      rfl
    · rename_i group hentry
      have hcalm : Calm config s (s.unlink guid info.groupInfo) :=
        .of_fewer rfl rfl rfl rfl
          (fun guid' info' h => ⟨info', (unlink_find h).2, rfl⟩) (.unlink s guid info.groupInfo)
      have hgone : (s.unlink guid info.groupInfo).queuedPlayers.find? guid = none :=
        Lib.OrderedMap.find?_erase_self ..
      refine Or.inl ?_
      split
      · exact ⟨⟨hcalm.battleGrounds, hcalm.counted, hcalm.ported, hcalm.maxInstanceId,
          hcalm.invitation, hcalm.types⟩, hgone⟩
      · split
        · refine ⟨hcalm.trans (.of_fewer rfl rfl rfl rfl
            (fun guid' info' h => ⟨info', h, rfl⟩) ?_), hgone⟩
          intro ptr ginfo' h
          simp only [State.unlist] at h
          by_cases hsame : ptr = info.groupInfo
          · subst hsame
            rw [Function.update_self] at h
            cases h
          · rw [Function.update_of_ne hsame] at h
            exact ⟨ginfo', h, rfl, rfl, rfl⟩
        · exact ⟨hcalm, hgone⟩

theorem Calm.assign {guid : Guid} {info info' : PlayerQueueInfo}
    (hinfo : s.queuedPlayers.find? guid = some info) (hptr : info'.groupInfo = info.groupInfo) :
    Calm config s { s with queuedPlayers := s.queuedPlayers.assign guid info' } := by
  refine .of_fewer rfl rfl rfl rfl ?_ fun ptr ginfo h => ⟨ginfo, h, rfl, rfl, rfl⟩
  intro guid' found hfound
  by_cases hsame : guid' = guid
  · subst hsame
    rw [Lib.OrderedMap.find?_assign_self] at hfound
    obtain rfl := Option.some.inj hfound
    exact ⟨info, hinfo, hptr.symm⟩
  · rw [Lib.OrderedMap.find?_assign_of_ne _ hsame] at hfound
    exact ⟨found, hfound, rfl⟩

theorem Calm.playerLoggedOut (s : State) (guid : Guid) (now : UInt32) :
    Calm config s (s.playerLoggedOut guid now) := by
  simp only [State.playerLoggedOut]
  split
  · exact Calm.refl config s
  · rename_i info hinfo
    exact Calm.assign hinfo rfl

theorem Calm.playerLoggedIn (s : State) (guid : Guid) : Calm config s (s.playerLoggedIn guid) := by
  simp only [State.playerLoggedIn]
  split
  · exact Calm.refl config s
  · rename_i info hinfo
    exact Calm.assign hinfo rfl

def Uninvited (s : State) (ptr : Ptr) : Prop :=
  ∀ ginfo, s.groups.entry ptr = some ginfo → ginfo.isInvitedToBGInstanceGUID = 0

theorem Calm.allocate (s : State) (leader : Joining) {request : JoinRequest}
    (htype : request.bgTypeId = config.bgTypeId) :
    Calm config s (s.allocate leader request).2 := by
  refine ⟨rfl, rfl, rfl, rfl, ?_, ?_⟩
  · intro guid
    unfold State.invitation
    cases hfind : s.queuedPlayers.find? guid with
    | none => exact Or.inr (by simp only [State.allocate, hfind, Option.bind_none])
    | some info =>
        by_cases hnew : info.groupInfo = s.groups.next
        · refine Or.inr ?_
          simp only [State.allocate, hfind, Option.bind_some, hnew, Function.update_self, if_true]
        · refine Or.inl ?_
          simp only [State.allocate, hfind, Option.bind_some, Function.update_of_ne hnew]
  · intro ptr ginfo' hentry
    by_cases hnew : ptr = s.groups.next
    · subst hnew
      simp only [State.allocate, Function.update_self, Option.some.injEq] at hentry
      rw [← hentry]
      exact Or.inl htype
    · simp only [State.allocate, Function.update_of_ne hnew] at hentry
      exact Or.inr ⟨ginfo', hentry, rfl⟩

theorem Uninvited.allocate {ptr : Ptr} (h : s.Uninvited ptr) (leader : Joining)
    (request : JoinRequest) : (s.allocate leader request).2.Uninvited ptr := by
  intro ginfo hentry
  by_cases hnew : ptr = s.groups.next
  · subst hnew
    simp only [State.allocate, Function.update_self, Option.some.injEq] at hentry
    rw [← hentry]
  · simp only [State.allocate, Function.update_of_ne hnew] at hentry
    exact h ginfo hentry

theorem uninvited_allocate (s : State) (leader : Joining) (request : JoinRequest) :
    (s.allocate leader request).2.Uninvited (s.allocate leader request).1 := by
  intro ginfo hentry
  simp only [State.allocate, Function.update_self, Option.some.injEq] at hentry
  rw [← hentry]

theorem FewerGroups.enqueue (s : State) (ptr : Ptr) (guid : Guid) :
    FewerGroups s (s.enqueue ptr guid) := by
  intro ptr' ginfo' h
  by_cases hsame : ptr' = ptr
  · subst hsame
    simp only [State.enqueue, State.modifyGroup, Heap.modify, Function.update_self] at h
    obtain ⟨ginfo, hginfo, rfl⟩ := Option.map_eq_some_iff.mp h
    exact ⟨ginfo, hginfo, rfl, rfl, rfl⟩
  · simp only [State.enqueue, State.modifyGroup, Heap.modify, Function.update_of_ne hsame] at h
    exact ⟨ginfo', h, rfl, rfl, rfl⟩

theorem Uninvited.enqueue {ptr ptr' : Ptr} (h : s.Uninvited ptr) (guid : Guid) :
    (s.enqueue ptr' guid).Uninvited ptr := by
  intro ginfo' hentry
  obtain ⟨ginfo, hginfo, -, hinvited, -⟩ := FewerGroups.enqueue s ptr' guid ptr ginfo' hentry
  rw [hinvited]
  exact h ginfo hginfo

theorem Calm.enqueue {ptr : Ptr} (h : s.Uninvited ptr) (guid : Guid) :
    Calm config s (s.enqueue ptr guid) := by
  refine ⟨rfl, rfl, rfl, rfl, ?_, (FewerGroups.enqueue s ptr guid).types⟩
  intro guid'
  by_cases hsame : guid' = guid
  · subst hsame
    exact Or.inr (invitation_of_uninvited (Lib.OrderedMap.find?_assign_self ..) (h.enqueue guid'))
  · refine (FewerGroups.enqueue s ptr guid).invitation ?_
    intro info' hinfo'
    rw [enqueue_find?_of_ne s ptr hsame] at hinfo'
    exact ⟨info', hinfo', rfl⟩

theorem Calm.list (s : State) (ptr : Ptr) (kind : Kind) : Calm config s (s.list ptr kind) := by
  simp only [State.list]
  split
  · split
    · exact Calm.refl config s
    · exact .of_fewer rfl rfl rfl rfl (fun guid info h => ⟨info, h, rfl⟩)
        fun ptr ginfo h => ⟨ginfo, h, rfl, rfl, rfl⟩
  · exact Calm.refl config s

theorem Calm.addSolo (s : State) (leader : Joining) {request : JoinRequest}
    (htype : request.bgTypeId = config.bgTypeId) : Calm config s (s.addSolo leader request) :=
  ((Calm.allocate s leader htype).trans
    (Calm.enqueue (uninvited_allocate s leader request) leader.guid)).trans (Calm.list ..)

theorem Uninvited.addSolo {ptr : Ptr} (h : s.Uninvited ptr) (leader : Joining)
    (request : JoinRequest) : (s.addSolo leader request).Uninvited ptr := by
  have hlist : ∀ (s : State) ptr' kind, s.Uninvited ptr → (s.list ptr' kind).Uninvited ptr := by
    intro s ptr' kind hs
    simp only [State.list]
    split
    · split
      · exact hs
      · exact hs
    · exact hs
  exact hlist _ _ _ ((h.allocate leader request).enqueue leader.guid)

theorem Calm.addMembers {groupLimit : Nat} {party : Party} {request : JoinRequest} {ptr : Ptr}
    (htype : request.bgTypeId = config.bgTypeId) (members : List Joining) (h : s.Uninvited ptr) :
    Calm config s (members.foldl (addMember groupLimit party request ptr) s) := by
  induction members generalizing s with
  | nil => exact Calm.refl config s
  | cons member rest ih =>
      have hone : Calm config s (s.addMember groupLimit party request ptr member) ∧
          (s.addMember groupLimit party request ptr member).Uninvited ptr := by
        simp only [State.addMember]
        split
        · exact ⟨Calm.refl config s, h⟩
        · split
          · exact ⟨Calm.addSolo s member htype, h.addSolo member _⟩
          · exact ⟨Calm.enqueue h member.guid, h.enqueue member.guid⟩
      exact hone.1.trans (ih hone.2)

theorem Calm.addGroup (s : State) (groupLimit : Nat) (leader : Joining) (party : Option Party)
    {request : JoinRequest} (htype : request.bgTypeId = config.bgTypeId) :
    Calm config s (s.addGroup groupLimit leader party request) := by
  cases party with
  | none => exact Calm.addSolo s leader htype
  | some party =>
      exact ((Calm.allocate s leader htype).trans
        (Calm.addMembers htype party.members (uninvited_allocate s leader request))).trans
        (Calm.list ..)

end Queue

section Counters

variable {config : Config} {s : State} {gone : Option Guid}

theorem ofNat_pred {n : Nat} (h : 0 < n) : UInt32.ofNat (n - 1) = UInt32.ofNat n - 1 := by
  obtain ⟨m, rfl⟩ := Nat.exists_eq_succ_of_ne_zero h.ne'
  rw [Nat.succ_sub_one, Nat.succ_eq_add_one, UInt32.ofNat_add]
  simp

theorem count_snd_erase {list : List (Guid × UInt32 × Team)} {x : Guid × UInt32 × Team}
    (hx : x ∈ list)
    (place : UInt32 × Team) :
    ((list.erase x).map Prod.snd).count place =
      if place = x.2 then (list.map Prod.snd).count place - 1
      else (list.map Prod.snd).count place := by
  have hperm := ((List.perm_cons_erase hx).map Prod.snd).count_eq place
  rw [List.map_cons, List.count_cons] at hperm
  split
  case isTrue heq =>
    subst heq
    simp only [beq_self_eq_true, if_true] at hperm
    omega
  case isFalse hne =>
    have hbeq : (x.2 == place) = false := beq_eq_false_iff_ne.mpr (Ne.symm hne)
    rw [hbeq] at hperm
    simpa using hperm.symm

theorem Accounted.counters_out (h : s.Accounted config gone) {x : Guid × UInt32 × Team}
    (hx : x ∈ s.counted) {bg bg' : BattleGround} (hbg : bg ∈ s.battleGrounds)
    (hid : bg'.instanceID = bg.instanceID)
    (hcount : ∀ team, bg'.getInvitedCount team = if bg.instanceID = x.2.1 ∧ team = x.2.2 then
      bg.getInvitedCount team - 1 else bg.getInvitedCount team) (team : Team) :
    bg'.getInvitedCount team =
      UInt32.ofNat (((s.counted.erase x).map Prod.snd).count (bg'.instanceID, team)) := by
  rw [hcount, hid, count_snd_erase hx, h.counters bg hbg team]
  unfold countedFor
  by_cases hplace : bg.instanceID = x.2.1 ∧ team = x.2.2
  · have heq : (bg.instanceID, team) = x.2 := Prod.ext hplace.1 hplace.2
    rw [if_pos hplace, if_pos heq]
    refine (ofNat_pred ?_).symm
    rw [heq]
    exact List.count_pos_iff.mpr (List.mem_map_of_mem hx)
  · have hne : (bg.instanceID, team) ≠ x.2 := by
      rintro heq
      exact hplace ⟨congrArg Prod.fst heq, congrArg Prod.snd heq⟩
    rw [if_neg hplace, if_neg hne]

theorem mem_modifyBattleGround {instanceID : UInt32} {bgTypeId : TypeId}
    {f : BattleGround → BattleGround} {bg' : BattleGround} :
    bg' ∈ (s.modifyBattleGround instanceID bgTypeId f).battleGrounds ↔ ∃ bg ∈ s.battleGrounds,
      bg' = if bg.instanceID = instanceID ∧ bg.typeID = bgTypeId then f bg else bg := by
  simp only [State.modifyBattleGround, List.mem_map, eq_comm]

theorem map_ids_modifyBattleGround (s : State) (instanceID : UInt32) (bgTypeId : TypeId)
    {f : BattleGround → BattleGround} (hf : ∀ bg, (f bg).instanceID = bg.instanceID) :
    (s.modifyBattleGround instanceID bgTypeId f).battleGrounds.map (·.instanceID) =
      s.battleGrounds.map (·.instanceID) := by
  simp only [State.modifyBattleGround, List.map_map]
  refine List.map_congr_left ?_
  intro bg _
  simp only [Function.comp]
  split
  · exact hf bg
  · rfl

/-- A change of one battleground that keeps its id and type, counted as it says. -/
theorem Accounted.modify (h : s.Accounted config gone) (instanceID : UInt32)
    {f : BattleGround → BattleGround} (hid : ∀ bg, (f bg).instanceID = bg.instanceID)
    (htype : ∀ bg, (f bg).typeID = bg.typeID) {gone' : Option Guid} {s' : State}
    (hbattle : s'.battleGrounds = (s.modifyBattleGround instanceID config.bgTypeId f).battleGrounds)
    (htypes : ∀ ptr ginfo', s'.groups.entry ptr = some ginfo' → ginfo'.bgTypeId = config.bgTypeId)
    (hmax : s'.maxInstanceId = s.maxInstanceId)
    (hold : ∀ x ∈ s'.counted, x.2.1.toNat ≤ s.maxInstanceId.toNat)
    (hcounters : ∀ bg ∈ s.battleGrounds, ∀ team,
      (if bg.instanceID = instanceID then f bg else bg).getInvitedCount team =
        UInt32.ofNat (s'.countedFor bg.instanceID team))
    (howed : ∀ x, s'.queuedCount gone' x + s'.ported.count x + s'.entered.count x ≤
      s'.counted.count x) : s'.Accounted config gone' := by
  have hsplit : ∀ bg' ∈ s'.battleGrounds, ∃ bg ∈ s.battleGrounds,
      bg' = if bg.instanceID = instanceID then f bg else bg := by
    intro bg' hbg'
    rw [hbattle] at hbg'
    obtain ⟨bg, hbg, rfl⟩ := mem_modifyBattleGround.mp hbg'
    refine ⟨bg, hbg, ?_⟩
    simp only [h.bgTypes bg hbg, and_true]
  refine ⟨htypes, ?_, ?_, ?_, ?_, ?_, howed⟩
  · intro bg' hbg'
    obtain ⟨bg, hbg, rfl⟩ := hsplit bg' hbg'
    split
    · exact (htype bg).trans (h.bgTypes bg hbg)
    · exact h.bgTypes bg hbg
  · rw [hbattle, map_ids_modifyBattleGround s instanceID config.bgTypeId hid]
    exact h.ids
  · intro bg' hbg'
    obtain ⟨bg, hbg, rfl⟩ := hsplit bg' hbg'
    rw [hmax]
    split
    · exact (hid bg).trans_le (h.oldIds bg hbg)
    · exact h.oldIds bg hbg
  · rw [hmax]
    exact hold
  · intro bg' hbg' team
    obtain ⟨bg, hbg, rfl⟩ := hsplit bg' hbg'
    rw [hcounters bg hbg team]
    split
    · rw [hid]
    · rfl

theorem getInvitedCount_decrease (bg : BattleGround) (team team' : Team) :
    (bg.decreaseInvitedCount team).getInvitedCount team' =
      if team' = team then bg.getInvitedCount team' - 1 else bg.getInvitedCount team' := by
  cases team with
  | alliance => cases team' <;> rfl
  | horde => cases team' <;> rfl

theorem decreaseInvitedCount_id (bg : BattleGround) (team : Team) :
    (bg.decreaseInvitedCount team).instanceID = bg.instanceID := by
  cases team <;> rfl

theorem decreaseInvitedCount_type (bg : BattleGround) (team : Team) :
    (bg.decreaseInvitedCount team).typeID = bg.typeID := by
  cases team <;> rfl

theorem decreaseInvitedCount_players (bg : BattleGround) (team : Team) :
    (bg.decreaseInvitedCount team).players = bg.players := by
  cases team <;> rfl

theorem entered_of_same {f : BattleGround → BattleGround}
    (hid : ∀ bg, (f bg).instanceID = bg.instanceID) (hplayers : ∀ bg, (f bg).players = bg.players)
    (instanceID : UInt32) (bgTypeId : TypeId) :
    (s.modifyBattleGround instanceID bgTypeId f).entered = s.entered := by
  simp only [State.entered, State.modifyBattleGround, List.flatMap_map]
  refine congrArg List.flatten (List.map_congr_left ?_)
  intro bg _
  split
  · rw [hid, hplayers]
  · rfl

theorem Accounted.counted_of_invitation (h : s.Accounted config none) {guid : Guid}
    {place : UInt32 × Team} (hinvited : s.invitation guid = some place) :
    (guid, place) ∈ s.counted := by
  have howed := h.owed (guid, place)
  have hone : s.queuedCount none (guid, place) = 1 := if_pos ⟨hinvited, by simp⟩
  exact List.count_pos_iff.mp (by omega)

theorem queuedCount_le (s : State) {guid : Guid} (x : Guid × UInt32 × Team) :
    s.queuedCount (some guid) x ≤ s.queuedCount none x := by
  unfold queuedCount
  split
  case isTrue hinvited => rw [if_pos ⟨hinvited.1, by simp⟩]
  case isFalse => exact Nat.zero_le _

theorem queuedCount_self (s : State) (x : Guid × UInt32 × Team) : s.queuedCount (some x.1) x = 0 :=
  if_neg fun h => h.2 rfl

theorem Accounted.decreaseInvited (h : s.Accounted config none) {guid : Guid}
    {group : GroupQueueInfo} (htype : group.bgTypeId = config.bgTypeId)
    (hinvited : s.invitation guid = some (group.isInvitedToBGInstanceGUID, group.groupTeam)) :
    (s.decreaseInvited guid group).Accounted config (some guid) := by
  have hmem := h.counted_of_invitation hinvited
  have hbattle : (s.decreaseInvited guid group).battleGrounds =
      (s.modifyBattleGround group.isInvitedToBGInstanceGUID config.bgTypeId
        (·.decreaseInvitedCount group.groupTeam)).battleGrounds := by
    rw [← htype]
    rfl
  refine h.modify group.isInvitedToBGInstanceGUID (fun bg => decreaseInvitedCount_id bg _)
    (fun bg => decreaseInvitedCount_type bg _) hbattle h.types rfl
    (fun x hx => h.oldCounted x (List.mem_of_mem_erase hx)) ?_ ?_
  · intro bg hbg team
    let bg' := if bg.instanceID = group.isInvitedToBGInstanceGUID then
      bg.decreaseInvitedCount group.groupTeam else bg
    have hid : bg'.instanceID = bg.instanceID := by
      simp only [bg']
      split
      · exact decreaseInvitedCount_id bg _
      · rfl
    have hout := h.counters_out hmem hbg hid ?_ team
    · rw [hid] at hout
      exact hout
    · intro team'
      simp only [bg']
      by_cases hhere : bg.instanceID = group.isInvitedToBGInstanceGUID
      · simp only [hhere, if_true, true_and]
        exact getInvitedCount_decrease bg group.groupTeam team'
      · simp only [hhere, if_false, false_and]
  · intro x
    have howed := h.owed x
    have hentered : (s.decreaseInvited guid group).entered = s.entered :=
      entered_of_same (s := s) (fun bg => decreaseInvitedCount_id bg group.groupTeam)
        (fun bg => decreaseInvitedCount_players bg group.groupTeam) _ _
    rw [hentered]
    change (s.decreaseInvited guid group).queuedCount (some guid) x + s.ported.count x +
      s.entered.count x ≤
      (s.counted.erase (guid, group.isInvitedToBGInstanceGUID, group.groupTeam)).count x
    have hle : (s.decreaseInvited guid group).queuedCount (some guid) x ≤ s.queuedCount none x :=
      queuedCount_le s x
    by_cases hx : x = (guid, group.isInvitedToBGInstanceGUID, group.groupTeam)
    · subst hx
      have hzero := queuedCount_self (s.decreaseInvited guid group)
        (guid, group.isInvitedToBGInstanceGUID, group.groupTeam)
      have hone : s.queuedCount none (guid, group.isInvitedToBGInstanceGUID, group.groupTeam) = 1 :=
        if_pos ⟨hinvited, by simp⟩
      rw [List.count_erase_self]
      simp only at hzero
      omega
    · rw [List.count_erase_of_ne hx]
      omega

/-- RemovePlayer counts out only players that were counted. -/
theorem Accounted.removePlayer (h : s.Accounted config none) (guid : Guid) (decrease : Bool) :
    (s.removePlayer guid decrease).Accounted config none := by
  have hquiet : ∀ {s : State} {gone : Option Guid}, s.Accounted config gone →
      (∀ guid', gone = some guid' → guid' = guid) →
      (s.removePlayer guid false).Accounted config none := by
    intro s gone hs hgone
    obtain ⟨hcalm, hfind⟩ | ⟨hsame, hnone⟩ := Calm.removePlayer config s guid
    · refine hs.calm hcalm ?_
      intro guid' hguid'
      rw [hgone guid' hguid']
      exact invitation_of_find_none hfind
    · rw [hsame]
      refine hs.calm (Calm.refl config s) ?_
      intro guid' hguid'
      rw [hgone guid' hguid']
      exact hnone
  cases decrease with
  | false => exact hquiet h (fun guid' hguid' => nomatch hguid')
  | true =>
      cases hfind : s.queuedPlayers.find? guid with
      | none =>
          simp only [State.removePlayer, hfind]
          exact h
      | some info =>
          cases hentry : s.groups.entry info.groupInfo with
          | none =>
              simp only [State.removePlayer, hfind, hentry]
              exact h
          | some group =>
              by_cases hinvited : group.isInvitedToBGInstanceGUID = 0
              · have heq : s.removePlayer guid true = s.removePlayer guid false := by
                  simp only [State.removePlayer, hfind, hentry, hinvited, ne_eq, not_true_eq_false,
                    and_false, if_false]
                rw [heq]
                exact hquiet h (fun guid' hguid' => nomatch hguid')
              · have heq : s.removePlayer guid true =
                    (s.decreaseInvited guid group).removePlayer guid false := by
                  have hfind' : (s.decreaseInvited guid group).queuedPlayers.find? guid =
                      some info := hfind
                  have hentry' : (s.decreaseInvited guid group).groups.entry info.groupInfo =
                      some group := hentry
                  simp only [State.removePlayer, hfind, hentry, hfind', hentry', hinvited, ne_eq,
                    not_false_eq_true, and_true, Bool.false_eq_true, if_true, if_false]
                  rfl
                rw [heq]
                have hplace : s.invitation guid =
                    some (group.isInvitedToBGInstanceGUID, group.groupTeam) := by
                  unfold State.invitation
                  rw [hfind, Option.bind_some, hentry, Option.bind_some, if_neg hinvited]
                exact hquiet (h.decreaseInvited (h.types _ group hentry) hplace)
                  (fun guid' hguid' => (Option.some.inj hguid').symm)

end Counters

section Inside

variable {config : Config} {s : State}

theorem getBattleGround_mem {instanceID : UInt32} {bgTypeId : TypeId} {bg : BattleGround}
    (h : s.getBattleGround instanceID bgTypeId = some bg) :
    bg ∈ s.battleGrounds ∧ bg.instanceID = instanceID ∧ bg.typeID = bgTypeId := by
  have hfound := List.find?_some h
  simp only [Bool.and_eq_true, beq_iff_eq] at hfound
  exact ⟨List.mem_of_find?_eq_some h, hfound⟩

def inside (bg : BattleGround) : List (Guid × UInt32 × Team) :=
  bg.players.map fun entry => (entry.1, bg.instanceID, entry.2)

theorem count_entered_modify (hids : (s.battleGrounds.map (·.instanceID)).Nodup)
    {instanceID : UInt32} {bgTypeId : TypeId} {bg : BattleGround}
    (h : s.getBattleGround instanceID bgTypeId = some bg) (f : BattleGround → BattleGround)
    (x : Guid × UInt32 × Team) :
    (s.modifyBattleGround instanceID bgTypeId f).entered.count x + (inside bg).count x =
      s.entered.count x + (inside (f bg)).count x := by
  obtain ⟨hmem, hid, htype⟩ := getBattleGround_mem h
  obtain ⟨before, after, hlist⟩ := List.append_of_mem hmem
  rw [hlist, List.map_append, List.map_cons] at hids
  have hother : ∀ other, other ∈ before ∨ other ∈ after → other.instanceID ≠ instanceID := by
    intro other hother heq
    have hnot := (List.nodup_middle.mp hids)
    refine (List.nodup_cons.mp hnot).1 ?_
    rw [← List.map_append, List.mem_map]
    exact ⟨other, List.mem_append.mpr hother, heq.trans hid.symm⟩
  have hkeep : ∀ list : List BattleGround, (∀ other ∈ list, other.instanceID ≠ instanceID) →
      list.map (fun bg => if bg.instanceID = instanceID ∧ bg.typeID = bgTypeId then f bg else bg) =
        list := by
    intro list hlist
    refine (List.map_congr_left ?_).trans (List.map_id list)
    intro other hmem
    exact if_neg fun hsame => hlist other hmem hsame.1
  have hafter : (s.modifyBattleGround instanceID bgTypeId f).battleGrounds =
      before ++ f bg :: after := by
    simp only [State.modifyBattleGround, hlist, List.map_append, List.map_cons, hid, htype,
      and_self, if_true]
    rw [hkeep before fun other hmem => hother other (Or.inl hmem),
      hkeep after fun other hmem => hother other (Or.inr hmem)]
  have hcount : ∀ t : State, ∀ middle, t.battleGrounds = before ++ middle :: after →
      t.entered.count x = (before.flatMap inside).count x + (inside middle).count x +
        (after.flatMap inside).count x := by
    intro t middle ht
    have hentered : t.entered = (before ++ middle :: after).flatMap inside := by
      unfold State.entered
      rw [ht]
      rfl
    rw [hentered, List.flatMap_append, List.flatMap_cons, List.count_append, List.count_append]
    omega
  rw [hcount _ _ hafter, hcount s bg hlist]
  omega

/-- Leaving counts out a player who was inside, hence counted. -/
theorem Accounted.removePlayerAtLeave (h : s.Accounted config none) (guid : Guid)
    (instanceID : UInt32) :
    (s.removePlayerAtLeave config guid instanceID).Accounted config none := by
  simp only [State.removePlayerAtLeave]
  split
  · exact h
  · rename_i bg hbg
    split
    · exact h
    · rename_i entry hentry
      obtain ⟨hmem, hid, -⟩ := getBattleGround_mem hbg
      have hplayer : entry ∈ bg.players := List.mem_of_find?_eq_some hentry
      have hguid : entry.1 = guid := by simpa using List.find?_some hentry
      let f (bg : BattleGround) : BattleGround :=
        { bg with players := bg.players.erase entry }.decreaseInvitedCount entry.2
      have hfid : ∀ bg, (f bg).instanceID = bg.instanceID := fun bg => decreaseInvitedCount_id ..
      have hinside : (guid, instanceID, entry.2) ∈ inside bg := by
        rw [← hguid, ← hid]
        exact List.mem_map_of_mem hplayer
      have hfinside : ∀ x, (inside (f bg)).count x =
          ((inside bg).erase (guid, instanceID, entry.2)).count x := by
        intro x
        have hperm := ((List.perm_cons_erase hplayer).map
          fun entry => (entry.1, bg.instanceID, entry.2)).count_eq x
        have hf : inside (f bg) =
            (bg.players.erase entry).map fun entry => (entry.1, bg.instanceID, entry.2) := by
          unfold inside
          rw [hfid]
          simp only [f, decreaseInvitedCount_players]
        have hperm' := (List.perm_cons_erase hinside).count_eq x
        rw [List.count_cons] at hperm'
        rw [List.map_cons, List.count_cons, ← hf, hguid, hid] at hperm
        have hinside' : inside bg =
            bg.players.map fun entry => (entry.1, bg.instanceID, entry.2) := rfl
        rw [hinside'] at hperm' ⊢
        rw [hid] at hperm' ⊢
        omega
      have hentered := count_entered_modify h.ids hbg f
      have hcounted : (guid, instanceID, entry.2) ∈ s.counted := by
        have howed := h.owed (guid, instanceID, entry.2)
        have hpos : 0 < s.entered.count (guid, instanceID, entry.2) := by
          refine List.count_pos_iff.mpr (List.mem_flatMap.mpr ⟨bg, hmem, ?_⟩)
          exact hinside
        exact List.count_pos_iff.mp (by omega)
      refine h.modify instanceID (f := f) hfid (fun bg => decreaseInvitedCount_type ..) rfl h.types
        rfl (fun x hx => h.oldCounted x (List.mem_of_mem_erase hx)) ?_ ?_
      · intro bg' hbg' team
        have hid' : (if bg'.instanceID = instanceID then f bg' else bg').instanceID =
            bg'.instanceID := by
          split
          · exact hfid bg'
          · rfl
        have hout := h.counters_out hcounted hbg' hid' ?_ team
        · rw [hid'] at hout
          exact hout
        · intro team'
          by_cases hhere : bg'.instanceID = instanceID
          · simp only [hhere, if_true, true_and]
            exact getInvitedCount_decrease _ entry.2 team'
          · simp only [hhere, if_false, false_and]
      · intro x
        have howed := h.owed x
        have hcount := hentered x
        rw [hfinside] at hcount
        change s.queuedCount none x + s.ported.count x +
          (s.modifyBattleGround instanceID config.bgTypeId f).entered.count x ≤
          (s.counted.erase (guid, instanceID, entry.2)).count x
        by_cases hx : x = (guid, instanceID, entry.2)
        · subst hx
          have hpos := List.count_pos_iff.mpr hinside
          rw [List.count_erase_self] at hcount ⊢
          omega
        · rw [List.count_erase_of_ne hx] at hcount ⊢
          omega

/-- Arriving changes nothing but where the player is. -/
theorem Accounted.addPlayer (h : s.Accounted config none) (guid : Guid) (instanceID : UInt32) :
    (s.addPlayer config guid instanceID).Accounted config none := by
  simp only [State.addPlayer]
  split
  · exact h
  · rename_i entry hentry
    split
    · exact h
    · rename_i bg hbg
      obtain ⟨hmem, hid, -⟩ := getBattleGround_mem hbg
      have hported : entry ∈ s.ported := List.mem_of_find?_eq_some hentry
      have hfound := List.find?_some hentry
      simp only [Bool.and_eq_true, beq_iff_eq] at hfound
      let f (bg : BattleGround) : BattleGround :=
        { bg with players := bg.players.filter (·.1 != guid) ++ [(guid, entry.2.2)] }
      have hfinside : ∀ x, (inside (f bg)).count x ≤
          (inside bg).count x + (if entry = x then 1 else 0) := by
        intro x
        have hsub : (inside { bg with players := bg.players.filter (·.1 != guid) }).Sublist
            (inside bg) := List.filter_sublist.map _
        have hf : inside (f bg) =
            inside { bg with players := bg.players.filter (·.1 != guid) } ++ [entry] := by
          simp only [inside, f, List.map_append, List.map_cons, List.map_nil]
          rw [← hfound.1, hid, ← hfound.2]
        rw [hf, List.count_append, List.count_singleton]
        have hle := hsub.count_le x
        simp only [beq_iff_eq]
        omega
      have hentered := count_entered_modify h.ids hbg f
      refine h.modify instanceID (f := f) (fun _ => rfl) (fun _ => rfl) rfl h.types rfl
        h.oldCounted ?_ ?_
      · intro bg' hbg' team
        have hcount : (if bg'.instanceID = instanceID then f bg' else bg').getInvitedCount team =
            bg'.getInvitedCount team := by
          split
          · cases team <;> rfl
          · rfl
        rw [hcount]
        exact h.counters bg' hbg' team
      · intro x
        have howed := h.owed x
        have hcount := hentered x
        have hle := hfinside x
        change s.queuedCount none x + (s.ported.erase entry).count x +
          (s.modifyBattleGround instanceID config.bgTypeId f).entered.count x ≤ s.counted.count x
        by_cases hx : entry = x
        · subst hx
          have hpos := List.count_pos_iff.mpr hported
          rw [List.count_erase_self]
          simp only [if_true] at hle
          omega
        · rw [List.count_erase_of_ne (Ne.symm hx)]
          rw [if_neg hx] at hle
          omega

theorem Accounted.endBattleGround (h : s.Accounted config none) (instanceID : UInt32) :
    (s.endBattleGround config instanceID).Accounted config none := by
  let f (bg : BattleGround) : BattleGround := { bg with status := .waitLeave }
  have hentered : (s.endBattleGround config instanceID).entered = s.entered :=
    entered_of_same (s := s) (f := f) (fun _ => rfl) (fun _ => rfl) _ _
  refine h.modify instanceID (f := f) (fun _ => rfl) (fun _ => rfl) rfl h.types rfl h.oldCounted
    ?_ ?_
  · intro bg hbg team
    have hcount : (if bg.instanceID = instanceID then f bg else bg).getInvitedCount team =
        bg.getInvitedCount team := by
      split
      · cases team <;> rfl
      · rfl
    rw [hcount]
    exact h.counters bg hbg team
  · intro x
    rw [hentered]
    exact h.owed x

theorem Accounted.removeBattleGround (h : s.Accounted config none) (instanceID : UInt32) :
    (s.removeBattleGround instanceID).Accounted config none := by
  have hsub : (s.removeBattleGround instanceID).battleGrounds.Sublist s.battleGrounds :=
    List.filter_sublist
  refine ⟨h.types, fun bg hbg => h.bgTypes bg (hsub.subset hbg), h.ids.sublist (hsub.map _),
    fun bg hbg => h.oldIds bg (hsub.subset hbg), h.oldCounted,
    fun bg hbg => h.counters bg (hsub.subset hbg), ?_⟩
  intro x
  have hentered : (s.removeBattleGround instanceID).entered.Sublist s.entered := hsub.flatMap _
  have howed := h.owed x
  have hle := hentered.count_le x
  change s.queuedCount none x + s.ported.count x +
    (s.removeBattleGround instanceID).entered.count x ≤ s.counted.count x
  omega

theorem Accounted.startNewBattleGround (h : s.Accounted config none) (bracket : Bracket)
    (template : Template) (otherInstances : Nat)
    (hroom : s.maxInstanceId.toNat + otherInstances + 1 < 2 ^ 32) :
    (s.startNewBattleGround config bracket template otherInstances).Accounted config none := by
  let s' := s.startNewBattleGround config bracket template otherInstances
  let bg := createNewBattleGround config
    { s with maxInstanceId := s.maxInstanceId + UInt32.ofNat otherInstances + 1 } bracket template
  have hbattle : s'.battleGrounds = s.battleGrounds ++ [bg] := rfl
  have hmax : s'.maxInstanceId.toNat = s.maxInstanceId.toNat + otherInstances + 1 := by
    change (s.maxInstanceId + UInt32.ofNat otherInstances + 1).toNat = _
    simp only [UInt32.toNat_add, UInt32.toNat_ofNat', UInt32.toNat_one]
    omega
  have hnew : bg.instanceID.toNat = s.maxInstanceId.toNat + otherInstances + 1 := hmax
  have hgrows : s.maxInstanceId.toNat ≤ s'.maxInstanceId.toNat := by omega
  have hcases : ∀ bg' ∈ s'.battleGrounds, bg' ∈ s.battleGrounds ∨ bg' = bg := by
    intro bg' hbg'
    rw [hbattle] at hbg'
    simpa using hbg'
  refine ⟨h.types, ?_, ?_, ?_, ?_, ?_, ?_⟩
  · intro bg' hbg'
    rcases hcases bg' hbg' with hold | rfl
    · exact h.bgTypes bg' hold
    · rfl
  · change (s'.battleGrounds.map (·.instanceID)).Nodup
    rw [hbattle, List.map_append, List.map_cons, List.map_nil]
    refine (List.perm_append_singleton _ _).nodup_iff.mpr (List.nodup_cons.mpr ⟨?_, h.ids⟩)
    intro hmem
    obtain ⟨bg', hbg', hid⟩ := List.mem_map.mp hmem
    have hold := h.oldIds bg' hbg'
    rw [hid] at hold
    omega
  · intro bg' hbg'
    rcases hcases bg' hbg' with hold | rfl
    · exact (h.oldIds bg' hold).trans hgrows
    · exact le_rfl
  · intro x hx
    exact (h.oldCounted x hx).trans hgrows
  · intro bg' hbg' team
    rcases hcases bg' hbg' with hold | rfl
    · exact h.counters bg' hold team
    · have hnobody : s.countedFor bg.instanceID team = 0 := by
        refine List.count_eq_zero_of_not_mem ?_
        intro hmem
        obtain ⟨x, hx, hplace⟩ := List.mem_map.mp hmem
        have hle := h.oldCounted x hx
        have hid : x.2.1 = bg.instanceID := congrArg Prod.fst hplace
        rw [hid] at hle
        omega
      change bg.getInvitedCount team = UInt32.ofNat (s.countedFor bg.instanceID team)
      rw [hnobody]
      cases team <;> rfl
  · intro x
    have hentered : s'.entered = s.entered := by
      unfold State.entered
      rw [hbattle, List.flatMap_append]
      simp [bg, createNewBattleGround]
    change s.queuedCount none x + s.ported.count x + s'.entered.count x ≤ s.counted.count x
    rw [hentered]
    exact h.owed x

end Inside

section Inviting

variable {config : Config} {s : State}

/-- Writing back a battleground that was changed by `f` changes it by `f`. -/
theorem putBattleGround_eq (hids : (s.battleGrounds.map (·.instanceID)).Nodup) {instanceID : UInt32}
    {bgTypeId : TypeId} {bg : BattleGround} (h : s.getBattleGround instanceID bgTypeId = some bg)
    {f : BattleGround → BattleGround} (hid : (f bg).instanceID = bg.instanceID)
    (htype : (f bg).typeID = bg.typeID) {s' : State}
    (hbattle : s'.battleGrounds = s.battleGrounds) :
    (s'.putBattleGround (f bg)).battleGrounds =
      (s.modifyBattleGround instanceID bgTypeId f).battleGrounds := by
  obtain ⟨hmem, hbgid, hbgtype⟩ := getBattleGround_mem h
  simp only [State.putBattleGround, State.modifyBattleGround, hbattle, hid, htype, hbgid, hbgtype]
  refine List.map_congr_left ?_
  intro other hother
  split
  case isTrue hsame =>
    rw [List.inj_on_of_nodup_map hids hother hmem (hsame.1.trans hbgid.symm)]
  case isFalse => rfl

def increaseBy (team : Team) (list : List Guid) (bg : BattleGround) : BattleGround :=
  list.foldl (fun bg _ => bg.increaseInvitedCount team) bg

theorem increaseBy_same (team : Team) (list : List Guid) (bg : BattleGround) :
    (increaseBy team list bg).instanceID = bg.instanceID ∧
      (increaseBy team list bg).typeID = bg.typeID ∧
      (increaseBy team list bg).players = bg.players := by
  induction list generalizing bg with
  | nil => exact ⟨rfl, rfl, rfl⟩
  | cons guid rest ih =>
      obtain ⟨hid, htype, hplayers⟩ := ih (bg.increaseInvitedCount team)
      have hone : (bg.increaseInvitedCount team).instanceID = bg.instanceID ∧
          (bg.increaseInvitedCount team).typeID = bg.typeID ∧
          (bg.increaseInvitedCount team).players = bg.players := by
        cases team <;> exact ⟨rfl, rfl, rfl⟩
      exact ⟨hid.trans hone.1, htype.trans hone.2.1, hplayers.trans hone.2.2⟩

theorem markInvited_entry_self {now : UInt32} {ptr : Ptr} {bg : BattleGround}
    {ginfo : GroupQueueInfo} (hentry : s.groups.entry ptr = some ginfo) :
    (s.markInvited now ptr bg).groups.entry ptr = some
      { ginfo with
        isInvitedToBGInstanceGUID := bg.instanceID
        removeInviteTime := now + inviteAcceptWaitTime } := by
  simp only [State.markInvited, State.modifyGroup, Heap.modify, Function.update_self, hentry,
    Option.map_some]

theorem markInvited_entry_of_ne {now : UInt32} {ptr ptr' : Ptr} {bg : BattleGround}
    (hne : ptr' ≠ ptr) :
    (s.markInvited now ptr bg).groups.entry ptr' = s.groups.entry ptr' := by
  simp only [State.markInvited, State.modifyGroup, Heap.modify, Function.update_of_ne hne]

theorem queuedCount_markInvited (hlinked : s.Linked none) {ptr : Ptr} {ginfo : GroupQueueInfo}
    (hentry : s.groups.entry ptr = some ginfo) (now : UInt32) (bg : BattleGround)
    (x : Guid × UInt32 × Team) :
    (s.markInvited now ptr bg).queuedCount none x ≤ s.queuedCount none x +
      (ginfo.players.map fun guid => (guid, bg.instanceID, ginfo.groupTeam)).count x := by
  by_cases hplayer : x.1 ∈ ginfo.players
  · obtain ⟨info, hinfo, hptr⟩ := (hlinked.linked ptr ginfo hentry x.1).mp hplayer
    by_cases hplace : x.2 = (bg.instanceID, ginfo.groupTeam)
    · have hmem : x ∈ ginfo.players.map fun guid => (guid, bg.instanceID, ginfo.groupTeam) :=
        List.mem_map.mpr ⟨x.1, hplayer, Prod.ext rfl hplace.symm⟩
      have hpos := List.count_pos_iff.mpr hmem
      have hle : (s.markInvited now ptr bg).queuedCount none x ≤ 1 := by
        unfold queuedCount
        split
        · exact le_rfl
        · exact Nat.zero_le 1
      omega
    · have hzero : (s.markInvited now ptr bg).queuedCount none x = 0 := by
        refine if_neg ?_
        rintro ⟨hinvited, -⟩
        unfold State.invitation at hinvited
        rw [show (s.markInvited now ptr bg).queuedPlayers.find? x.1 = some info from hinfo,
          Option.bind_some, hptr, markInvited_entry_self hentry, Option.bind_some] at hinvited
        split at hinvited
        · cases hinvited
        · exact hplace (Option.some.inj hinvited).symm
      omega
  · have hsame : (s.markInvited now ptr bg).invitation x.1 = s.invitation x.1 := by
      unfold State.invitation
      change (s.queuedPlayers.find? x.1).bind _ = _
      cases hfind : s.queuedPlayers.find? x.1 with
      | none => rfl
      | some info =>
          have hne : info.groupInfo ≠ ptr := by
            intro heq
            exact hplayer ((hlinked.linked ptr ginfo hentry x.1).mpr ⟨info, hfind, heq⟩)
          rw [Option.bind_some, Option.bind_some, markInvited_entry_of_ne hne]
    have heq : (s.markInvited now ptr bg).queuedCount none x = s.queuedCount none x := by
      unfold queuedCount
      rw [hsame]
    omega

theorem countedFor_append (players : List Guid) (instanceID : UInt32) (team : Team) (id : UInt32)
    (team' : Team) :
    ((s.counted ++ players.map fun guid => (guid, instanceID, team)).map Prod.snd).count
    (id, team') =
      s.countedFor id team' + if id = instanceID ∧ team' = team then players.length else 0 := by
  have hconst : (players.map fun guid => (guid, instanceID, team)).map Prod.snd =
      List.replicate players.length (instanceID, team) := by
    rw [List.map_map]
    exact List.map_const' ..
  rw [List.map_append, List.count_append, hconst, List.count_replicate]
  by_cases hplace : id = instanceID ∧ team' = team
  · obtain ⟨rfl, rfl⟩ := hplace
    simp [State.countedFor]
  · have hne : (instanceID, team) ≠ (id, team') := by
      intro heq
      exact hplace ⟨(congrArg Prod.fst heq).symm, (congrArg Prod.snd heq).symm⟩
    rw [if_neg hplace, if_neg (by simpa using hne)]
    rfl

theorem Accounted.invited (h : s.Accounted config none) (hlinked : s.Linked none)
    {instanceID : UInt32} {bg : BattleGround} {ptr : Ptr} {ginfo : GroupQueueInfo} {now : UInt32}
    (hbg : s.getBattleGround instanceID config.bgTypeId = some bg)
    (hentry : s.groups.entry ptr = some ginfo) {s' : State}
    (hbattle : s'.battleGrounds = (s.modifyBattleGround instanceID config.bgTypeId
      (increaseBy ginfo.groupTeam ginfo.players)).battleGrounds)
    (hgroups : s'.groups = (s.markInvited now ptr bg).groups)
    (hplayers : s'.queuedPlayers = s.queuedPlayers) (hported : s'.ported = s.ported)
    (hmax : s'.maxInstanceId = s.maxInstanceId)
    (hcounted : s'.counted = s.counted ++
      ginfo.players.map fun guid => (guid, bg.instanceID, ginfo.groupTeam)) :
    s'.Accounted config none := by
  obtain ⟨hmem, hid, -⟩ := getBattleGround_mem hbg
  have hf := increaseBy_same ginfo.groupTeam ginfo.players
  refine h.modify instanceID (fun bg => (hf bg).1) (fun bg => (hf bg).2.1) hbattle ?_ hmax ?_ ?_ ?_
  · intro ptr' ginfo' hentry'
    rw [hgroups] at hentry'
    by_cases hsame : ptr' = ptr
    · subst hsame
      rw [markInvited_entry_self hentry] at hentry'
      rw [← Option.some.inj hentry']
      exact h.types ptr' ginfo hentry
    · rw [markInvited_entry_of_ne hsame] at hentry'
      exact h.types ptr' ginfo' hentry'
  · intro x hx
    rw [hcounted] at hx
    rcases List.mem_append.mp hx with hx | hx
    · exact h.oldCounted x hx
    · obtain ⟨guid, -, rfl⟩ := List.mem_map.mp hx
      exact h.oldIds bg hmem
  · intro bg' hbg' team
    have hold := h.counters bg' hbg' team
    unfold State.countedFor
    rw [hcounted, countedFor_append, hid]
    by_cases hhere : bg'.instanceID = instanceID
    · rw [if_pos hhere, increaseBy, getInvitedCount_increases, hold, ← UInt32.ofNat_add]
      simp only [hhere, true_and]
    · rw [if_neg hhere, if_neg fun hplace => hhere hplace.1, hold, Nat.add_zero]
  · intro x
    have howed := h.owed x
    have hmarked := queuedCount_markInvited hlinked hentry now bg x
    have hqueued : s'.queuedCount none x = (s.markInvited now ptr bg).queuedCount none x := by
      unfold queuedCount State.invitation
      rw [hgroups, hplayers]
      rfl
    have hentered : s'.entered = s.entered := by
      refine Eq.trans ?_ (entered_of_same (fun bg => (hf bg).1) (fun bg => (hf bg).2.2) instanceID
        config.bgTypeId)
      unfold State.entered
      rw [hbattle]
    rw [hqueued, hported, hentered, hcounted, List.count_append]
    omega

theorem Accounted.inviteGroup (h : s.Accounted config none) (hlinked : s.Linked none)
    {find : Guid → Option PlayerState} {now : UInt32} {ptr : Ptr} {instanceID : UInt32}
    (hskip : s.SkipsNobody config (.invite ptr instanceID find now)) :
    (s.inviteGroup config find now ptr instanceID).Accounted config none := by
  cases hbg : s.getBattleGround instanceID config.bgTypeId with
  | none =>
      simp only [State.inviteGroup, hbg]
      exact h
  | some bg =>
      obtain ⟨hmem, hid, htype⟩ := getBattleGround_mem hbg
      have hquiet : (s.putBattleGround bg).Accounted config none := by
        have hsame : (s.putBattleGround bg).battleGrounds = s.battleGrounds := by
          refine (putBattleGround_eq h.ids hbg (f := id) rfl rfl rfl).trans ?_
          simp only [State.modifyBattleGround, id, ite_self, List.map_id']
        refine h.calm ⟨hsame, rfl, rfl, rfl, fun _ => Or.inl rfl, ?_⟩ (fun _ hgone => nomatch hgone)
        exact fun ptr ginfo hentry => Or.inr ⟨ginfo, hentry, rfl⟩
      cases hentry : s.groups.entry ptr with
      | none =>
          simp only [State.inviteGroup, hbg, State.inviteGroupToBG, hentry]
          exact hquiet
      | some ginfo =>
          by_cases hinvited : ginfo.isInvitedToBGInstanceGUID = 0
          · have hall : ginfo.players.filter (isInvitable find) = ginfo.players :=
              List.filter_eq_self.mpr
                (hskip (by rw [hbg]; rfl) ginfo hentry hinvited)
            simp only [State.inviteGroup, hbg, State.inviteGroupToBG, hentry, hinvited,
              if_true, hall]
            exact h.invited hlinked hbg hentry (putBattleGround_eq h.ids hbg
              (increaseBy_same ..).1 (increaseBy_same ..).2.1 rfl) rfl rfl rfl rfl rfl
          · simp only [State.inviteGroup, hbg, State.inviteGroupToBG, hentry, hinvited, if_false]
            exact hquiet

end Inviting

section Porting

variable {config : Config} {s : State}

theorem removePlayer_withPorted (s : State) (guid : Guid) (ported : List (Guid × UInt32 × Team)) :
    State.removePlayer { s with ported := ported } guid false =
      { s.removePlayer guid false with ported := ported } := by
  simp only [State.removePlayer, Bool.false_eq_true, false_and, if_false]
  cases s.queuedPlayers.find? guid with
  | none => rfl
  | some info =>
      cases hentry : s.groups.entry info.groupInfo with
      | none => simp only [hentry]
      | some group =>
          simp only [hentry]
          cases hplace : s.findGroup info.groupInfo group.groupTeam with
          | none =>
              have hplace' : State.findGroup { s with ported := ported } info.groupInfo
                  group.groupTeam = none := hplace
              simp only [hplace']
              rfl
          | some place =>
              have hplace' : State.findGroup { s with ported := ported } info.groupInfo
                  group.groupTeam = some place := hplace
              simp only [hplace']
              split
              · rfl
              · rfl

theorem removePlayerAtLeave_withPorted (config : Config) (s : State) (guid : Guid)
    (instanceID : UInt32)
    (ported : List (Guid × UInt32 × Team)) :
    State.removePlayerAtLeave config { s with ported := ported } guid instanceID =
      { s.removePlayerAtLeave config guid instanceID with ported := ported } := by
  cases hbg : s.getBattleGround instanceID config.bgTypeId with
  | none =>
      have hbg' : State.getBattleGround { s with ported := ported } instanceID config.bgTypeId =
          none := hbg
      simp only [State.removePlayerAtLeave, hbg, hbg']
  | some bg =>
      have hbg' : State.getBattleGround { s with ported := ported } instanceID config.bgTypeId =
          some bg := hbg
      simp only [State.removePlayerAtLeave, hbg, hbg']
      split
      · rfl
      · rfl

/-- A queued player of an invited group may be on his way instead. -/
theorem Accounted.port (h : s.Accounted config none) {guid : Guid} {place : UInt32 × Team}
    (hinvited : s.invitation guid = some place) :
    State.Accounted config (some guid) { s with ported := (guid, place) :: s.ported } := by
  refine ⟨h.types, h.bgTypes, h.ids, h.oldIds, h.oldCounted, h.counters, ?_⟩
  intro x
  have howed := h.owed x
  change s.queuedCount (some guid) x + ((guid, place) :: s.ported).count x + s.entered.count x ≤
    s.counted.count x
  rw [List.count_cons]
  by_cases hx : x = (guid, place)
  · subst hx
    have hone : s.queuedCount none (guid, place) = 1 := if_pos ⟨hinvited, by simp⟩
    have hzero := queuedCount_self s (guid, place)
    simp only [beq_self_eq_true, if_true]
    simp only at hzero
    omega
  · have hle : s.queuedCount (some guid) x ≤ s.queuedCount none x := queuedCount_le s x
    rw [beq_false_of_ne (Ne.symm hx)]
    simp only [Bool.false_eq_true, if_false]
    omega

theorem Accounted.enter (h : s.Accounted config none) {guid : Guid} {ginfo : GroupQueueInfo}
    (hinvited : s.invitation guid = some (ginfo.isInvitedToBGInstanceGUID, ginfo.groupTeam))
    (current : Option UInt32) : (s.enter config guid ginfo current).Accounted config none := by
  let ported := (guid, ginfo.isInvitedToBGInstanceGUID, ginfo.groupTeam) :: s.ported
  have hremoved :
    State.Accounted config none { s.removePlayer guid false with ported := ported } := by
    rw [← removePlayer_withPorted s guid ported]
    have hported := h.port hinvited
    obtain ⟨hcalm, hfind⟩ | ⟨hsame, hnone⟩ :=
      Calm.removePlayer config { s with ported := ported } guid
    · exact hported.calm hcalm fun guid' hguid' =>
        Option.some.inj hguid' ▸ invitation_of_find_none hfind
    · exact absurd (hinvited.symm.trans hnone) (by simp)
  have hsame : (s.removePlayer guid false).ported = s.ported := by
    have hported : s.removePlayer guid false =
        { s.removePlayer guid false with ported := s.ported } :=
      removePlayer_withPorted s guid s.ported
    exact congrArg (fun t => t.ported) hported
  cases current with
  | none =>
      simp only [State.enter, hsame]
      exact hremoved
  | some instanceID =>
      have hleft := hremoved.removePlayerAtLeave guid instanceID
      rw [removePlayerAtLeave_withPorted] at hleft
      have hsame' :
        ((s.removePlayer guid false).removePlayerAtLeave config guid instanceID).ported =
          s.ported := by
        have hported : (s.removePlayer guid false).removePlayerAtLeave config guid instanceID =
            { (s.removePlayer guid false).removePlayerAtLeave config guid instanceID with
              ported := (s.removePlayer guid false).ported } :=
          removePlayerAtLeave_withPorted config (s.removePlayer guid false) guid instanceID
            (s.removePlayer guid false).ported
        exact (congrArg (fun t => t.ported) hported).trans hsame
      simp only [State.enter, hsame']
      exact hleft

theorem Accounted.handleBattleFieldPort (h : s.Accounted config none) (guid : Guid)
    (player : PortState) : (s.handleBattleFieldPort config guid player).Accounted config none := by
  cases hfind : s.queuedPlayers.find? guid with
  | none =>
      simp only [State.handleBattleFieldPort, hfind]
      exact h
  | some info =>
      cases hentry : s.groups.entry info.groupInfo with
      | none =>
          simp only [State.handleBattleFieldPort, hfind, hentry]
          exact h
      | some ginfo =>
          simp only [State.handleBattleFieldPort, hfind, hentry]
          split
          · exact h
          · split
            · exact h.removePlayer guid true
            · split
              · exact h
              · rename_i hinvited
                split
                · exact h
                · split
                  · exact h
                  · split
                    · exact h.removePlayer guid true
                    · split
                      · refine h.enter ?_ _
                        unfold State.invitation
                        rw [hfind, Option.bind_some, hentry, Option.bind_some, if_neg hinvited]
                      · exact h

theorem Accounted.purge (h : s.Accounted config none) (now : UInt32) (fuel : Nat) :
    (s.purge now fuel).Accounted config none := by
  induction fuel generalizing s with
  | zero => exact h
  | succ fuel ih =>
      simp only [State.purge]
      split
      · exact ih (h.removePlayer _ true)
      · exact h

theorem Accounted.battleStep (h : s.Accounted config none) (hlinked : s.Linked none)
    {event : BattleEvent} (hskip : s.SkipsNobody config event) :
    (s.battleStep config event).Accounted config none := by
  have hcalm : ∀ {s' : State}, Calm config s s' → s'.Accounted config none :=
    fun hcalm => h.calm hcalm fun _ hgone => nomatch hgone
  cases event with
  | addGroup leader party request => exact hcalm (Calm.addGroup s _ leader party hskip.2)
  | start bracket template otherInstances =>
      exact h.startNewBattleGround bracket template otherInstances hskip
  | invite ptr instanceID find now => exact h.inviteGroup hlinked hskip
  | removePlayer guid => exact h.removePlayer guid true
  | purge now => exact h.purge now _
  | expire guid bgInstanceGuid removeTime found =>
      simp only [State.battleStep, State.processQueueInviteRemoval]
      split
      · exact h.removePlayer guid true
      · exact h
  | port guid player => exact h.handleBattleFieldPort guid player
  | arrive guid instanceID => exact h.addPlayer guid instanceID
  | leave guid instanceID => exact h.removePlayerAtLeave guid instanceID
  | loggedOut guid now => exact hcalm (Calm.playerLoggedOut s guid now)
  | loggedIn guid => exact hcalm (Calm.playerLoggedIn s guid)
  | finish instanceID => exact h.endBattleGround instanceID
  | delete instanceID => exact h.removeBattleGround instanceID

end Porting

section Links

variable (config : Config) {s : State}

theorem Linked.of_rest (h : s.Linked none) {s' : State} (hgroups : s'.groups = s.groups)
    (hplayers : s'.queuedPlayers = s.queuedPlayers) (hlists : s'.queuedGroups = s.queuedGroups) :
    s'.Linked none := by
  have hsame : SameLinks s s' :=
    ⟨by rw [hgroups], fun guid => by rw [hplayers], hlists, fun ptr => by rw [hgroups]⟩
  exact hsame.linked h

theorem Linked.removePlayerAtLeave (h : s.Linked none) (guid : Guid)
    (instanceID : UInt32) : (s.removePlayerAtLeave config guid instanceID).Linked none := by
  simp only [State.removePlayerAtLeave]
  split
  · exact h
  · split
    · exact h
    · exact h.of_rest rfl rfl rfl

theorem Linked.enter (h : s.Linked none) (guid : Guid) (ginfo : GroupQueueInfo)
    (current : Option UInt32) : (s.enter config guid ginfo current).Linked none := by
  have hremoved := (Keeps.removePlayer s guid false).linked h
  cases current with
  | none => exact hremoved.of_rest rfl rfl rfl
  | some instanceID =>
      exact (hremoved.removePlayerAtLeave config guid instanceID).of_rest rfl rfl rfl

theorem Linked.handleBattleFieldPort (h : s.Linked none) (guid : Guid)
    (player : PortState) : (s.handleBattleFieldPort config guid player).Linked none := by
  have hremoved := (Keeps.removePlayer s guid true).linked h
  simp only [State.handleBattleFieldPort]
  split
  · exact h
  · split
    · exact h
    · split
      · exact h
      · split
        · exact hremoved
        · split
          · exact h
          · split
            · exact h
            · split
              · exact h
              · split
                · exact hremoved
                · split
                  · exact h.enter config guid _ _
                  · exact h

theorem Linked.battleStep (h : s.Linked none) {event : BattleEvent}
    (hskip : s.SkipsNobody config event) : (s.battleStep config event).Linked none := by
  cases event with
  | addGroup leader party request => exact h.addGroup config.groupLimit hskip.1
  | start bracket template otherInstances => exact h.of_rest rfl rfl rfl
  | invite ptr instanceID find now =>
      simp only [State.battleStep, State.inviteGroup]
      split
      · exact h
      · rename_i bg _
        have hinvited := (Keeps.inviteGroupToBG
          { now := now, find := find } s ptr bg).linked h
        exact hinvited.of_rest rfl rfl rfl
  | removePlayer guid => exact (Keeps.removePlayer s guid true).linked h
  | purge now => exact (Keeps.purge now _ s).linked h
  | expire guid bgInstanceGuid removeTime found =>
      simp only [State.battleStep, State.processQueueInviteRemoval]
      split
      · exact (Keeps.removePlayer s guid true).linked h
      · exact h
  | port guid player => exact h.handleBattleFieldPort config guid player
  | arrive guid instanceID =>
      simp only [State.battleStep, State.addPlayer]
      split
      · exact h
      · split
        · exact h
        · exact h.of_rest rfl rfl rfl
  | leave guid instanceID => exact h.removePlayerAtLeave config guid instanceID
  | loggedOut guid now => exact (Keeps.playerLoggedOut s guid now).linked h
  | loggedIn guid => exact (Keeps.playerLoggedIn s guid).linked h
  | finish instanceID => exact h.of_rest rfl rfl rfl
  | delete instanceID => exact h.of_rest rfl rfl rfl

end Links

theorem accounted_empty (config : Config) : ({} : State).Accounted config none := by
  refine ⟨?_, ?_, List.nodup_nil, ?_, ?_, ?_, fun _ => le_rfl⟩
  · intro ptr ginfo hentry
    cases hentry
  · intro bg hbg
    cases hbg
  · intro bg hbg
    cases hbg
  · intro x hx
    cases hx
  · intro bg hbg
    cases hbg

/-- In every run whose invitations skip nobody, each counter is the number of players
counted and neither removed nor left, and whoever can still be removed or leave was
counted, so that no counter is lowered for another. -/
theorem invited_in_every_state (config : Config) {events : List BattleEvent}
    (h : Lib.Along (battleStep config) (SkipsNobody config) {} events) :
    ∀ before, before <+: events →
      let s := battleRun config {} before
      (∀ bg ∈ s.battleGrounds, ∀ team,
        bg.getInvitedCount team = UInt32.ofNat (s.countedFor bg.instanceID team)) ∧
      (∀ guid place, s.invitation guid = some place → (guid, place) ∈ s.counted) ∧
      (∀ bg ∈ s.battleGrounds, ∀ entry ∈ bg.players,
        (entry.1, bg.instanceID, entry.2) ∈ s.counted) := by
  intro before hbefore s
  have hs : s.Linked none ∧ s.Accounted config none := by
    refine Lib.run_invariant_upto (I := fun s => s.Linked none ∧ s.Accounted config none)
      ?_ ⟨linked_empty, accounted_empty config⟩ h hbefore
    intro s event hs hskip
    exact ⟨hs.1.battleStep config hskip, hs.2.battleStep hs.1 hskip⟩
  refine ⟨hs.2.counters, fun guid place => hs.2.counted_of_invitation, ?_⟩
  intro bg hbg entry hentry
  have howed := hs.2.owed (entry.1, bg.instanceID, entry.2)
  have hpos : 0 < s.entered.count (entry.1, bg.instanceID, entry.2) := by
    refine List.count_pos_iff.mpr (List.mem_flatMap.mpr ⟨bg, hbg, ?_⟩)
    exact List.mem_map.mpr ⟨entry, hentry, rfl⟩
  exact List.count_pos_iff.mp (by omega)

/-- One player is invited, enters and leaves. -/
theorem invited_after_leaving :
    let config : Config :=
      { bgTypeId := .ws, template := none, premadeQueueGroupMinSize := 6,
        premadeGroupWaitForMatch := 0, invitationType := 0 }
    let s := battleRun config {}
      [.addGroup ⟨1, .alliance⟩ none
        { bgTypeId := .ws, bracketId := 4, isPremade := false, instanceId := 0, now := 0 },
       .start 4 ⟨1, 10, 20⟩ 0, .invite 0 1 (fun _ => some {}) 5, .port 1 { action := true },
       .arrive 1 1, .leave 1 1]
    ∀ bg ∈ s.battleGrounds, ∀ team,
      bg.getInvitedCount team = UInt32.ofNat (s.countedFor bg.instanceID team) := by
  intro config s
  refine (invited_in_every_state config ?_ _ (List.prefix_refl _)).1
  refine ⟨⟨fun _ _ => rfl, rfl⟩, ?_, ?_, trivial, trivial, trivial, trivial⟩
  · change 0 + 0 + 1 < 2 ^ 32
    decide
  intro _ ginfo hentry hinvited guid _
  rfl

/-- Two players queue as a group and one is offline at the invitation. Both leave the
queue: the first is counted out though he never was counted in, and the counter
goes below zero. -/
theorem invited_below_zero :
    let config : Config :=
      { bgTypeId := .ws, template := none, premadeQueueGroupMinSize := 6,
        premadeGroupWaitForMatch := 0, invitationType := 0 }
    let party : Party :=
      { members := [⟨1, .alliance⟩, ⟨2, .alliance⟩], membersCount := 2, distinct := by decide }
    let s := battleRun config {}
      [.addGroup ⟨1, .alliance⟩ (some party)
        { bgTypeId := .ws, bracketId := 4, isPremade := false, instanceId := 0, now := 0 },
       .start 4 ⟨1, 10, 20⟩ 0, .invite 0 1 (fun guid => if guid = 1 then some {} else none) 5,
       .removePlayer 2, .removePlayer 1]
    s.battleGrounds.map (·.getInvitedCount .alliance) = [4294967295] ∧
      s.countedFor 1 .alliance = 0 := by
  decide +kernel

end State

end TortoiseWow.Battleground
