import TortoiseWow.Group.Roster

/-!
What holds of a group after any calls: a raid's counters count its members, no subgroup and
no group is overfull, and the leader is a member. A member who is currently in another group
is counted out of the subgroup that his original reference names, so that reference has to
be that of his slot.
-/

namespace TortoiseWow.Groups

def inSubgroup (members : List MemberSlot) (subgroup : Nat) : Nat :=
  members.countP (·.group.toNat = subgroup)

def Counts (counts : SubGroupsCounts) (members : List MemberSlot) : Prop :=
  ∀ subgroup < maxRaidSubgroups, (count counts subgroup).toNat = inSubgroup members subgroup

structure Counted (g : Group) : Prop where
  counted : g.groupType = .raid → ∃ counts, g.subGroupsCounts = some counts ∧
    Counts counts g.members
  fits : ∀ subgroup, inSubgroup g.members subgroup ≤ maxGroupSize
  size : g.members.length ≤ if g.groupType = .raid then maxRaidSize else maxGroupSize
  numbered : ∀ m ∈ g.members, m.group.toNat < maxRaidSubgroups

structure Sound (g : Group) : Prop extends Counted g where
  led : ∃ m ∈ g.members, m.guid = g.leaderGuid

section Counters

variable (counts : SubGroupsCounts) {subgroup : Nat}

theorem count_set (n value : UInt8) (h : subgroup < maxRaidSubgroups) :
    count (counts.setIfInBounds n.toNat value) subgroup =
      if n.toNat = subgroup then value else count counts subgroup := by
  simp only [count, Vector.getElem?_setIfInBounds]
  split
  · rename_i hsame
    rw [if_pos (hsame ▸ h), Option.getD_some]
  · rfl

theorem count_increase (n : UInt8) (h : subgroup < maxRaidSubgroups) :
    count (subGroupCounterIncrease counts n) subgroup =
      if n.toNat = subgroup then count counts subgroup + 1 else count counts subgroup := by
  rw [subGroupCounterIncrease, count_set _ _ _ h]
  split
  · rename_i hsame
    rw [hsame]
  · rfl

theorem count_decrease (n : UInt8) (h : subgroup < maxRaidSubgroups) :
    count (subGroupCounterDecrease counts n) subgroup =
      if n.toNat = subgroup then count counts subgroup - 1 else count counts subgroup := by
  rw [subGroupCounterDecrease, count_set _ _ _ h]
  split
  · rename_i hsame
    rw [hsame]
  · rfl

end Counters

section Slots

theorem inSubgroup_cons (m : MemberSlot) (members : List MemberSlot) (subgroup : Nat) :
    inSubgroup (m :: members) subgroup =
      inSubgroup members subgroup + if m.group.toNat = subgroup then 1 else 0 := by
  simp [inSubgroup, List.countP_cons]

theorem inSubgroup_append (members rest : List MemberSlot) (subgroup : Nat) :
    inSubgroup (members ++ rest) subgroup =
      inSubgroup members subgroup + inSubgroup rest subgroup := by
  simp [inSubgroup, List.countP_append]

theorem inSubgroup_le_length (members : List MemberSlot) (subgroup : Nat) :
    inSubgroup members subgroup ≤ members.length := List.countP_le_length

theorem slot_split {guid : UInt64} {members : List MemberSlot} {slot : MemberSlot}
    (h : members.find? (·.guid = guid) = some slot) :
    slot.guid = guid ∧ ∃ before after, members = before ++ slot :: after ∧
      (∀ f, changeSlot guid f members = before ++ f slot :: after) ∧
      members.eraseP (·.guid = guid) = before ++ after := by
  induction members with
  | nil => exact nomatch h
  | cons m members ih =>
      rw [List.find?_cons] at h
      by_cases hsame : m.guid = guid
      · simp only [hsame, decide_true] at h
        cases Option.some.inj h
        refine ⟨hsame, [], members, rfl, fun f => if_pos hsame, ?_⟩
        exact List.eraseP_cons_of_pos (by simpa using hsame)
      · simp only [hsame, decide_false] at h
        obtain ⟨hslot, before, after, hmembers, hchange, herase⟩ := ih h
        refine ⟨hslot, m :: before, after, by rw [hmembers, List.cons_append], fun f => ?_, ?_⟩
        · rw [changeSlot, if_neg hsame, hchange, List.cons_append]
        · rw [List.eraseP_cons_of_neg (by simpa using hsame), herase, List.cons_append]

theorem map_changeSlot {α : Type} (φ : MemberSlot → α) {f : MemberSlot → MemberSlot}
    (h : ∀ m, φ (f m) = φ m) (guid : UInt64) (members : List MemberSlot) :
    (changeSlot guid f members).map φ = members.map φ := by
  induction members with
  | nil => rfl
  | cons m members ih =>
      simp only [changeSlot]
      split
      · rw [List.map_cons, List.map_cons, h]
      · rw [List.map_cons, List.map_cons, ih]

theorem find?_changeSlot {guid other : UInt64} (hne : other ≠ guid) {f : MemberSlot → MemberSlot}
    (hf : ∀ m, (f m).guid = m.guid) (members : List MemberSlot) :
    (changeSlot guid f members).find? (·.guid = other) = members.find? (·.guid = other) := by
  induction members with
  | nil => rfl
  | cons m members ih =>
      simp only [changeSlot]
      split
      · rename_i hsame
        have hfound : ¬ m.guid = other := fun hother => hne (hother.symm.trans hsame)
        rw [List.find?_cons_of_neg (by simpa [hf] using hfound),
          List.find?_cons_of_neg (by simpa using hfound)]
      · rw [List.find?_cons, List.find?_cons, ih]

theorem swapSlots_perm {g g' : Group} {guid swapGuid : UInt64} (hne : guid ≠ swapGuid)
    (h : g.swapSlots guid swapGuid = some g') :
    (g'.members.map (·.group)).Perm (g.members.map (·.group)) := by
  simp only [Group.swapSlots] at h
  split at h
  · rename_i slot swapSlot hslot hswap
    cases Option.some.inj h
    obtain ⟨-, before, after, hmembers, hchange, -⟩ := slot_split hswap
    have hfound := (find?_changeSlot (f := fun m => { m with group := slot.group }) hne
      (fun _ => rfl) g.members).trans hslot
    obtain ⟨-, before', after', hmembers', hchange', -⟩ := slot_split hfound
    have hsplit : ∀ (before after : List MemberSlot) (m : MemberSlot),
        ((before ++ m :: after).map (·.group)).Perm
          (m.group :: (before ++ after).map (·.group)) := by
      intro before after m
      exact List.perm_middle.map _
    have hrest : ((before' ++ after').map (·.group)).Perm ((before ++ after).map (·.group)) := by
      have hboth : before ++ { swapSlot with group := slot.group } :: after =
          before' ++ slot :: after' := (hchange _).symm.trans hmembers'
      have hsame := (hsplit before' after' slot).symm
      rw [← hboth] at hsame
      exact (hsame.trans (hsplit before after _)).cons_inv
    simp only [hchange']
    rw [hmembers]
    exact (hsplit before' after' _).trans ((hrest.cons _).trans (hsplit before after swapSlot).symm)
  · exact nomatch h

theorem memberGroup_of_slot {g : Group} {guid : UInt64} {slot : MemberSlot}
    (h : g.slot? guid = some slot) : g.memberGroup guid = slot.group := by
  simp only [Group.memberGroup, h]

end Slots

section Counting

variable {counts : SubGroupsCounts} {members : List MemberSlot}

theorem toNat_add_one {n : UInt8} (h : n.toNat < 255) : (n + 1).toNat = n.toNat + 1 := by
  rw [UInt8.toNat_add]
  exact Nat.mod_eq_of_lt (Nat.succ_lt_succ h)

theorem toNat_sub_one {n : UInt8} (h : 0 < n.toNat) : (n - 1).toNat = n.toNat - 1 :=
  UInt8.toNat_sub_of_le n 1 (UInt8.le_iff_toNat_le.mpr h)

theorem Counts.push (h : Counts counts members) {m : MemberSlot}
    (hroom : inSubgroup members m.group.toNat < 255) :
    Counts (subGroupCounterIncrease counts m.group) (members ++ [m]) := by
  intro subgroup hbound
  have hown := h subgroup hbound
  rw [count_increase _ _ hbound, inSubgroup_append, inSubgroup_cons]
  split
  · rename_i hsame
    rw [toNat_add_one (by rw [hown, ← hsame]; exact hroom), hown]
    rfl
  · rw [hown]
    rfl

theorem Counts.init (hsize : members.length ≤ 255) :
    Counts (initRaidSubGroupsCounter members) members := by
  have hfold : ∀ rest before counts, Counts counts before → before.length + rest.length ≤ 255 →
      Counts (rest.foldl (fun counts m => subGroupCounterIncrease counts m.group) counts)
        (before ++ rest) := by
    intro rest
    induction rest with
    | nil => intro before counts h _; rwa [List.append_nil]
    | cons m rest ih =>
        intro before counts h hlength
        rw [List.length_cons] at hlength
        have hroom : inSubgroup before m.group.toNat < 255 := by
          have hle := inSubgroup_le_length before m.group.toNat
          omega
        have hnext := ih (before ++ [m]) _ (h.push hroom) (by rw [List.length_append]; simp; omega)
        rwa [List.append_assoc] at hnext
  refine hfold members [] _ ?_ (by simpa using hsize)
  intro subgroup hbound
  simp only [count, inSubgroup, List.countP_nil]
  rw [Vector.getElem?_eq_getElem hbound, Vector.getElem_replicate]
  rfl

variable {before after : List MemberSlot} {slot : MemberSlot}

theorem inSubgroup_split (before after : List MemberSlot) (slot : MemberSlot) (subgroup : Nat) :
    inSubgroup (before ++ slot :: after) subgroup =
      inSubgroup (before ++ after) subgroup + if slot.group.toNat = subgroup then 1 else 0 := by
  rw [inSubgroup_append, inSubgroup_cons, inSubgroup_append, Nat.add_assoc]

theorem Counts.erase (h : Counts counts (before ++ slot :: after)) :
    Counts (subGroupCounterDecrease counts slot.group) (before ++ after) := by
  intro subgroup hbound
  have hown := h subgroup hbound
  rw [inSubgroup_split] at hown
  rw [count_decrease _ _ hbound]
  split
  · rename_i hsame
    rw [if_pos hsame] at hown
    rw [toNat_sub_one (by omega), hown, Nat.add_sub_cancel]
  · rename_i hne
    rw [if_neg hne] at hown
    exact hown

theorem Counts.move (h : Counts counts (before ++ slot :: after)) {group : UInt8}
    (hroom : inSubgroup (before ++ slot :: after) group.toNat < 255) :
    Counts (subGroupCounterDecrease (subGroupCounterIncrease counts group) slot.group)
      (before ++ { slot with group := group } :: after) := by
  intro subgroup hbound
  have hown := h subgroup hbound
  have hsplit := inSubgroup_split before after slot subgroup
  have hincrease : (count (subGroupCounterIncrease counts group) subgroup).toNat =
      inSubgroup (before ++ slot :: after) subgroup +
        if group.toNat = subgroup then 1 else 0 := by
    rw [count_increase _ _ hbound]
    split
    · rename_i hsame
      rw [toNat_add_one (by rw [hown, ← hsame]; exact hroom), hown]
    · exact hown
  have hmoved : inSubgroup (before ++ { slot with group := group } :: after) subgroup =
      inSubgroup (before ++ after) subgroup + if group.toNat = subgroup then 1 else 0 :=
    inSubgroup_split before after _ subgroup
  rw [hmoved, count_decrease _ _ hbound]
  split
  · rename_i hsame
    rw [if_pos hsame] at hsplit
    rw [toNat_sub_one (by omega), hincrease, hsplit]
    omega
  · rename_i hne
    rw [if_neg hne] at hsplit
    rw [hincrease, hsplit]
    omega

end Counting

section Changes

variable {g : Group}

theorem inSubgroup_lt_of_room (h : Counted g) (hraid : g.groupType = .raid) {group : UInt8}
    (hbound : group.toNat < maxRaidSubgroups) (hroom : g.isSubGroupFull group = false) :
    inSubgroup g.members group.toNat < maxGroupSize := by
  obtain ⟨counts, hcounts, hcounted⟩ := h.counted hraid
  simp only [Group.isSubGroupFull, hcounts, decide_eq_false_iff_not] at hroom
  rw [← hcounted _ hbound]
  exact Nat.lt_of_not_le hroom

theorem Counted.push (h : Counted g) (hfull : g.isFull = false) {m : MemberSlot}
    (hbound : m.group.toNat < maxRaidSubgroups) (hroom : g.isSubGroupFull m.group = false) :
    Counted { g with
      members := g.members ++ [m]
      subGroupsCounts := g.subGroupsCounts.map (subGroupCounterIncrease · m.group) } := by
  have hsize : (g.members ++ [m]).length ≤
      if g.groupType = .raid then maxRaidSize else maxGroupSize := by
    simp only [Group.isFull] at hfull
    rw [List.length_append, List.length_singleton]
    cases htype : g.groupType with
    | normal =>
        rw [htype] at hfull
        exact Nat.lt_of_not_le (of_decide_eq_false hfull)
    | raid =>
        rw [htype] at hfull
        exact Nat.lt_of_not_le (of_decide_eq_false hfull)
  refine { counted := ?_, fits := ?_, size := hsize, numbered := ?_ }
  · intro hraid
    obtain ⟨counts, hcounts, hcounted⟩ := h.counted hraid
    have hlt := inSubgroup_lt_of_room h hraid hbound hroom
    refine ⟨_, congrArg (Option.map _) hcounts, hcounted.push ?_⟩
    exact hlt.trans (by decide)
  · intro subgroup
    cases htype : g.groupType with
    | normal =>
        rw [htype] at hsize
        exact (inSubgroup_le_length _ _).trans hsize
    | raid =>
        have hlt := inSubgroup_lt_of_room h htype hbound hroom
        have hfits := h.fits subgroup
        change inSubgroup (g.members ++ [m]) subgroup ≤ maxGroupSize
        rw [inSubgroup_append, inSubgroup_cons]
        split
        · rename_i hsame
          rw [hsame] at hlt
          exact hlt
        · exact hfits
  · intro other hother
    cases List.mem_append.mp hother with
    | inl hold => exact h.numbered other hold
    | inr hnew => exact List.mem_singleton.mp hnew ▸ hbound

variable {guid : UInt64} {slot : MemberSlot}

/-- A member's slot taken out. -/
theorem Counted.eraseSlot (h : Counted g) (guid : UInt64) : Counted (g.eraseSlot guid) := by
  simp only [Group.eraseSlot]
  split
  · exact h
  · rename_i slot hslot
    obtain ⟨-, before, after, hmembers, -, herase⟩ := slot_split hslot
    refine { counted := ?_, fits := ?_, size := ?_, numbered := ?_ }
    · intro hraid
      obtain ⟨counts, hcounts, hcounted⟩ := h.counted hraid
      rw [hmembers] at hcounted
      refine ⟨_, congrArg (Option.map _) hcounts, ?_⟩
      simp only [herase]
      exact hcounted.erase
    · intro subgroup
      have hfits := h.fits subgroup
      rw [hmembers, inSubgroup_split] at hfits
      simp only [herase]
      omega
    · exact List.length_eraseP_le.trans h.size
    · intro m hm
      exact h.numbered m (List.mem_of_mem_eraseP hm)

theorem eraseSlot_members (g : Group) (guid : UInt64) :
    (g.eraseSlot guid).members = g.members.eraseP (·.guid = guid) := by
  simp only [Group.eraseSlot]
  split
  · rename_i hslot
    exact (List.eraseP_of_forall_not (List.find?_eq_none.mp hslot)).symm
  · rfl

theorem eraseSlot_frame (g : Group) (guid : UInt64) :
    (g.eraseSlot guid).leaderGuid = g.leaderGuid ∧
      (g.eraseSlot guid).membersMinCount = g.membersMinCount := by
  simp only [Group.eraseSlot]
  split
  · exact ⟨rfl, rfl⟩
  · exact ⟨rfl, rfl⟩

theorem Counted.move (h : Counted g) (hraid : g.groupType = .raid)
    (hslot : g.slot? guid = some slot) {group : UInt8} (hbound : group.toNat < maxRaidSubgroups)
    (hroom : g.isSubGroupFull group = false) :
    Counted { g with
      members := changeSlot guid (fun m => { m with group := group }) g.members
      subGroupsCounts := (g.subGroupsCounts.map (subGroupCounterIncrease · group)).map
        (subGroupCounterDecrease · slot.group) } := by
  obtain ⟨-, before, after, hmembers, hchange, -⟩ := slot_split hslot
  have hlt := inSubgroup_lt_of_room h hraid hbound hroom
  rw [hmembers] at hlt
  refine { counted := ?_, fits := ?_, size := ?_, numbered := ?_ }
  · intro _
    obtain ⟨counts, hcounts, hcounted⟩ := h.counted hraid
    rw [hmembers] at hcounted
    refine ⟨_, congrArg (fun counts => Option.map (subGroupCounterDecrease · slot.group)
      (Option.map (subGroupCounterIncrease · group) counts)) hcounts, ?_⟩
    simp only [hchange]
    exact hcounted.move (hlt.trans (by decide))
  · intro subgroup
    have hfits := h.fits subgroup
    rw [hmembers, inSubgroup_split] at hfits
    rw [inSubgroup_split] at hlt
    simp only [hchange]
    rw [inSubgroup_split]
    by_cases hsame : group.toNat = subgroup
    · rw [hsame] at hlt
      simp only [hsame, if_true]
      omega
    · simp only [hsame, if_false]
      omega
  · have hsize := h.size
    rw [hmembers, List.length_append, List.length_cons] at hsize
    simp only [hchange]
    rw [List.length_append, List.length_cons]
    exact hsize
  · intro m hm
    simp only [hchange] at hm
    cases List.mem_append.mp hm with
    | inl hbefore => exact h.numbered m (hmembers ▸ List.mem_append_left _ hbefore)
    | inr hrest =>
        cases List.mem_cons.mp hrest with
        | inl hsame => exact hsame ▸ hbound
        | inr hafter =>
            exact h.numbered m (hmembers ▸ List.mem_append_right _ (List.mem_cons_of_mem _ hafter))

theorem Counted.of_groups_perm {g' : Group} (h : Counted g) (htype : g'.groupType = g.groupType)
    (hcounts : g'.subGroupsCounts = g.subGroupsCounts)
    (hperm : (g'.members.map (·.group)).Perm (g.members.map (·.group))) : Counted g' := by
  have hin : ∀ subgroup, inSubgroup g'.members subgroup = inSubgroup g.members subgroup := by
    intro subgroup
    have hcount : ∀ members : List MemberSlot, inSubgroup members subgroup =
        (members.map (·.group)).countP fun group => group.toNat = subgroup := by
      intro members
      rw [List.countP_map]
      rfl
    rw [hcount, hcount]
    exact hperm.countP_eq _
  refine { counted := ?_, fits := ?_, size := ?_, numbered := ?_ }
  · intro hraid
    obtain ⟨counts, hsome, hcounted⟩ := h.counted (htype ▸ hraid)
    exact ⟨counts, hcounts.trans hsome,
      fun subgroup hbound => (hcounted subgroup hbound).trans (hin subgroup).symm⟩
  · intro subgroup
    exact (hin subgroup).trans_le (h.fits subgroup)
  · have hlength := hperm.length_eq
    rw [List.length_map, List.length_map] at hlength
    rw [hlength, htype]
    exact h.size
  · intro m hm
    obtain ⟨other, hother, hsame⟩ := List.mem_map.mp (hperm.mem_iff.mp (List.mem_map_of_mem hm))
    exact hsame ▸ h.numbered other hother

end Changes

section Steps

variable {w : World}

@[simp] theorem withPlayer_group (w : World) (guid : UInt64) (f : Player → Player) :
    (w.withPlayer guid f).group = w.group := by
  simp only [World.withPlayer]
  split
  · rfl
  · rfl

theorem freeSubGroup_eq_some {counts : SubGroupsCounts} {n : Nat}
    (h : World.freeSubGroup counts = some n) :
    n < maxRaidSubgroups ∧ (count counts n).toNat < maxGroupSize := by
  have hmem := List.mem_of_find?_eq_some h
  have hfound := List.find?_some h
  exact ⟨List.mem_range.mp hmem, of_decide_eq_true hfound⟩

theorem addMember_cases (w : World) (guid : UInt64) :
    w.addMember guid = (false, w) ∨ w.group.isFull = false ∧ ∃ group : UInt8,
      group.toNat < maxRaidSubgroups ∧ w.group.isSubGroupFull group = false ∧
        (w.addMember guid).2.group = { w.group with
          members := w.group.members ++ [⟨guid, group, false⟩]
          subGroupsCounts := w.group.subGroupsCounts.map (subGroupCounterIncrease · group) } := by
  have hto : ∀ group, w.addMemberTo guid false group = (false, w) ∨ w.group.isFull = false ∧
      (w.addMemberTo guid false group).2.group = { w.group with
        members := w.group.members ++ [⟨guid, group, false⟩]
        subGroupsCounts := w.group.subGroupsCounts.map (subGroupCounterIncrease · group) } := by
    intro group
    simp only [World.addMemberTo]
    split
    · exact Or.inl rfl
    · rename_i hfull
      split
      · exact Or.inl rfl
      · exact Or.inr ⟨Bool.eq_false_iff.mpr hfull, withPlayer_group ..⟩
  simp only [World.addMember]
  split
  · rename_i hcounts
    refine (hto 0).imp_right fun h => ⟨h.1, 0, by decide, ?_, h.2⟩
    simp only [Group.isSubGroupFull, hcounts]
  · rename_i counts hcounts
    split
    · exact Or.inl rfl
    · rename_i n hfree
      obtain ⟨hbound, hroom⟩ := freeSubGroup_eq_some hfree
      have htoNat : (UInt8.ofNat n).toNat = n := by
        rw [UInt8.toNat_ofNat']
        exact Nat.mod_eq_of_lt (hbound.trans (by decide))
      refine (hto (UInt8.ofNat n)).imp_right fun h => ⟨h.1, UInt8.ofNat n, ?_, ?_, h.2⟩
      · rw [htoNat]
        exact hbound
      · simp only [Group.isSubGroupFull, hcounts, htoNat]
        exact decide_eq_false (Nat.not_le_of_lt hroom)

theorem Sound.addMember (h : Sound w.group) (guid : UInt64) :
    Sound (w.addMember guid).2.group := by
  cases addMember_cases w guid with
  | inl hsame => rwa [hsame]
  | inr hadd =>
      obtain ⟨hfull, group, hbound, hroom, hgroup⟩ := hadd
      rw [hgroup]
      refine
        { toCounted := h.toCounted.push (m := ⟨guid, group, false⟩) hfull hbound hroom, led := ?_ }
      obtain ⟨m, hm, hleader⟩ := h.led
      exact ⟨m, List.mem_append_left _ hm, hleader⟩

theorem sound_create (hempty : w.group.members = []) (guid : UInt64) :
    (w.create guid).2.group.members = [] ∨ Sound (w.create guid).2.group := by
  simp only [World.create]
  generalize hw : World.mk _ w.players = created
  have hmembers : created.group.members = [] := hw ▸ hempty
  have hleader : created.group.leaderGuid = guid := by rw [← hw]
  have hcounted : Counted created.group := by
    refine { counted := ?_, fits := ?_, size := ?_, numbered := ?_ }
    · intro hraid
      rw [← hw] at hraid ⊢
      simp only at hraid ⊢
      by_cases hbg : w.group.bgGroup = true
      · refine ⟨_, if_pos hbg, Counts.init ?_⟩
        simp [hempty]
      · rw [if_neg hbg] at hraid
        exact nomatch hraid
    · intro subgroup
      rw [hmembers]
      exact Nat.zero_le _
    · rw [hmembers]
      exact Nat.zero_le _
    · intro m hm
      rw [hmembers] at hm
      exact absurd hm List.not_mem_nil
  cases addMember_cases created guid with
  | inl hsame =>
      rw [hsame]
      exact Or.inl hmembers
  | inr hadd =>
      obtain ⟨hfull, group, hbound, hroom, hgroup⟩ := hadd
      rw [hgroup]
      refine Or.inr
        { toCounted := hcounted.push (m := ⟨guid, group, false⟩) hfull hbound hroom, led := ?_ }
      exact ⟨_, List.mem_append_right _ (List.mem_singleton.mpr rfl), hleader.symm⟩

theorem chooseLeader_led (hmin : w.group.membersMinCount ≤ w.group.members.length) :
    ∃ leader, (∃ m ∈ w.group.members, m.guid = leader) ∧
      w.chooseLeader.group = { w.group with leaderGuid := leader } := by
  have hne : w.group.members ≠ [] := by
    intro hnil
    rw [hnil] at hmin
    simp only [Group.membersMinCount] at hmin
    split at hmin
    · exact absurd hmin (by decide)
    · exact absurd hmin (by decide)
  have hcandidate : ∀ m ∈ w.candidates, m ∈ w.group.members := fun m hm => List.mem_of_mem_filter hm
  have hchosen : ∃ m, w.chosen = some m ∧ m ∈ w.group.members := by
    simp only [World.chosen]
    generalize hfirst : w.candidates.find? _ = first
    cases first with
    | some m => exact ⟨m, rfl, hcandidate m (List.mem_of_find?_eq_some hfirst)⟩
    | none =>
        cases hhead : w.candidates.head? with
        | some m => exact ⟨m, rfl, hcandidate m (List.mem_of_head? hhead)⟩
        | none =>
            obtain ⟨m, rest, hcons⟩ := List.exists_cons_of_ne_nil hne
            rw [hcons]
            exact ⟨m, rfl, List.mem_cons_self⟩
  obtain ⟨m, hsome, hm⟩ := hchosen
  simp only [World.chooseLeader, if_neg (Nat.not_lt.mpr hmin), hsome, Group.setLeader]
  cases hslot : w.group.slot? m.guid with
  | none => simpa using List.find?_eq_none.mp hslot m hm
  | some slot => exact ⟨slot.guid, ⟨slot, List.mem_of_find?_eq_some hslot, rfl⟩, rfl⟩

theorem Sound.dropMember (h : Sound w.group) (guid : UInt64)
    (hmin : w.group.membersMinCount < w.group.members.length) :
    Sound (w.dropMember guid).group := by
  have hcounted := h.toCounted.eraseSlot guid
  have hmembers := eraseSlot_members w.group guid
  obtain ⟨hleader, hcount⟩ := eraseSlot_frame w.group guid
  simp only [World.dropMember, withPlayer_group, hleader]
  split
  · have hlength : (w.group.eraseSlot guid).membersMinCount ≤
        (w.group.eraseSlot guid).members.length := by
      have hge := List.le_length_eraseP (p := fun m : MemberSlot => decide (m.guid = guid))
        (l := w.group.members)
      rw [hmembers, hcount]
      omega
    obtain ⟨leader, hled, hgroup⟩ := chooseLeader_led
      (w := ⟨w.group.eraseSlot guid, (w.withPlayer guid (World.parted w.group.bgGroup)).players⟩)
      hlength
    rw [hgroup]
    exact { toCounted := ⟨hcounted.1, hcounted.2, hcounted.3, hcounted.4⟩, led := hled }
  · rename_i hne
    obtain ⟨m, hm, hled⟩ := h.led
    refine { toCounted := hcounted, led := ⟨m, ?_, hled.trans hleader.symm⟩ }
    rw [hmembers]
    exact (List.mem_eraseP_of_neg (by simpa [hled] using hne)).mpr hm

theorem disband_empty (w : World) : w.disband.group.members = [] := rfl

theorem led_of_guids {g g' : Group} (h : ∃ m ∈ g.members, m.guid = g.leaderGuid)
    (hguids : g'.members.map (·.guid) = g.members.map (·.guid))
    (hleader : g'.leaderGuid = g.leaderGuid) : ∃ m ∈ g'.members, m.guid = g'.leaderGuid := by
  have hmem : g.leaderGuid ∈ g.members.map (·.guid) := List.mem_map.mpr h
  rw [hleader, ← List.mem_map (f := fun m : MemberSlot => m.guid), hguids]
  exact hmem

theorem Sound.move (h : Sound w.group) {guid : UInt64} {group : UInt8} {g : Group}
    (hraid : w.group.groupType = .raid) (hbound : group.toNat < maxRaidSubgroups)
    (hroom : w.group.isSubGroupFull group = false)
    (hset : w.group.setMembersGroup guid group = some g) :
    Sound { g with
      subGroupsCounts := g.subGroupsCounts.map
        (subGroupCounterDecrease · (w.group.memberGroup guid)) } := by
  simp only [Group.setMembersGroup] at hset
  split at hset
  · exact nomatch hset
  · rename_i slot hslot
    cases Option.some.inj hset
    rw [memberGroup_of_slot hslot]
    refine { toCounted := h.toCounted.move hraid hslot hbound hroom, led := ?_ }
    exact led_of_guids h.led (map_changeSlot (f := fun m => { m with group := group }) (·.guid)
      (fun _ => rfl) guid w.group.members) rfl

theorem Sound.swapMembersGroup (h : Sound w.group) (guid swapGuid : UInt64) :
    Sound (w.swapMembersGroup guid swapGuid).group := by
  simp only [World.swapMembersGroup]
  split
  · exact h
  · split
    · exact h
    · rename_i hdiffer
      have hne : guid ≠ swapGuid := fun hsame => hdiffer (Or.inl (by rw [hsame]))
      split
      · exact h
      · rename_i g hswap
        simp only [withPlayer_group]
        have hperm := swapSlots_perm hne hswap
        simp only [Group.swapSlots] at hswap
        split at hswap
        · rename_i slot swapSlot _ _
          cases Option.some.inj hswap
          refine { toCounted := h.toCounted.of_groups_perm rfl rfl hperm, led := ?_ }
          refine led_of_guids h.led ?_ rfl
          exact (map_changeSlot (f := fun m => { m with group := swapSlot.group }) (·.guid)
            (fun _ => rfl) _ _).trans
            (map_changeSlot (f := fun m => { m with group := slot.group }) (·.guid)
              (fun _ => rfl) _ _)
        · exact nomatch hswap

theorem Sound.convertToRaid (h : Sound w.group) : Sound w.group.convertToRaid := by
  have hsize : w.group.members.length ≤ maxRaidSize := by
    refine h.size.trans ?_
    split
    · exact le_rfl
    · decide
  have hcounts := Counts.init (hsize.trans (by decide))
  have hraid : Counted w.group.convertToRaid := by
    refine { counted := ?_, fits := h.fits, size := hsize, numbered := h.numbered }
    intro _
    exact ⟨_, rfl, hcounts⟩
  exact { toCounted := hraid, led := h.led }

theorem Sound.setAssistant (h : Sound w.group) (guid : UInt64) (state : Bool) :
    Sound (w.group.setAssistant guid state) := by
  simp only [Group.setAssistant]
  split
  · exact h
  · have hgroups := map_changeSlot (f := fun m => { m with assistant := state }) (·.group)
      (fun _ => rfl) guid w.group.members
    refine { toCounted := h.toCounted.of_groups_perm rfl rfl (List.Perm.of_eq hgroups), led := ?_ }
    exact led_of_guids h.led (map_changeSlot (f := fun m => { m with assistant := state }) (·.guid)
      (fun _ => rfl) guid w.group.members) rfl

theorem Sound.setLeader (h : Sound w.group) (guid : UInt64) : Sound (w.group.setLeader guid) := by
  simp only [Group.setLeader]
  split
  · exact h
  · rename_i m hslot
    exact { toCounted := ⟨h.1.1, h.1.2, h.1.3, h.1.4⟩,
            led := ⟨m, List.mem_of_find?_eq_some hslot, rfl⟩ }

/-- A move of a member who is currently in another group follows his original reference. -/
def Refers (w : World) (guid : UInt64) (group : UInt8) : Prop :=
  w.group.groupType = .raid → group.toNat < maxRaidSubgroups →
    w.group.isSubGroupFull group = false → w.group.memberGroup guid ≠ group →
      (w.group.memberGroup guid).toNat < maxRaidSubgroups → ∀ p, w.getPlayer guid = some p →
        p.group.target ≠ some .this → p.originalGroup.subGroup = w.group.memberGroup guid

theorem Sound.changePlayersGroup (h : Sound w.group) {guid : UInt64} {p : Player} {group : UInt8}
    (hplayer : w.getPlayer guid = some p) (hrefers : Refers w guid group) :
    Sound (w.changePlayersGroup guid p group).group := by
  simp only [World.changePlayersGroup]
  split
  · exact h
  · rename_i hraid
    rw [not_or, Decidable.not_not, Nat.not_le] at hraid
    split
    · exact h
    · rename_i hprev
      rw [not_or, Nat.not_le] at hprev
      split
      · exact h
      · rename_i hroom
        rw [Bool.not_eq_true] at hroom
        split
        · exact h
        · rename_i g hset
          have hcounted : (if p.group.target = some .this then w.group.memberGroup guid
              else p.originalGroup.subGroup) = w.group.memberGroup guid := by
            split
            · rfl
            · rename_i hother
              exact hrefers hraid.1 hraid.2 hroom hprev.1 hprev.2 p hplayer hother
          simp only [World.setPlayer, hcounted]
          exact h.move hraid.1 hraid.2 hroom hset

theorem Sound.changeMembersGroup (h : Sound w.group) {guid : UInt64} {group : UInt8}
    (hrefers : Refers w guid group) : Sound (w.changeMembersGroup guid group).group := by
  simp only [World.changeMembersGroup]
  split
  · exact h
  · rename_i hraid
    rw [not_or, Decidable.not_not, Nat.not_le] at hraid
    split
    · exact h
    · rename_i hroom
      rw [Bool.not_eq_true] at hroom
      split
      · rename_i p hplayer
        exact h.changePlayersGroup hplayer hrefers
      · split
        · exact h
        · split
          · exact h
          · rename_i g hset
            exact h.move hraid.1 hraid.2 hroom hset

end Steps

section Runs

def Called (w : World) : GroupEvent → Prop
  | .create _ => w.group.members = []
  | .addMember _ => w.group.members ≠ []
  | _ => True

/-- The references are those of the slots wherever the counters follow them. -/
def InStep (w : World) : GroupEvent → Prop
  | .changeMembersGroup guid group | .changePlayersGroup guid group => Refers w guid group
  | _ => True

def Kept (w : World) : Prop := w.group.members ≠ [] → Sound w.group

theorem setMembersGroup_of_empty {g : Group} (h : g.members = []) (guid : UInt64) (group : UInt8) :
    g.setMembersGroup guid group = none := by
  simp only [Group.setMembersGroup, Group.slot?, h, List.find?_nil]

/-- Without members nothing but a creation brings one. -/
theorem step_of_empty {w : World} (h : w.group.members = []) (e : GroupEvent)
    (hcreate : ∀ guid, e ≠ .create guid) (hcalled : Called w e) :
    (w.step e).group.members = [] := by
  cases e with
  | create guid => exact absurd rfl (hcreate guid)
  | addMember guid => exact absurd h hcalled
  | removeMember guid =>
      simp only [World.step, World.removeMember, h]
      rfl
  | changeMembersGroup guid group =>
      simp only [World.step, World.changeMembersGroup, World.changePlayersGroup,
        setMembersGroup_of_empty h]
      repeat' split
      all_goals exact h
  | changePlayersGroup guid group =>
      simp only [World.step, World.changePlayersGroup, setMembersGroup_of_empty h]
      repeat' split
      all_goals exact h
  | swapMembersGroup guid swapGuid =>
      have hswap : w.group.swapSlots guid swapGuid = none := by
        simp only [Group.swapSlots, Group.slot?, h, List.find?_nil]
      simp only [World.step, World.swapMembersGroup, hswap]
      repeat' split
      all_goals exact h
  | convertToRaid => exact h
  | setAssistant guid state =>
      simp only [World.step, Group.setAssistant]
      split
      · exact h
      · simp only [h]
        rfl
  | changeLeader guid =>
      simp only [World.step, Group.setLeader]
      split
      · exact h
      · exact h
  | disband => rfl
  | player guid c => exact h

theorem kept_step {w : World} (h : Kept w) (e : GroupEvent) (hcalled : Called w e)
    (hstep : InStep w e) : Kept (w.step e) := by
  intro hne
  by_cases hempty : w.group.members = []
  · cases e with
    | create guid => exact (sound_create hempty guid).resolve_left hne
    | _ => exact absurd (step_of_empty hempty _ (fun _ heq => by cases heq) hcalled) hne
  · have hsound := h hempty
    cases e with
    | create guid => exact absurd hcalled hempty
    | addMember guid => exact hsound.addMember guid
    | removeMember guid =>
        simp only [World.step, World.removeMember] at hne ⊢
        split
        · rename_i hmin
          exact hsound.dropMember guid hmin
        · rename_i hmin
          rw [if_neg hmin] at hne
          exact absurd (disband_empty w) hne
    | changeMembersGroup guid group => exact hsound.changeMembersGroup hstep
    | changePlayersGroup guid group =>
        simp only [World.step]
        split
        · exact hsound
        · rename_i p hplayer
          exact hsound.changePlayersGroup hplayer hstep
    | swapMembersGroup guid swapGuid => exact hsound.swapMembersGroup guid swapGuid
    | convertToRaid => exact hsound.convertToRaid
    | setAssistant guid state => exact hsound.setAssistant guid state
    | changeLeader guid => exact hsound.setLeader guid
    | disband => exact absurd (disband_empty w) hne
    | player guid c => exact hsound

/-- As long as the references are in step, a group is sound from its creation on. -/
theorem subgroups_kept (bgGroup : Bool) (players : UInt64 → Option Player)
    (events : List GroupEvent)
    (h : Lib.Along World.step (fun w e => Called w e ∧ InStep w e) (start bgGroup players)
      events) : Kept (Lib.run World.step (start bgGroup players) events) :=
  Lib.run_invariant (I := Kept) (fun _ e hkept hok => kept_step hkept e hok.1 hok.2)
    (fun hne => absurd rfl hne) h

def twoPlayers (guid : UInt64) : Option Player := if guid = 1 ∨ guid = 2 then some {} else none

def raidEvents : List GroupEvent :=
  [.create 1, .addMember 2, .convertToRaid, .player 2 (.setBattleGroundRaid 0 3),
    .changeMembersGroup 2 1]

theorem subgroups_kept_in_raid :
    (Lib.run World.step (start false twoPlayers) raidEvents).group.members ≠ [] ∧
      Sound (Lib.run World.step (start false twoPlayers) raidEvents).group := by
  have hplayer : (Lib.run World.step (start false twoPlayers) (raidEvents.take 4)).getPlayer 2 =
      some { group := ⟨some (.other 0), 3⟩, originalGroup := ⟨some .this, 0⟩ } := by
    decide +kernel
  have hrefers : Refers (Lib.run World.step (start false twoPlayers) (raidEvents.take 4)) 2 1 := by
    intro _ _ _ _ _ p hp _
    cases Option.some.inj (hplayer.symm.trans hp)
    decide +kernel
  have hmembers : (Lib.run World.step (start false twoPlayers) raidEvents).group.members ≠ [] := by
    decide +kernel
  refine ⟨hmembers, subgroups_kept false twoPlayers raidEvents ?_ hmembers⟩
  refine ⟨⟨rfl, trivial⟩, ⟨by change _ ≠ _; decide +kernel, trivial⟩, ⟨trivial, trivial⟩,
    ⟨trivial, trivial⟩, ⟨trivial, hrefers⟩, trivial⟩

/-- Player 2 is out of the world while his subgroup is changed the first time, so his
reference, which becomes the original one in the battleground, stays at the old number. -/
def staleEvents : List GroupEvent :=
  [.create 1, .addMember 2, .convertToRaid, .player 2 .leaveWorld, .changeMembersGroup 2 1,
    .player 2 .enterWorld, .player 2 (.setBattleGroundRaid 0 3), .changeMembersGroup 2 2]

/-- He is counted out of subgroup 0, which he had left, and not out of subgroup 1. -/
theorem stale_reference_miscounted :
    Lib.Along World.step Called (start false twoPlayers) staleEvents ∧
      ¬ Kept (Lib.run World.step (start false twoPlayers) staleEvents) := by
  constructor
  · refine ⟨rfl, ?_, trivial, trivial, trivial, trivial, trivial, trivial, trivial⟩
    change _ ≠ _
    decide +kernel
  · intro hkept
    have hzero : (Lib.run World.step (start false twoPlayers) staleEvents).group.subGroupsCounts.map
        (count · 0) = some 0 := by
      decide +kernel
    obtain ⟨counts, hsome, hcounted⟩ := (hkept (by decide +kernel)).counted (by decide +kernel)
    rw [hsome] at hzero
    have hcount : (count counts 0).toNat = 0 := congrArg UInt8.toNat (Option.some.inj hzero)
    exact absurd (hcount.symm.trans (hcounted 0 (by decide))) (by decide +kernel)

end Runs

end TortoiseWow.Groups
