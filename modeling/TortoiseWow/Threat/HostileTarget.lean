import TortoiseWow.Threat.VictimSelection

/-!
The order of the threat list over a run. What a threat change or an arrival asks for, so that the
list is marked or stays `Ordered`, is said before the event; so is what a call of
`getHostileTarget` asks for. In runs of such events every call chooses as from a sorted list.
-/

namespace TortoiseWow.Threat

section Ordering

variable {unit : Guid} {ref : HostileReference}

theorem Ordered.concat {iCurrentVictim : Option Guid} {list : List HostileReference}
    (ordered : Ordered iCurrentVictim list) (least : ∀ other ∈ list, ref.iThreat ≤ other.iThreat) :
    Ordered iCurrentVictim (list ++ [ref]) := by
  refine List.pairwise_append.mpr ⟨ordered, List.pairwise_singleton _ _, ?_⟩
  intro other among last isLast
  cases List.mem_singleton.mp isLast
  exact Or.inl (least other among)

/-- A change that leaves threat and the state of the link alone. -/
theorem Ordered.map {iCurrentVictim : Option Guid} {list : List HostileReference}
    (ordered : Ordered iCurrentVictim list) {f : HostileReference → HostileReference}
    (keeps : ThreatManager.KeepsUnit f) (same : ∀ ref, (f ref).iThreat = ref.iThreat) :
    Ordered iCurrentVictim (list.map fun ref => if ref.unit = unit then f ref else ref) := by
  refine List.pairwise_map.mpr (List.Pairwise.imp ?_ ordered)
  intro a b below
  have threat : ∀ ref, (if ref.unit = unit then f ref else ref).iThreat = ref.iThreat := by
    intro ref
    split
    · exact same ref
    · rfl
  have unit' : ∀ ref, (if ref.unit = unit then f ref else ref).unit = ref.unit := by
    intro ref
    split
    · exact keeps ref
    · rfl
  rw [threat, threat, unit']
  exact below

end Ordering

namespace ThreatManager

/-- The change is one for which the list is marked. -/
def Marks (m : ThreatManager) (unit : Guid) (value : ℚ) : Prop :=
  m.iCurrentVictim = some unit ∧ value < 0 ∨ m.iCurrentVictim ≠ some unit ∧ 0 < value

/-- Who comes with that threat overtakes the current victim, for which the list is marked, or has
no more than anybody listed. -/
def Arrives (m : ThreatManager) (threat : ℚ) : Prop :=
  (m.currentVictim?.any fun victim => 11 / 10 * victim.iThreat < threat) = true ∨
    ∀ ref ∈ m.iThreatList, threat ≤ ref.iThreat

def Fits (m : ThreatManager) (ref : HostileReference) (value : ℚ) (sight : Sight) : Prop :=
  m.iDirty = true ∨ m.Marks ref.unit value ∨
    (ref.iOnline = true → 0 ≤ value ∨ m.iThreatList.Pairwise fun a b =>
      a.unit = ref.unit → b.iThreat ≤ a.iThreat + value ∨ m.iCurrentVictim = some b.unit) ∧
    (ref.iOnline = false → (look sight ref).iOnline = true → m.Arrives (ref.iThreat + value))

structure CanSelect (m : ThreatManager) (attacker : Attacker) : Prop where
  area : ∀ ref ∈ m.update.iThreatList, attacker.isOutOfThreatArea ref.unit = false
  comparable : Comparable attacker m.update.iThreatList m.currentVictim?
  order : (m.update.iThreatList.Pairwise fun a b => b.iThreat ≤ a.iThreat) ∨
    ∃ current, m.currentVictim? = some current ∧ attacker.accepts false current.unit = true ∧
      ∀ ref ∈ m.update.iThreatList, attacker.accepts false ref.unit = true →
        attacker.overtakes ref current = false

def KeepsOrder (m : ThreatManager) : ThreatEvent → Prop
  | .addThreat unit threat sight =>
      (∀ ref, m.reference? unit = some ref → m.Fits ref threat sight) ∧
        (m.reference? unit = none →
          m.iDirty = true ∨ 0 < threat ∨ ∀ ref ∈ m.iThreatList, threat ≤ ref.iThreat)
  | .modifyThreatPercent unit percent sight =>
      ∀ ref, m.online? unit = some ref → percent < -100 ∨ m.Fits ref (percentOf ref percent) sight
  | .addThreatPercent unit percent sight =>
      ∀ ref, m.reference? unit = some ref → ref.isValid = true →
        m.Fits ref (percentOf ref percent) sight
  | .setOnlineOfflineState unit isOnline =>
      ∀ ref, m.reference? unit = some ref → ref.iOnline = false → isOnline = true →
        m.iDirty = true ∨ m.Arrives ref.iThreat
  | .updateOnlineStatus unit sight =>
      ∀ ref, m.reference? unit = some ref → ref.iOnline = false → (look sight ref).iOnline = true →
        m.iDirty = true ∨ m.Arrives ref.iThreat
  | .invalidate _ | .deleteReference _ => True
  | .tauntApply _ _ _ | .tauntFadeOut _ _ _ | .addTempThreat _ _ _ _ _ => False
  | .getHostileTarget attacker => m.CanSelect attacker

def InOrder (m : ThreatManager) : Prop :=
  m.iDirty = true ∨ Ordered m.iCurrentVictim m.iThreatList

structure Listed (m : ThreatManager) : Prop where
  distinct : m.Distinct
  current : ∀ unit, m.iCurrentVictim = some unit → ∃ ref ∈ m.iThreatList, ref.unit = unit

section Lists

variable {m : ThreatManager} {unit : Guid} {ref : HostileReference}

theorem mem_iThreatList : ref ∈ m.iThreatList ↔ ref ∈ m.refs ∧ ref.iOnline = true := List.mem_filter

theorem distinct_iThreatList (distinct : m.Distinct) : (m.iThreatList.map (·.unit)).Nodup :=
  distinct.sublist (List.filter_sublist.map _)

theorem iThreatList_change {f : HostileReference → HostileReference}
    (keeps : ∀ ref, (f ref).iOnline = ref.iOnline) :
    (m.change unit f).iThreatList =
      m.iThreatList.map fun ref => if ref.unit = unit then f ref else ref := by
  simp only [iThreatList, change, List.filter_map]
  congr 1
  refine List.filter_congr fun ref _ => ?_
  simp only [Function.comp]
  split
  · exact keeps ref
  · rfl

theorem iThreatList_change_offline (distinct : m.Distinct) (listed : m.reference? unit = some ref)
    (offline : ref.iOnline = false) {f : HostileReference → HostileReference}
    (keeps : ∀ ref, (f ref).iOnline = ref.iOnline) :
    (m.change unit f).iThreatList = m.iThreatList := by
  rw [iThreatList_change keeps]
  refine (List.map_congr_left fun other among => ?_).trans (List.map_id _)
  rw [if_neg]
  · rfl
  · intro same
    have also := (reference?_eq_some distinct).mpr ⟨(mem_iThreatList.mp among).1, same⟩
    cases listed.symm.trans also
    rw [(mem_iThreatList.mp among).2] at offline
    cases offline

theorem iThreatList_relist_online (online : ref.iOnline = true) :
    (m.relist ref).iThreatList = m.iThreatList.filter (·.unit ≠ ref.unit) ++ [ref] := by
  simp only [iThreatList, relist, List.filter_append, List.filter_filter, Bool.and_comm]
  simp [online]

theorem iThreatList_relist_offline (offline : ref.iOnline = false) :
    (m.relist ref).iThreatList = m.iThreatList.filter (·.unit ≠ ref.unit) := by
  simp only [iThreatList, relist, List.filter_append, List.filter_filter, Bool.and_comm]
  simp [offline]

theorem Listed.change (h : m.Listed) {f : HostileReference → HostileReference} (keeps : KeepsUnit f)
    (online : ∀ ref, (f ref).iOnline = ref.iOnline) : (m.change unit f).Listed := by
  refine ⟨h.distinct.change keeps, fun victim current => ?_⟩
  obtain ⟨ref, among, same⟩ := h.current victim current
  refine ⟨_, by rw [iThreatList_change online]; exact List.mem_map_of_mem among, ?_⟩
  split
  · exact (keeps ref).trans same
  · exact same

theorem iThreatList_congr {m m' : ThreatManager} (refs : m.refs = m'.refs) :
    m.iThreatList = m'.iThreatList := by
  simp only [iThreatList, refs]

theorem iThreatList_cameOnline (ref : HostileReference) :
    (m.cameOnline ref).iThreatList =
      m.iThreatList.filter (·.unit ≠ ref.unit) ++ [{ ref with iOnline := true }] :=
  (iThreatList_congr (refs_cameOnline ref)).trans (iThreatList_relist_online rfl)

theorem iThreatList_wentOffline (ref : HostileReference) :
    (m.wentOffline ref).iThreatList = m.iThreatList.filter (·.unit ≠ ref.unit) :=
  (iThreatList_congr (refs_wentOffline ref)).trans (iThreatList_relist_offline rfl)

theorem iCurrentVictim_cameOnline (ref : HostileReference) :
    (m.cameOnline ref).iCurrentVictim = m.iCurrentVictim := by
  rw [cameOnline]
  split <;> rfl

theorem iCurrentVictim_wentOffline (ref : HostileReference) :
    (m.wentOffline ref).iCurrentVictim =
      if m.iCurrentVictim = some ref.unit then none else m.iCurrentVictim := by
  rw [wentOffline]
  dsimp only
  split <;> rfl

theorem Listed.cameOnline (h : m.Listed) (ref : HostileReference) : (m.cameOnline ref).Listed := by
  refine ⟨by rw [Distinct, refs_cameOnline]; exact h.distinct.relist _, fun victim current => ?_⟩
  rw [iCurrentVictim_cameOnline] at current
  obtain ⟨other, among, same⟩ := h.current victim current
  rw [iThreatList_cameOnline]
  by_cases this : other.unit = ref.unit
  · exact ⟨_, List.mem_append_right _ List.mem_cons_self, this.symm.trans same⟩
  · exact ⟨other, List.mem_append_left _ (List.mem_filter.mpr ⟨among, decide_eq_true this⟩), same⟩

theorem Listed.wentOffline (h : m.Listed) (ref : HostileReference) :
    (m.wentOffline ref).Listed := by
  refine ⟨by rw [Distinct, refs_wentOffline]; exact h.distinct.relist _, fun victim current => ?_⟩
  rw [iCurrentVictim_wentOffline] at current
  split at current
  · cases current
  · rename_i stays
    obtain ⟨other, among, same⟩ := h.current victim current
    refine ⟨other, ?_, same⟩
    rw [iThreatList_wentOffline]
    refine List.mem_filter.mpr ⟨among, decide_eq_true fun this => stays ?_⟩
    rw [current, ← same, this]

theorem Listed.setOnlineOfflineState (h : m.Listed) (unit : Guid) (isOnline : Bool) :
    (m.setOnlineOfflineState unit isOnline).Listed := by
  rw [ThreatManager.setOnlineOfflineState]
  split
  · exact h
  · rename_i ref _
    split
    · exact h
    · split
      · exact h.cameOnline ref
      · exact h.wentOffline ref

theorem dirty_setOnlineOfflineState (dirty : m.iDirty = true) (unit : Guid) (isOnline : Bool) :
    (m.setOnlineOfflineState unit isOnline).iDirty = true := by
  rw [setOnlineOfflineState]
  split
  · exact dirty
  · split
    · exact dirty
    · split
      · rw [cameOnline]
        split
        · rfl
        · exact dirty
      · rw [wentOffline]
        dsimp only
        split
        · rfl
        · exact dirty

theorem dirty_threatChanged (dirty : m.iDirty = true) (unit : Guid) (value : ℚ) :
    (m.threatChanged unit value).iDirty = true := by
  rw [threatChanged]
  split
  · rfl
  · exact dirty

theorem dirty_addThreat (dirty : m.iDirty = true) (unit : Guid) (pMod : ℚ) (sight : Sight) :
    (m.addThreat unit pMod sight).iDirty = true := by
  have told : ∀ m : ThreatManager, m.iDirty = true →
      (if pMod ≠ 0 then m.threatChanged unit pMod else m).iDirty = true := by
    intro m dirty
    split
    · exact dirty_threatChanged dirty unit pMod
    · exact dirty
  refine told _ ?_
  split
  · exact dirty
  · refine dirty_setOnlineOfflineState ?_ unit _
    exact dirty

theorem inOrder_threatChanged (order : m.InOrder) (unit : Guid) (value : ℚ) :
    (m.threatChanged unit value).InOrder := by
  rw [threatChanged]
  split
  · exact Or.inl rfl
  · exact order

theorem inOrder_cameOnline (order : m.InOrder) (arrives : m.iDirty = true ∨ m.Arrives ref.iThreat) :
    (m.cameOnline ref).InOrder := by
  by_cases over' :
    (m.currentVictim?.any fun victim => 11 / 10 * victim.iThreat < ref.iThreat) = true
  · exact Or.inl (by rw [cameOnline, if_pos over']; rfl)
  have dirtySame : (m.cameOnline ref).iDirty = m.iDirty := by
    rw [cameOnline, if_neg over']
    rfl
  rw [InOrder, dirtySame, iCurrentVictim_cameOnline, iThreatList_cameOnline]
  rcases order with dirty | ordered
  · exact Or.inl dirty
  · rcases arrives with dirty | overtakes | least
    · exact Or.inl dirty
    · exact absurd overtakes over'
    · refine Or.inr (Ordered.concat (List.Pairwise.filter _ ordered) fun other among => ?_)
      exact least other (List.mem_filter.mp among).1

theorem inOrder_wentOffline (order : m.InOrder) (ref : HostileReference) :
    (m.wentOffline ref).InOrder := by
  by_cases lost : m.iCurrentVictim = some ref.unit
  · exact Or.inl (by rw [wentOffline]; dsimp only; rw [if_pos lost]; rfl)
  have dirtySame : (m.wentOffline ref).iDirty = m.iDirty := by
    rw [wentOffline]
    dsimp only
    rw [if_neg lost]
    rfl
  rw [InOrder, dirtySame, iCurrentVictim_wentOffline, if_neg lost, iThreatList_wentOffline]
  exact order.imp_right fun ordered => List.Pairwise.filter _ ordered

theorem inOrder_setOnlineOfflineState (order : m.InOrder) {isOnline : Bool}
    (ok : ∀ ref, m.reference? unit = some ref → ref.iOnline = false → isOnline = true →
      m.iDirty = true ∨ m.Arrives ref.iThreat) :
    (m.setOnlineOfflineState unit isOnline).InOrder := by
  rw [setOnlineOfflineState]
  split
  · exact order
  · rename_i ref listed
    split
    · exact order
    · rename_i other
      split
      · rename_i online
        rw [online] at other
        exact inOrder_cameOnline order (ok ref listed (eq_false_of_ne_true other) online)
      · exact inOrder_wentOffline order ref

section Change

variable {f : HostileReference → HostileReference} (keeps : KeepsUnit f)
  (online : ∀ ref, (f ref).iOnline = ref.iOnline) (same : ∀ ref, (f ref).iThreat = ref.iThreat)

include keeps online same

theorem inOrder_change (order : m.InOrder) : (m.change unit f).InOrder := by
  rw [InOrder, iThreatList_change online]
  exact order.imp_right fun ordered => Ordered.map ordered keeps same

theorem arrives_change {threat : ℚ} (arrives : m.Arrives threat) :
    (m.change unit f).Arrives threat := by
  have threats : ∀ ref, (if ref.unit = unit then f ref else ref).iThreat = ref.iThreat := by
    intro ref
    split
    · exact same ref
    · rfl
  rcases arrives with overtakes | least
  · refine Or.inl ?_
    obtain ⟨victim, current, more⟩ := (Option.any_eq_true _ _).mp overtakes
    obtain ⟨victimUnit, isVictim, listed⟩ := Option.bind_eq_some_iff.mp current
    refine (Option.any_eq_true _ _).mpr ⟨if victimUnit = unit then f victim else victim, ?_, ?_⟩
    · refine Option.bind_eq_some_iff.mpr ⟨victimUnit, isVictim, ?_⟩
      rw [reference?_change keeps, listed, Option.map_some]
    · have threat : (if victimUnit = unit then f victim else victim).iThreat = victim.iThreat := by
        split
        · exact same victim
        · rfl
      rw [threat]
      exact more
  · refine Or.inr fun ref among => ?_
    rw [iThreatList_change online] at among
    obtain ⟨ref', among', rfl⟩ := List.mem_map.mp among
    rw [threats]
    exact least ref' among'

end Change

theorem inOrder_updateOnlineStatus (order : m.InOrder) {sight : Sight}
    (ok : ∀ ref, m.reference? unit = some ref → ref.iOnline = false →
      (look sight ref).iOnline = true → m.iDirty = true ∨ m.Arrives ref.iThreat) :
    (m.updateOnlineStatus unit sight).InOrder := by
  have keeps : KeepsUnit fun ref => { ref with isValid := ref.isValid || sight.found } :=
    fun _ => rfl
  rw [updateOnlineStatus]
  refine inOrder_setOnlineOfflineState (inOrder_change keeps (fun _ => rfl) (fun _ => rfl) order) ?_
  intro ref' found offline online
  have found' := found
  rw [reference?_change keeps] at found'
  obtain ⟨ref, listed, rfl⟩ := Option.map_eq_some_iff.mp found'
  rw [found] at online
  simp only [if_true, Option.any_some] at online offline ⊢
  refine (ok ref listed offline online).imp id fun arrives => ?_
  exact arrives_change keeps (fun _ => rfl) (fun _ => rfl) arrives

theorem iCurrentVictim_updateOnlineStatus (listed : m.reference? unit = some ref)
    (offline : ref.iOnline = false) (sight : Sight) :
    (m.updateOnlineStatus unit sight).iCurrentVictim = m.iCurrentVictim := by
  have keeps : KeepsUnit fun ref => { ref with isValid := ref.isValid || sight.found } :=
    fun _ => rfl
  have found :
    (m.change unit fun ref => { ref with isValid := ref.isValid || sight.found }).reference?
      unit = some { ref with isValid := ref.isValid || sight.found } := by
    rw [reference?_change keeps, listed, Option.map_some, if_pos rfl]
  rw [updateOnlineStatus, setOnlineOfflineState, found]
  dsimp only
  split
  · rfl
  · rename_i other
    split
    · exact iCurrentVictim_cameOnline _
    · rename_i stays
      exact absurd (offline.trans (eq_false_of_ne_true stays).symm) other

theorem dirty_of_marks {value : ℚ} (marks : m.Marks unit value) :
    value ≠ 0 ∧ (m.threatChanged unit value).iDirty = true := by
  have told : m.threatChanged unit value = m.setDirty := if_pos marks
  refine ⟨?_, by rw [told]; rfl⟩
  rcases marks with ⟨-, less⟩ | ⟨-, more⟩
  · exact less.ne
  · exact more.ne'

theorem currentVictim?_change_other {f : HostileReference → HostileReference} (keeps : KeepsUnit f)
    (other : m.iCurrentVictim ≠ some unit) :
    (m.change unit f).currentVictim? = m.currentVictim? := by
  rw [currentVictim?, currentVictim?]
  refine Option.bind_congr fun victim isVictim => ?_
  have ne : victim ≠ unit := by
    rintro rfl
    exact other isVictim
  rw [reference?_change keeps]
  simp [ne]

theorem ordered_raise (ordered : Ordered m.iCurrentVictim m.iThreatList) {value : ℚ}
    (unmarked : ¬ m.Marks unit value)
    (fits : 0 ≤ value ∨ m.iThreatList.Pairwise fun a b =>
      a.unit = unit → b.iThreat ≤ a.iThreat + value ∨ m.iCurrentVictim = some b.unit) :
    Ordered m.iCurrentVictim (m.iThreatList.map fun ref =>
      if ref.unit = unit then { ref with iThreat := ref.iThreat + value } else ref) := by
  have place : m.iThreatList.Pairwise fun a b =>
      a.unit = unit → b.unit = unit ∨ b.iThreat ≤ a.iThreat + value ∨ m.iCurrentVictim =
        some b.unit := by
    rcases fits with more | place
    · exact ordered.imp fun below _ => Or.inr (below.imp_left fun less => by linarith)
    · exact place.imp fun fits same => Or.inr (fits same)
  have rises : ∀ b : HostileReference, b.unit = unit → 0 < value → m.iCurrentVictim =
    some b.unit := by
    intro b same more
    rw [same]
    exact not_not.mp fun other => unmarked (Or.inr ⟨other, more⟩)
  refine List.pairwise_map.mpr (List.Pairwise.imp₂ ?_ ordered place)
  intro a b below fits
  by_cases isA : a.unit = unit <;> by_cases isB : b.unit = unit
  · rw [if_pos isA, if_pos isB]
    exact below.imp_left fun less => add_le_add_left less value
  · rw [if_pos isA, if_neg isB]
    exact (fits isA).resolve_left isB
  · rw [if_neg isA, if_pos isB]
    by_cases more : 0 < value
    · exact Or.inr (rises b isB more)
    · refine below.imp_left fun less => ?_
      change b.iThreat + value ≤ a.iThreat
      linarith
  · rw [if_neg isA, if_neg isB]
    exact below

theorem inOrder_told {m' : ThreatManager} {pMod : ℚ}
    (current : m'.iCurrentVictim = m.iCurrentVictim)
    (kept : ¬ m.Marks unit pMod → m'.InOrder) :
    (if pMod ≠ 0 then m'.threatChanged unit pMod else m').InOrder := by
  by_cases marks : m.Marks unit pMod
  · have marks' : m'.Marks unit pMod := by
      rw [Marks, current]
      exact marks
    rw [if_pos (dirty_of_marks marks').1]
    exact Or.inl (dirty_of_marks marks').2
  · split
    · exact inOrder_threatChanged (kept marks) unit pMod
    · exact kept marks

theorem addThreat_of_online (listed : m.reference? unit = some ref) (on : ref.iOnline = true)
    (pMod : ℚ) (sight : Sight) :
    m.addThreat unit pMod sight =
      if pMod ≠ 0 then
        (m.change unit fun ref => { ref with iThreat := ref.iThreat + pMod }).threatChanged unit
          pMod
      else m.change unit fun ref => { ref with iThreat := ref.iThreat + pMod } := by
  have keeps : KeepsUnit fun ref => { ref with iThreat := ref.iThreat + pMod } := fun _ => rfl
  have seen : ((m.change unit fun ref => { ref with iThreat := ref.iThreat + pMod }).online?
      unit).isSome = true := by
    rw [online?, reference?_change keeps, listed]
    simp [on]
  rw [addThreat, if_pos seen]

theorem inOrder_addThreat (h : m.Listed) (order : m.InOrder) (listed : m.reference? unit = some ref)
    {pMod : ℚ} {sight : Sight} (fits : m.Fits ref pMod sight) :
    (m.addThreat unit pMod sight).InOrder := by
  have unitIs := unit_of_reference? listed
  have keeps : KeepsUnit fun ref => { ref with iThreat := ref.iThreat + pMod } := fun _ => rfl
  have online : ∀ ref : HostileReference,
    ({ ref with iThreat := ref.iThreat + pMod } : HostileReference).iOnline =
      ref.iOnline := fun _ => rfl
  have found :
    (m.change unit fun ref => { ref with iThreat := ref.iThreat + pMod }).reference? unit =
      some { ref with iThreat := ref.iThreat + pMod } := by
    rw [reference?_change keeps, listed, Option.map_some, if_pos rfl]
  by_cases dirty : m.iDirty = true
  · exact Or.inl (dirty_addThreat dirty unit pMod sight)
  have ordered := order.resolve_left dirty
  have fits := fits.resolve_left dirty
  cases on : ref.iOnline with
  | true =>
      rw [addThreat_of_online listed on]
      refine inOrder_told (m := m) rfl fun unmarked => ?_
      have unmarked' : ¬ m.Marks ref.unit pMod := by rwa [unitIs]
      rw [InOrder, iThreatList_change online]
      exact Or.inr (ordered_raise ordered unmarked (unitIs ▸ (fits.resolve_left unmarked').1 on))
  | false =>
      have unseen : ¬ ((m.change unit fun ref => { ref with iThreat := ref.iThreat + pMod }).online?
          unit).isSome = true := by
        rw [online?, found]
        simp [on]
      have list := iThreatList_change_offline h.distinct listed on online
      refine inOrder_told (m := m) ?_ fun unmarked => ?_
      · rw [if_neg unseen]
        exact iCurrentVictim_updateOnlineStatus found on sight
      · rw [if_neg unseen]
        refine inOrder_updateOnlineStatus ?_ fun ref' found' offline back => Or.inr ?_
        · rw [InOrder, list]
          exact Or.inr ordered
        · cases found.symm.trans found'
          have unmarked' : ¬ m.Marks ref.unit pMod := by rwa [unitIs]
          have other : m.iCurrentVictim ≠ some unit := by
            intro isVictim
            obtain ⟨ref', among, same⟩ := h.current unit isVictim
            have also := (reference?_eq_some h.distinct).mpr ⟨(mem_iThreatList.mp among).1, same⟩
            cases listed.symm.trans also
            rw [(mem_iThreatList.mp among).2] at on
            cases on
          rw [Arrives, currentVictim?_change_other keeps other, list]
          exact (fits.resolve_left unmarked').2 on back

theorem inOrder_removed (order : m.InOrder) (unit : Guid) : (m.removed unit).InOrder := by
  rw [removed]
  dsimp only
  split
  · exact Or.inl rfl
  · have filtered : ({ m with refs := m.refs.filter (·.unit ≠ unit) } : ThreatManager).iThreatList =
        m.iThreatList.filter (·.unit ≠ unit) := by
      simp only [iThreatList, List.filter_filter, Bool.and_comm]
    rw [InOrder, filtered]
    exact order.imp_right fun ordered => List.Pairwise.filter _ ordered

theorem Listed.removed (h : m.Listed) (unit : Guid) : (m.removed unit).Listed := by
  refine ⟨h.distinct.removed unit, fun victim current => ?_⟩
  rw [ThreatManager.removed] at current ⊢
  dsimp only at current ⊢
  split at current
  · cases current
  · rename_i stays
    rw [if_neg stays]
    obtain ⟨ref, among, same⟩ := h.current victim current
    refine ⟨ref, ?_, same⟩
    rw [mem_iThreatList] at among ⊢
    refine ⟨List.mem_filter.mpr ⟨among.1, decide_eq_true fun this => stays ?_⟩, among.2⟩
    exact current.trans (congrArg some (same.symm.trans this))

/-- A reference that was just made is at the end of the list. -/
theorem iThreatList_append (online : ref.iOnline = true) :
    ({ m with refs := m.refs ++ [ref] } : ThreatManager).iThreatList = m.iThreatList ++ [ref] := by
  simp [iThreatList, online]

theorem Listed.append (h : m.Listed) (fresh : m.reference? ref.unit = none)
    (online : ref.iOnline = true) :
    ({ m with refs := m.refs ++ [ref] } : ThreatManager).Listed := by
  refine ⟨h.distinct.append fresh, fun victim current => ?_⟩
  obtain ⟨other, among, same⟩ := h.current victim current
  rw [iThreatList_append online]
  exact ⟨other, List.mem_append_left _ among, same⟩

theorem inOrder_new (h : m.Listed) (order : m.InOrder) (fresh : m.reference? unit = none)
    {threat : ℚ} {sight : Sight}
    (fits : m.iDirty = true ∨ 0 < threat ∨ ∀ ref ∈ m.iThreatList, threat ≤ ref.iThreat) :
    (({ m with refs := m.refs ++ [{ unit := unit, iThreat := 0 }] } : ThreatManager).addThreat unit
      threat sight).InOrder := by
  generalize made :
    ({ m with refs := m.refs ++ [{ unit := unit, iThreat := 0 }] } : ThreatManager) = m'
  have list : m'.iThreatList = m.iThreatList ++ [{ unit := unit, iThreat := 0 }] := by
    rw [← made]
    exact iThreatList_append rfl
  have distinct : m'.Distinct := by
    rw [← made]
    exact h.distinct.append fresh
  have found : m'.reference? unit = some { unit := unit, iThreat := 0 } := by
    refine (reference?_eq_some distinct).mpr ⟨?_, rfl⟩
    rw [← made]
    exact List.mem_append_right _ List.mem_cons_self
  have current : m'.iCurrentVictim = m.iCurrentVictim := by rw [← made]
  have dirty : m'.iDirty = m.iDirty := by rw [← made]
  have others : ∀ ref ∈ m.iThreatList, ref.unit ≠ unit := by
    intro ref among
    exact of_decide_eq_false
      (eq_false_of_ne_true (List.find?_eq_none.mp fresh ref (mem_iThreatList.mp among).1))
  rw [addThreat_of_online found rfl]
  refine inOrder_told (m := m') rfl fun unmarked => ?_
  have newcomer : m'.iCurrentVictim ≠ some unit := by
    intro isVictim
    obtain ⟨ref, among, same⟩ := h.current unit (current.symm.trans isVictim)
    exact others ref among same
  have few : ¬ 0 < threat := fun more => unmarked (Or.inr ⟨newcomer, more⟩)
  have changed :
    (m'.change unit fun ref => { ref with iThreat := ref.iThreat + threat }).iThreatList =
      m.iThreatList ++ [{ unit := unit, iThreat := threat }] := by
    have online : ∀ ref : HostileReference,
      ({ ref with iThreat := ref.iThreat + threat } : HostileReference).iOnline = ref.iOnline :=
        fun _ => rfl
    rw [iThreatList_change online, list, List.map_append]
    congr 1
    · refine (List.map_congr_left fun ref among => ?_).trans (List.map_id _)
      exact if_neg (others ref among)
    · simp
  rw [InOrder, changed]
  rcases order with marked | ordered
  · exact Or.inl (dirty.trans marked)
  · rcases fits with marked | more | least
    · exact Or.inl (dirty.trans marked)
    · exact absurd more few
    · refine Or.inr ?_
      change Ordered m'.iCurrentVictim _
      rw [current]
      exact ordered.concat least

theorem iThreatList_update : m.update.iThreatList =
    if m.iDirty then m.iThreatList.insertionSort Before else m.iThreatList := by
  have filtered : ∀ sorted : List HostileReference, (∀ ref ∈ sorted, ref.iOnline = true) →
      (sorted ++ m.refs.filter (!·.iOnline)).filter (·.iOnline) = sorted := by
    intro sorted online
    rw [List.filter_append, List.filter_eq_self.mpr online, List.filter_filter]
    simp
  rw [update]
  split
  · refine filtered _ fun ref among => ?_
    exact (mem_iThreatList.mp ((List.mem_insertionSort Before).mp among)).2
  · rfl

theorem mem_update : ref ∈ m.update.iThreatList ↔ ref ∈ m.iThreatList := by
  rw [iThreatList_update]
  split
  · exact List.mem_insertionSort Before
  · exact Iff.rfl

theorem ordered_update (order : m.InOrder) : Ordered m.iCurrentVictim m.update.iThreatList := by
  rw [iThreatList_update]
  split
  · have total : Std.Total Before := ⟨fun a b => le_total b.iThreat a.iThreat⟩
    have trans : IsTrans HostileReference Before :=
      ⟨fun a b c below below' => le_trans below' below⟩
    exact (List.pairwise_insertionSort Before m.iThreatList).imp Or.inl
  · rename_i clean
    exact order.resolve_left clean

theorem currentVictim?_update (distinct : m.Distinct) :
    m.update.currentVictim? = m.currentVictim? := by
  have same : m.update.iCurrentVictim = m.iCurrentVictim := by
    rw [update]
    split <;> rfl
  rw [currentVictim?, currentVictim?, same]
  exact Option.bind_congr fun unit _ => reference?_update distinct

theorem Listed.currentVictim? (h : m.Listed) :
    m.currentVictim?.map (·.unit) = m.iCurrentVictim ∧
      ∀ current, m.currentVictim? = some current → current ∈ m.iThreatList := by
  rw [ThreatManager.currentVictim?]
  cases isVictim : m.iCurrentVictim with
  | none => exact ⟨rfl, nofun⟩
  | some unit =>
      obtain ⟨ref, among, same⟩ := h.current unit isVictim
      have listed := (reference?_eq_some h.distinct).mpr ⟨(mem_iThreatList.mp among).1, same⟩
      rw [Option.bind_some, listed]
      refine ⟨congrArg some same, ?_⟩
      rintro _ ⟨⟩
      exact among

/-- A call chooses as from a sorted list. -/
theorem selected_update (h : m.Listed) (order : m.InOrder) {attacker : Attacker}
    (can : m.CanSelect attacker) :
    Selected attacker m.update.iThreatList m.currentVictim?
      (attacker.selectNextVictim m.update.iThreatList m.currentVictim?) := by
  refine selected can.area ?_ ?_ (fun current isVictim => ?_) can.comparable
  · have distinct : m.update.Distinct := (refs_update.map _).nodup_iff.mpr h.distinct
    exact distinct_iThreatList distinct
  · rw [h.currentVictim?.1]
    exact ordered_update order
  · exact mem_update.mpr (h.currentVictim?.2 current isVictim)

theorem inOrder_getHostileTarget (h : m.Listed) (order : m.InOrder) {attacker : Attacker}
    (can : m.CanSelect attacker) : (m.getHostileTarget attacker).InOrder := by
  have list : (m.getHostileTarget attacker).iThreatList = m.update.iThreatList := rfl
  refine Or.inr ?_
  rw [list]
  rcases can.order with sorted | ⟨current, isVictim, accepted, nobody⟩
  · exact sorted.imp Or.inl
  · -- the current victim is kept
    have among := mem_update.mpr (h.currentVictim?.2 current isVictim)
    have prefers : attacker.prefers m.update.iThreatList = true :=
      List.any_eq_true.mpr ⟨current, among, accepted⟩
    have eligible : ∀ unit, attacker.isEligible m.update.iThreatList unit =
        attacker.accepts false unit := by
      intro unit
      rw [Attacker.isEligible, prefers, Bool.not_true]
    have kept := ((selected_update h order can).kept current isVictim).mpr
      ⟨(eligible _).trans accepted, fun ref listed may =>
        nobody ref listed ((eligible _).symm.trans may)⟩
    have same : (m.getHostileTarget attacker).iCurrentVictim = m.iCurrentVictim := by
      rw [← h.currentVictim?.1, isVictim, ← kept]
      change (attacker.selectNextVictim m.update.iThreatList m.update.currentVictim?).map
        (·.unit) = _
      rw [currentVictim?_update h.distinct, isVictim]
    rw [same]
    exact ordered_update order

theorem Listed.getHostileTarget (h : m.Listed) (attacker : Attacker) :
    (m.getHostileTarget attacker).Listed := by
  refine ⟨stable_distinct.getHostileTarget h.distinct attacker, fun unit isVictim => ?_⟩
  change (attacker.selectNextVictim m.update.iThreatList m.update.currentVictim?).map (·.unit) =
    some unit at isVictim
  rw [currentVictim?_update h.distinct] at isVictim
  obtain ⟨ref, chosen, same⟩ := Option.map_eq_some_iff.mp isVictim
  have among := selectNextVictim_within (fun _ => id)
    (fun current isVictim => mem_update.mpr (h.currentVictim?.2 current isVictim)) ref chosen
  exact ⟨ref, among, same⟩

theorem getHostileTarget_currentVictim? (h : m.Listed) (order : m.InOrder) {attacker : Attacker}
    (can : m.CanSelect attacker) :
    (m.getHostileTarget attacker).currentVictim? =
      attacker.selectNextVictim m.update.iThreatList m.currentVictim? := by
  have chosen : (m.getHostileTarget attacker).iCurrentVictim =
      (attacker.selectNextVictim m.update.iThreatList m.currentVictim?).map (·.unit) := by
    rw [← currentVictim?_update h.distinct]
    rfl
  rw [ThreatManager.currentVictim?, chosen]
  have selected := selected_update h order can
  cases result : attacker.selectNextVictim m.update.iThreatList m.currentVictim? with
  | none => rfl
  | some ref =>
      rw [result] at selected
      have among := mem_iThreatList.mp (selected.valid ref rfl).1
      have distinct : m.update.Distinct := (refs_update.map _).nodup_iff.mpr h.distinct
      exact (reference?_eq_some distinct).mpr ⟨among.1, rfl⟩

theorem stable_listed : Stable Listed where
  change h := h.change
  setDirty h := ⟨h.distinct, h.current⟩
  setOnlineOfflineState h := h.setOnlineOfflineState
  append h fresh := h.append fresh rfl
  removed h := h.removed
  getHostileTarget h := h.getHostileTarget

theorem listed_empty : ({} : ThreatManager).Listed :=
  ⟨List.nodup_nil, fun _ isVictim => by cases isVictim⟩

/-- No unit ever has two references, and the current victim is listed. -/
theorem run_keeps_victim (events : List ThreatEvent) : (run {} events).Listed :=
  Lib.run_always (I := Listed) (fun _ event h => stable_listed.step h event) listed_empty events

/-- The current victim is listed, and the list is marked or ordered. -/
structure Kept (m : ThreatManager) : Prop where
  listed : m.Listed
  order : m.InOrder

theorem inOrder_leave (order : m.InOrder) (unit : Guid) :
    (m.setOnlineOfflineState unit false).InOrder :=
  inOrder_setOnlineOfflineState order fun _ _ _ online => absurd online Bool.false_ne_true

theorem inOrder_step (h : m.Listed) (order : m.InOrder) (event : ThreatEvent)
    (ok : m.KeepsOrder event) :
    (m.step event).InOrder := by
  cases event with
  | addThreat unit threat sight =>
      rw [ThreatManager.step, addThreatDirectly]
      split
      · rename_i ref listed
        exact inOrder_addThreat h order listed (ok.1 ref listed)
      · rename_i fresh
        have added := @inOrder_new m unit h order fresh threat sight (ok.2 fresh)
        dsimp only
        split
        · exact inOrder_leave added unit
        · exact added
  | modifyThreatPercent unit percent sight =>
      rw [ThreatManager.step, modifyThreatPercent]
      split
      · exact order
      · rename_i ref online
        have listed := (Option.filter_eq_some_iff.mp online).1
        split
        · exact inOrder_removed order unit
        · rename_i kept
          have fits := (ok ref online).resolve_left kept
          rw [← unit_of_reference? listed] at listed
          exact inOrder_addThreat h order listed fits
  | addThreatPercent unit percent sight =>
      rw [ThreatManager.step, addThreatPercentOf]
      split
      · exact order
      · rename_i ref linked
        obtain ⟨listed, valid⟩ := Option.filter_eq_some_iff.mp linked
        have fits := ok ref listed valid
        rw [← unit_of_reference? listed] at listed
        exact inOrder_addThreat h order listed fits
  | setOnlineOfflineState unit isOnline => exact inOrder_setOnlineOfflineState order ok
  | updateOnlineStatus unit sight => exact inOrder_updateOnlineStatus order ok
  | invalidate unit =>
      exact inOrder_change (fun _ => rfl) (fun _ => rfl) (fun _ => rfl) (inOrder_leave order unit)
  | deleteReference unit =>
      rw [ThreatManager.step, deleteReference]
      split
      · exact order
      · exact inOrder_removed order unit
  | tauntApply aura unit sight => exact ok.elim
  | tauntFadeOut aura unit sight => exact ok.elim
  | addTempThreat aura unit threat apply sight => exact ok.elim
  | getHostileTarget attacker => exact inOrder_getHostileTarget h order ok

theorem Kept.step (h : m.Kept) (event : ThreatEvent) (ok : m.KeepsOrder event) :
    (m.step event).Kept :=
  ⟨stable_listed.step h.listed event, inOrder_step h.listed h.order event ok⟩

theorem kept_empty : ({} : ThreatManager).Kept := ⟨listed_empty, Or.inr List.Pairwise.nil⟩

/-- After a run that keeps the order, a call of `getHostileTarget` returns what a sorted list has.
-/
theorem getHostileTarget_selected {events : List ThreatEvent}
    (keeps : Lib.Along ThreatManager.step KeepsOrder {} events) {attacker : Attacker}
    (can : (run {} events).CanSelect attacker) :
    Selected attacker (run {} events).iThreatList (run {} events).currentVictim?
      ((run {} events).getHostileTarget attacker).currentVictim? := by
  have kept : (run {} events).Kept :=
    Lib.run_invariant (I := Kept) (P := KeepsOrder) (fun m event h ok => h.step event ok) kept_empty
      keeps
  rw [getHostileTarget_currentVictim? kept.listed kept.order can]
  exact (selected_update kept.listed kept.order can).congr fun ref => mem_update

end Lists

end ThreatManager

theorem ThreatManager.keepsOrder_of_marks {m : ThreatManager} {unit : Guid} {threat : ℚ}
    (other : m.iCurrentVictim ≠ some unit) (positive : 0 < threat) (sight : Sight) :
    m.KeepsOrder (.addThreat unit threat sight) := by
  refine ⟨fun ref listed => Or.inr (Or.inl (Or.inr ⟨?_, positive⟩)), fun _ =>
    Or.inr (Or.inl positive)⟩
  rw [unit_of_reference? listed]
  exact other

/-- The current victim has 100 threat when unit 2 comes to 140. The unit with the most threat cannot
be attacked, the next is second choice, and another one has gone. -/
def overtaken : List ThreatEvent :=
  [.addThreat 1 100 {}, .addThreat 2 90 {}, .addThreat 3 80 {}, .addThreat 4 70 {},
    .addThreat 5 60 {}, .getHostileTarget {}, .setOnlineOfflineState 5 false, .deleteReference 5,
    .addThreat 3 500 {}, .addThreat 4 400 {}, .addThreat 2 50 {}]

def chooser : Attacker where
  isValidAttackTarget unit := unit ≠ 3
  isLowPriority unit := unit = 4

theorem overtaken_keepsOrder :
    Lib.Along ThreatManager.step ThreatManager.KeepsOrder {} overtaken := by
  have list : (ThreatManager.run {} (overtaken.take 5)).update.iThreatList =
      [{ unit := 1, iThreat := 100 }, { unit := 2, iThreat := 90 }, { unit := 3, iThreat := 80 },
        { unit := 4, iThreat := 70 }, { unit := 5, iThreat := 60 }] := by decide +kernel
  have nobody : (ThreatManager.run {} (overtaken.take 5)).currentVictim? = none := by decide +kernel
  refine ⟨?_, ?_, ?_, ?_, ?_, ⟨fun _ _ => rfl, ⟨?_, ?_⟩, Or.inl ?_⟩, ?_, trivial, ?_,
    ?_, ?_, trivial⟩
  any_goals exact ThreatManager.keepsOrder_of_marks (by decide +kernel) (by norm_num) {}
  · intro current isVictim
    exact absurd (nobody.symm.trans isVictim) nofun
  · intro current isVictim
    exact absurd (nobody.symm.trans isVictim) nofun
  · exact list ▸ by norm_num
  · exact fun _ _ _ online => absurd online Bool.false_ne_true

theorem getHostileTarget_overtaken :
    Selected chooser (ThreatManager.run {} overtaken).iThreatList
        (ThreatManager.run {} overtaken).currentVictim?
        ((ThreatManager.run {} overtaken).getHostileTarget chooser).currentVictim? ∧
      ((ThreatManager.run {} overtaken).getHostileTarget chooser).currentVictim? =
        some { unit := 2, iThreat := 140 } := by
  have list : (ThreatManager.run {} overtaken).update.iThreatList =
      [{ unit := 3, iThreat := 580 }, { unit := 4, iThreat := 470 }, { unit := 2, iThreat := 140 },
        { unit := 1, iThreat := 100 }] := by decide +kernel
  have victim : (ThreatManager.run {} overtaken).currentVictim? =
      some { unit := 1, iThreat := 100 } := by decide +kernel
  refine ⟨ThreatManager.getHostileTarget_selected overtaken_keepsOrder
    ⟨fun _ _ => rfl, ⟨fun current isVictim _ => ?_, fun current isVictim refused => ?_⟩, Or.inl ?_⟩,
    by decide +kernel⟩
  · cases victim.symm.trans isVictim
    norm_num
  · cases victim.symm.trans isVictim
    exact absurd refused (by decide +kernel)
  · rw [list]
    norm_num

/-- Unit 2 falls below unit 3, and the list is not marked. Then the current victim is lost. -/
def lowered : List ThreatEvent :=
  [.addThreat 1 100 {}, .addThreat 2 90 {}, .addThreat 3 80 {}, .getHostileTarget {},
    .addThreat 2 (-60) {}]

theorem getHostileTarget_lowered :
    ¬ Selected { isValidAttackTarget := (· ≠ 1) } (ThreatManager.run {} lowered).iThreatList
      (ThreatManager.run {} lowered).currentVictim?
      ((ThreatManager.run {} lowered).getHostileTarget
        { isValidAttackTarget := (· ≠ 1) }).currentVictim? := by
  have list : (ThreatManager.run {} lowered).iThreatList = [{ unit := 1, iThreat := 100 },
      { unit := 2, iThreat := 30 }, { unit := 3, iThreat := 80 }] := by decide +kernel
  have victim : (ThreatManager.run {} lowered).currentVictim? =
    some { unit := 1, iThreat := 100 } := by
    decide +kernel
  have result : ((ThreatManager.run {} lowered).getHostileTarget
      { isValidAttackTarget := (· ≠ 1) }).currentVictim? = some { unit := 2, iThreat := 30 } := by
    decide +kernel
  rw [list, victim, result]
  intro selected
  have most := (selected.best _ rfl (by decide +kernel)).2 { unit := 3, iThreat := 80 } (by simp)
    (by decide +kernel)
  refine absurd (most ?_) (by norm_num)
  rintro _ ⟨⟩ eligible
  exact absurd eligible (by decide +kernel)

end TortoiseWow.Threat
