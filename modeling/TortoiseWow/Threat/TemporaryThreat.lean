import TortoiseWow.Threat.ThreatManager

/-!
Taunts and temporary threat. A reference has one modification for all of them: the first effect
takes it, and the end of any effect takes it back, where the reference is found. Along a run in
which each end takes back what its own effect had added, no effect leaves anything behind.
-/

namespace TortoiseWow.Threat

/-- What a unit's threat should be: the start with the additive changes, and what each of the
effects still active had added. -/
structure Account where
  base : ℚ
  active : List (Nat × ℚ) := []
  deriving Repr, DecidableEq

namespace Account

def own (account : Account) (aura : Nat) : ℚ :=
  ((account.active.find? (·.1 = aura)).map (·.2)).getD 0

def total (account : Account) : ℚ := account.base + (account.active.map (·.2)).sum

def apply (account : Account) (aura : Nat) (added : ℚ) : Account :=
  { account with active := account.active ++ [(aura, added)] }

def fade (account : Account) (aura : Nat) : Account :=
  { account with active := account.active.eraseP (·.1 = aura) }

end Account

section Watch

variable (unit : Guid)

def ThreatManager.getThreat (m : ThreatManager) : ℚ :=
  ((m.reference? unit).map (·.iThreat)).getD 0

def Account.step (m m' : ThreatManager) (account : Account) : ThreatEvent → Account
  | .addThreat unit' threat _ =>
      if unit' = unit then { account with base := account.base + threat } else account
  | .tauntApply aura unit' _ =>
      if unit' = unit then account.apply aura (m'.getThreat unit - m.getThreat unit) else account
  | .tauntFadeOut aura unit' _ => if unit' = unit then account.fade aura else account
  | .addTempThreat aura unit' _ apply _ =>
      if unit' = unit then
        if apply then account.apply aura (m'.getThreat unit - m.getThreat unit)
        else account.fade aura
      else account
  | _ => account

structure Watched where
  manager : ThreatManager
  account : Account

def Watched.step (w : Watched) (event : ThreatEvent) : Watched :=
  ⟨w.manager.step event, w.account.step unit w.manager (w.manager.step event) event⟩

def Watched.run (w : Watched) (events : List ThreatEvent) : Watched :=
  Lib.run (Watched.step unit) w events

/-- The threat is what it should be, and when no effect is left neither is a modification. -/
structure Exact (w : Watched) (ref : HostileReference) : Prop where
  listed : w.manager.reference? unit = some ref
  threat : ref.iThreat = w.account.total
  residue : w.account.active = [] → ref.iTempThreatModifyer = 0

/-- The modification that an end finds and takes back. -/
def modification (ref : Option HostileReference) : ℚ := (ref.map (·.iTempThreatModifyer)).getD 0

/-- An effect ends where its own modification, and no other effect's, is taken back. -/
def EndsOwn (w : Watched) : ThreatEvent → Prop
  | .tauntFadeOut aura unit' _ =>
      unit' = unit → modification (w.manager.online? unit) = w.account.own aura
  | .addTempThreat aura unit' _ apply _ =>
      unit' = unit → apply = false →
        modification ((w.manager.reference? unit).filter (·.isValid)) = w.account.own aura
  | .modifyThreatPercent unit' _ _ | .addThreatPercent unit' _ _ | .deleteReference unit' =>
      unit' ≠ unit
  | _ => True

end Watch

namespace ThreatManager

variable {m m' : ThreatManager} {unit unit' : Guid} {threat temp : ℚ} {ref : HostileReference}

def Shows (m : ThreatManager) (unit : Guid) (threat temp : ℚ) : Prop :=
  ∃ ref, m.reference? unit = some ref ∧ ref.iThreat = threat ∧ ref.iTempThreatModifyer = temp

theorem Shows.getThreat (h : m.Shows unit threat temp) : m.getThreat unit = threat := by
  obtain ⟨ref, listed, same, -⟩ := h
  simp only [ThreatManager.getThreat, listed, Option.map_some, Option.getD_some, same]

theorem Shows.map (h : m.Shows unit threat temp) {f : HostileReference → HostileReference}
    (mapped : m'.reference? unit = (m.reference? unit).map f) {d e : ℚ}
    (raised : ∀ ref, (f ref).iThreat = ref.iThreat + d)
    (kept : ∀ ref, (f ref).iTempThreatModifyer = ref.iTempThreatModifyer + e) :
    m'.Shows unit (threat + d) (temp + e) := by
  obtain ⟨ref, listed, rfl, rfl⟩ := h
  exact ⟨f ref, by rw [mapped, listed, Option.map_some], raised ref, kept ref⟩

/-- An operation that changes no more than the state of the link. -/
theorem Shows.keep (h : m.Shows unit threat temp) {f : HostileReference → HostileReference}
    (mapped : m'.reference? unit = (m.reference? unit).map f)
    (kept : ∀ ref, (f ref).iThreat = ref.iThreat ∧
      (f ref).iTempThreatModifyer = ref.iTempThreatModifyer) :
    m'.Shows unit threat temp := by
  obtain ⟨ref, listed, rfl, rfl⟩ := h
  exact ⟨f ref, by rw [mapped, listed, Option.map_some], (kept ref).1, (kept ref).2⟩

theorem Shows.change (h : m.Shows unit threat temp) {f : HostileReference → HostileReference}
    (keeps : KeepsUnit f)
    (kept : unit = unit' → ∀ ref, (f ref).iThreat = ref.iThreat ∧
      (f ref).iTempThreatModifyer = ref.iTempThreatModifyer) :
    (m.change unit' f).Shows unit threat temp := by
  refine h.keep (reference?_change keeps) fun ref => ?_
  split
  · rename_i same
    exact kept same ref
  · exact ⟨rfl, rfl⟩

theorem Shows.setOnlineOfflineState (h : m.Shows unit threat temp) (unit' : Guid)
    (isOnline : Bool) :
    (m.setOnlineOfflineState unit' isOnline).Shows unit threat temp := by
  refine h.keep (reference?_setOnlineOfflineState isOnline) fun ref => ?_
  split <;> exact ⟨rfl, rfl⟩

theorem Shows.updateOnlineStatus (h : m.Shows unit threat temp) (unit' : Guid) (sight : Sight) :
    (m.updateOnlineStatus unit' sight).Shows unit threat temp := by
  refine h.keep (reference?_updateOnlineStatus sight) fun ref => ?_
  split <;> exact ⟨rfl, rfl⟩

theorem raise_threat (pMod : ℚ) (sight : Sight) (ref : HostileReference) :
    (raise pMod sight ref).iThreat = ref.iThreat + pMod ∧
      (raise pMod sight ref).iTempThreatModifyer = ref.iTempThreatModifyer := by
  simp only [raise]
  split <;> exact ⟨rfl, rfl⟩

theorem Shows.addThreat_self (h : m.Shows unit threat temp) (pMod : ℚ) (sight : Sight) :
    (m.addThreat unit pMod sight).Shows unit (threat + pMod) temp := by
  rw [← add_zero temp]
  refine h.map (reference?_addThreat pMod sight) (fun ref => ?_) fun ref => ?_
  · rw [if_pos rfl]
    exact (raise_threat pMod sight ref).1
  · rw [if_pos rfl, add_zero]
    exact (raise_threat pMod sight ref).2

theorem Shows.addThreat_other (h : m.Shows unit threat temp) (other : unit ≠ unit') (pMod : ℚ)
    (sight : Sight) : (m.addThreat unit' pMod sight).Shows unit threat temp := by
  refine h.keep (reference?_addThreat pMod sight) fun ref => ?_
  rw [if_neg other]
  exact ⟨rfl, rfl⟩

theorem Shows.append (h : m.Shows unit threat temp) (ref : HostileReference) :
    ({ m with refs := m.refs ++ [ref] } : ThreatManager).Shows unit threat temp := by
  obtain ⟨ref', listed, values⟩ := h
  refine ⟨ref', ?_, values⟩
  simp only [reference?, List.find?_append] at listed ⊢
  rw [listed]
  rfl

theorem Shows.addThreatDirectly_self (h : m.Shows unit threat temp) (pMod : ℚ) (sight : Sight) :
    (m.addThreatDirectly unit pMod sight).Shows unit (threat + pMod) temp := by
  obtain ⟨ref, listed, values⟩ := h
  rw [addThreatDirectly, listed]
  exact Shows.addThreat_self ⟨ref, listed, values⟩ pMod sight

theorem Shows.addThreatDirectly_other (h : m.Shows unit threat temp) (other : unit ≠ unit')
    (pMod : ℚ) (sight : Sight) :
    (m.addThreatDirectly unit' pMod sight).Shows unit threat temp := by
  rw [addThreatDirectly]
  split
  · exact h.addThreat_other other pMod sight
  · have added := (h.append { unit := unit', iThreat := 0 }).addThreat_other other pMod sight
    dsimp only
    split
    · exact added.setOnlineOfflineState unit' false
    · exact added

theorem Shows.removed (h : m.Shows unit threat temp) (other : unit ≠ unit') :
    (m.removed unit').Shows unit threat temp := by
  obtain ⟨ref, listed, values⟩ := h
  refine ⟨ref, ?_, values⟩
  have kept : ({ m with refs := m.refs.filter (·.unit ≠ unit') } : ThreatManager).reference? unit =
      some ref := by
    rw [reference?, List.find?_filter]
    refine Eq.trans ?_ listed
    rw [reference?]
    congr 1
    funext ref'
    by_cases same : ref'.unit = unit
    · simp [same, other]
    · simp [same]
  rw [ThreatManager.removed]
  dsimp only
  split <;> exact kept

theorem Shows.deleteReference (h : m.Shows unit threat temp) (other : unit ≠ unit') :
    (m.deleteReference unit').Shows unit threat temp := by
  rw [ThreatManager.deleteReference]
  split
  · exact h
  · exact h.removed other

theorem Shows.setTempThreatModifier_self (h : m.Shows unit threat temp) (same : ref.unit = unit)
    (value : ℚ) (sight : Sight) :
    (m.setTempThreatModifier ref value sight).Shows unit (threat + value) value := by
  subst same
  refine Shows.addThreat_self ?_ value sight
  obtain ⟨ref', listed, values, -⟩ := h
  have keeps : KeepsUnit fun ref => { ref with iTempThreatModifyer := value } := fun _ => rfl
  refine ⟨{ ref' with iTempThreatModifyer := value }, ?_, values, rfl⟩
  rw [reference?_change keeps, listed, Option.map_some, if_pos rfl]

theorem Shows.setTempThreatModifier_other (h : m.Shows unit threat temp) (other : unit ≠ ref.unit)
    (value : ℚ) (sight : Sight) :
    (m.setTempThreatModifier ref value sight).Shows unit threat temp := by
  refine Shows.addThreat_other ?_ other value sight
  exact h.change (fun _ => rfl) fun same => absurd same other

theorem Shows.setTempThreat_other (h : m.Shows unit threat temp) (other : unit ≠ ref.unit)
    (value : ℚ) (sight : Sight) : (m.setTempThreat ref value sight).Shows unit threat temp := by
  rw [setTempThreat]
  split
  · exact h.setTempThreatModifier_other other _ sight
  · exact h.change (fun _ => rfl) fun same => absurd same other

theorem Shows.resetTempThreat_self (h : m.Shows unit threat temp)
    (listed : m.reference? unit = some ref) (sight : Sight) :
    (m.resetTempThreat ref sight).Shows unit (threat - temp) 0 := by
  have same := unit_of_reference? listed
  obtain ⟨ref', listed', rfl, rfl⟩ := h
  cases listed.symm.trans listed'
  rw [resetTempThreat]
  split
  · rename_i unused
    exact ⟨ref, listed, by rw [unused, sub_zero], unused⟩
  · rename_i used
    have lowered := Shows.addThreat_self ⟨ref, listed, rfl, rfl⟩ (-ref.iTempThreatModifyer) sight
    obtain ⟨low, found, value, -⟩ := lowered
    have keeps : KeepsUnit fun ref => { ref with iTempThreatModifyer := 0 } := fun _ => rfl
    refine ⟨{ low with iTempThreatModifyer := 0 }, ?_, ?_, rfl⟩
    · rw [reference?_change keeps, same, found, Option.map_some, if_pos rfl]
    · rw [sub_eq_add_neg]
      exact value

theorem Shows.resetTempThreat_other (h : m.Shows unit threat temp) (other : unit ≠ ref.unit)
    (sight : Sight) : (m.resetTempThreat ref sight).Shows unit threat temp := by
  rw [resetTempThreat]
  split
  · exact h
  · exact (h.addThreat_other other _ sight).change (fun _ => rfl) fun same => absurd same other

theorem Shows.invalidate (h : m.Shows unit threat temp) (unit' : Guid) :
    (m.invalidate unit').Shows unit threat temp :=
  (h.setOnlineOfflineState unit' false).change (fun _ => rfl) fun _ _ => ⟨rfl, rfl⟩

theorem Shows.getHostileTarget (h : m.Shows unit threat temp) (distinct : m.Distinct)
    (attacker : Attacker) : (m.getHostileTarget attacker).Shows unit threat temp := by
  obtain ⟨ref, listed, values⟩ := h
  exact ⟨ref, (reference?_update distinct).trans listed, values⟩

theorem online?_eq_some (online : m.online? unit = some ref) : m.reference? unit = some ref :=
  (Option.filter_eq_some_iff.mp online).1

theorem Shows.modifyThreatPercent (h : m.Shows unit threat temp) (other : unit ≠ unit')
    (percent : Int) (sight : Sight) :
    (m.modifyThreatPercent unit' percent sight).Shows unit threat temp := by
  rw [ThreatManager.modifyThreatPercent]
  split
  · exact h
  · rename_i ref online
    split
    · exact h.removed other
    · refine h.addThreat_other ?_ _ sight
      rw [unit_of_reference? (online?_eq_some online)]
      exact other

theorem Shows.addThreatPercentOf (h : m.Shows unit threat temp) (other : unit ≠ unit')
    (percent : Int) (sight : Sight) :
    (m.addThreatPercentOf unit' percent sight).Shows unit threat temp := by
  rw [ThreatManager.addThreatPercentOf]
  split
  · exact h
  · rename_i ref linked
    refine h.addThreat_other ?_ _ sight
    rw [unit_of_reference? (Option.filter_eq_some_iff.mp linked).1]
    exact other

theorem Shows.tauntApply (h : m.Shows unit threat temp) (unit' : Guid) (sight : Sight) :
    ∃ added, (m.tauntApply unit' sight).Shows unit (threat + added) (temp + added) ∧
      (unit' ≠ unit → added = 0) := by
  have unchanged : ∃ added, m.Shows unit (threat + added) (temp + added) ∧
      (unit' ≠ unit → added = 0) := ⟨0, by simpa only [add_zero] using h, fun _ => rfl⟩
  rw [ThreatManager.tauntApply]
  split
  · rename_i ref victim online current
    have unitIs := unit_of_reference? (online?_eq_some online)
    split
    · rename_i taunted
      by_cases same : unit' = unit
      · subst same
        refine ⟨victim.iThreat - ref.iThreat, ?_, fun other => absurd rfl other⟩
        have raised : victim.iThreat - ref.iThreat ≠ 0 := (sub_pos.mpr taunted.1).ne'
        have unused : temp = 0 := by
          obtain ⟨ref', listed, -, temp⟩ := h
          cases listed.symm.trans (online?_eq_some online)
          exact temp.symm.trans taunted.2
        rw [setTempThreat, if_pos raised, unused, zero_add]
        exact h.setTempThreatModifier_self unitIs _ sight
      · refine ⟨0, ?_, fun _ => rfl⟩
        rw [add_zero, add_zero]
        exact h.setTempThreat_other (by rw [unitIs]; exact Ne.symm same) _ sight
    · exact unchanged
  · exact unchanged

theorem Shows.modification (h : m.Shows unit threat temp) {p : HostileReference → Bool}
    (found : (m.reference? unit).filter p = some ref) : ref.iTempThreatModifyer = temp := by
  obtain ⟨ref', listed, -, temp⟩ := h
  cases listed.symm.trans (Option.filter_eq_some_iff.mp found).1
  exact temp

/-- What the end of an effect takes back. -/
theorem Shows.taken (h : m.Shows unit threat temp) (p : HostileReference → Bool) (sight : Sight) :
    (match (m.reference? unit).filter p with
      | none => m
      | some ref => m.resetTempThreat ref sight).Shows unit
        (threat - Threat.modification ((m.reference? unit).filter p))
        (temp - Threat.modification ((m.reference? unit).filter p)) := by
  cases found : (m.reference? unit).filter p with
  | none => simpa only [Threat.modification, Option.map_none, Option.getD_none, sub_zero] using h
  | some ref =>
      have taken := h.resetTempThreat_self (Option.filter_eq_some_iff.mp found).1 sight
      simpa only [Threat.modification, Option.map_some, Option.getD_some, h.modification found,
        sub_self] using taken

theorem Shows.tauntFadeOut_self (h : m.Shows unit threat temp) (sight : Sight) :
    (m.tauntFadeOut unit sight).Shows unit (threat - Threat.modification (m.online? unit))
      (temp - Threat.modification (m.online? unit)) :=
  h.taken (·.iOnline) sight

theorem Shows.tauntFadeOut_other (h : m.Shows unit threat temp) (other : unit ≠ unit')
    (sight : Sight) : (m.tauntFadeOut unit' sight).Shows unit threat temp := by
  rw [ThreatManager.tauntFadeOut]
  split
  · exact h
  · rename_i ref online
    refine h.resetTempThreat_other ?_ sight
    rw [unit_of_reference? (online?_eq_some online)]
    exact other

theorem Shows.addTempThreat_apply (h : m.Shows unit threat temp) (unit' : Guid) (value : ℚ)
    (sight : Sight) :
    ∃ added, (m.addTempThreat unit' value true sight).Shows unit (threat + added) (temp + added) ∧
      (unit' ≠ unit → added = 0) := by
  have unchanged : ∃ added, m.Shows unit (threat + added) (temp + added) ∧
      (unit' ≠ unit → added = 0) := ⟨0, by simpa only [add_zero] using h, fun _ => rfl⟩
  rw [ThreatManager.addTempThreat]
  split
  · exact unchanged
  · rename_i ref linked
    have unitIs := unit_of_reference? (Option.filter_eq_some_iff.mp linked).1
    rw [if_neg Bool.true_eq_false.mp]
    split
    · rename_i unused
      by_cases same : unit' = unit
      · subst same
        refine ⟨value, ?_, fun other => absurd rfl other⟩
        rw [← h.modification linked, unused, zero_add]
        exact h.setTempThreatModifier_self unitIs value sight
      · refine ⟨0, ?_, fun _ => rfl⟩
        rw [add_zero, add_zero]
        exact h.setTempThreatModifier_other (by rw [unitIs]; exact Ne.symm same) value sight
    · exact unchanged

theorem Shows.addTempThreat_end (h : m.Shows unit threat temp) (value : ℚ) (sight : Sight) :
    (m.addTempThreat unit value false sight).Shows unit
      (threat - Threat.modification ((m.reference? unit).filter (·.isValid)))
      (temp - Threat.modification ((m.reference? unit).filter (·.isValid))) :=
  h.taken (·.isValid) sight

theorem Shows.addTempThreat_other (h : m.Shows unit threat temp) (other : unit ≠ unit')
    (value : ℚ) (sight : Sight) :
    (m.addTempThreat unit' value false sight).Shows unit threat temp := by
  rw [ThreatManager.addTempThreat]
  split
  · exact h
  · rename_i ref linked
    refine h.resetTempThreat_other ?_ sight
    rw [unit_of_reference? (Option.filter_eq_some_iff.mp linked).1]
    exact other

end ThreatManager

section Watch

variable {unit : Guid} {w : Watched}

/-- All that is modified is what the active effects had added. -/
structure Tracked (unit : Guid) (w : Watched) : Prop where
  distinct : w.manager.Distinct
  shows : w.manager.Shows unit w.account.total (w.account.active.map (·.2)).sum

theorem Account.total_apply (account : Account) (aura : Nat) (added : ℚ) :
    (account.apply aura added).total = account.total + added := by
  simp only [total, apply, List.map_append, List.sum_append, List.map_cons, List.map_nil,
    List.sum_singleton, add_assoc]

theorem Account.sum_fade (account : Account) (aura : Nat) :
    ((account.fade aura).active.map (·.2)).sum =
      (account.active.map (·.2)).sum - account.own aura := by
  simp only [fade, own]
  induction account.active with
  | nil => simp
  | cons effect rest ih =>
      by_cases this : effect.1 = aura
      · simp [this]
      · simp only [List.eraseP_cons, this, decide_false, List.map_cons, List.sum_cons,
          List.find?_cons, cond_false, ih]
        ring

theorem Account.total_fade (account : Account) (aura : Nat) :
    (account.fade aura).total = account.total - account.own aura := by
  rw [total, sum_fade, ← add_sub_assoc]
  rfl

variable {m' : ThreatManager}

theorem Tracked.apply (h : Tracked unit w) (distinct : m'.Distinct) (aura : Nat) (added : ℚ)
    (shows' : m'.Shows unit (w.account.total + added) ((w.account.active.map (·.2)).sum + added)) :
    Tracked unit ⟨m', w.account.apply aura (m'.getThreat unit - w.manager.getThreat unit)⟩ := by
  have difference : m'.getThreat unit - w.manager.getThreat unit = added := by
    rw [shows'.getThreat, h.shows.getThreat, add_sub_cancel_left]
  rw [difference]
  refine ⟨distinct, ?_⟩
  dsimp only
  rw [Account.total_apply]
  simpa only [Account.apply, List.map_append, List.sum_append, List.map_cons, List.map_nil,
    List.sum_singleton] using shows'

theorem Tracked.fade (distinct : m'.Distinct) (aura : Nat)
    (shows' : m'.Shows unit (w.account.total - w.account.own aura)
      ((w.account.active.map (·.2)).sum - w.account.own aura)) :
    Tracked unit ⟨m', w.account.fade aura⟩ := by
  refine ⟨distinct, ?_⟩
  dsimp only
  rw [Account.total_fade, Account.sum_fade]
  exact shows'

theorem Tracked.step (h : Tracked unit w) (event : ThreatEvent) (ends : EndsOwn unit w event) :
    Tracked unit (w.step unit event) := by
  have distinct := ThreatManager.stable_distinct.step h.distinct event
  revert ends distinct
  generalize moved : w.manager.step event = m'
  intro ends distinct
  change Tracked unit
    ⟨w.manager.step event, w.account.step unit w.manager (w.manager.step event) event⟩
  rw [moved]
  cases event with
  | addThreat unit' threat sight =>
      subst moved
      simp only [Account.step]
      split
      · rename_i same
        subst same
        refine ⟨distinct, ?_⟩
        have raised := h.shows.addThreatDirectly_self threat sight
        rwa [Account.total, add_right_comm] at raised
      · rename_i other
        exact ⟨distinct, h.shows.addThreatDirectly_other (Ne.symm other) threat sight⟩
  | modifyThreatPercent unit' percent sight =>
      subst moved
      exact ⟨distinct, h.shows.modifyThreatPercent (Ne.symm ends) percent sight⟩
  | addThreatPercent unit' percent sight =>
      subst moved
      exact ⟨distinct, h.shows.addThreatPercentOf (Ne.symm ends) percent sight⟩
  | setOnlineOfflineState unit' isOnline =>
      subst moved
      exact ⟨distinct, h.shows.setOnlineOfflineState unit' isOnline⟩
  | updateOnlineStatus unit' sight =>
      subst moved
      exact ⟨distinct, h.shows.updateOnlineStatus unit' sight⟩
  | invalidate unit' =>
      subst moved
      exact ⟨distinct, h.shows.invalidate unit'⟩
  | deleteReference unit' =>
      subst moved
      exact ⟨distinct, h.shows.deleteReference (Ne.symm ends)⟩
  | tauntApply aura unit' sight =>
      obtain ⟨added, shows', other⟩ := h.shows.tauntApply unit' sight
      change w.manager.tauntApply unit' sight = m' at moved
      rw [moved] at shows'
      simp only [Account.step]
      split
      · exact h.apply distinct aura added shows'
      · rename_i elsewhere
        rw [other elsewhere, add_zero, add_zero] at shows'
        exact ⟨distinct, shows'⟩
  | tauntFadeOut aura unit' sight =>
      subst moved
      simp only [Account.step]
      split
      · rename_i same
        subst same
        have shows' := h.shows.tauntFadeOut_self sight
        rw [ends rfl] at shows'
        exact Tracked.fade distinct aura shows'
      · rename_i other
        exact ⟨distinct, h.shows.tauntFadeOut_other (Ne.symm other) sight⟩
  | addTempThreat aura unit' threat apply sight =>
      cases apply with
      | true =>
          obtain ⟨added, shows', other⟩ := h.shows.addTempThreat_apply unit' threat sight
          change w.manager.addTempThreat unit' threat true sight = m' at moved
          rw [moved] at shows'
          simp only [Account.step, if_true]
          split
          · exact h.apply distinct aura added shows'
          · rename_i elsewhere
            rw [other elsewhere, add_zero, add_zero] at shows'
            exact ⟨distinct, shows'⟩
      | false =>
          subst moved
          simp only [Account.step, Bool.false_eq_true, if_false]
          split
          · rename_i same
            subst same
            have shows' := h.shows.addTempThreat_end threat sight
            rw [ends rfl rfl] at shows'
            exact Tracked.fade distinct aura shows'
          · rename_i other
            exact ⟨distinct, h.shows.addTempThreat_other (Ne.symm other) threat sight⟩
  | getHostileTarget attacker =>
      subst moved
      exact ⟨distinct, h.shows.getHostileTarget h.distinct attacker⟩

theorem Tracked.exact (h : Tracked unit w) : ∃ ref, Exact unit w ref := by
  obtain ⟨ref, listed, threat, temp⟩ := h.shows
  refine ⟨ref, listed, threat, fun ended => ?_⟩
  rw [temp, ended]
  rfl

/-- Where each effect takes back its own modification, threat is exact in every state. -/
theorem temporary_threat {m : ThreatManager} {ref : HostileReference} (distinct : m.Distinct)
    (listed : m.reference? unit = some ref) (fresh : ref.iTempThreatModifyer = 0)
    (events : List ThreatEvent)
    (ends : Lib.Along (Watched.step unit) (EndsOwn unit) ⟨m, { base := ref.iThreat }⟩ events) :
    ∃ ref', Exact unit (Watched.run unit ⟨m, { base := ref.iThreat }⟩ events) ref' := by
  have start : Tracked unit ⟨m, { base := ref.iThreat }⟩ :=
    ⟨distinct, ref, listed, (add_zero _).symm, fresh⟩
  have tracked : Tracked unit (Watched.run unit ⟨m, { base := ref.iThreat }⟩ events) :=
    Lib.run_invariant (I := Tracked unit) (P := EndsOwn unit)
      (fun w event h ends => h.step event ends) start ends
  exact tracked.exact

end Watch

def fighting : ThreatManager where
  refs := [{ unit := 1, iThreat := 100 }, { unit := 2, iThreat := 40 }]
  iCurrentVictim := some 1

def taunted : List ThreatEvent :=
  [.tauntApply 0 2 {}, .addThreat 2 5 {}, .setOnlineOfflineState 2 false,
    .setOnlineOfflineState 2 true, .tauntFadeOut 0 2 {}]

theorem temporary_threat_taunted :
    ∃ ref, Exact 2 (Watched.run 2 ⟨fighting, { base := 40 }⟩ taunted) ref :=
  @temporary_threat 2 fighting { unit := 2, iThreat := 40 }
    (by simp [ThreatManager.Distinct, fighting])
    (by decide +kernel) rfl taunted
    ⟨trivial, trivial, trivial, trivial, fun _ => by decide +kernel, trivial⟩

/-- The taunt ends while the unit is offline. -/
theorem taunt_left_behind :
    ¬ ∃ ref, Exact 2 (Watched.run 2 ⟨fighting, { base := 40 }⟩
      [.tauntApply 0 2 {}, .setOnlineOfflineState 2 false, .tauntFadeOut 0 2 {},
        .setOnlineOfflineState 2 true]) ref := by
  rintro ⟨ref, exact⟩
  have listed := exact.listed
  have residue := exact.residue (by decide +kernel)
  have left : (Watched.run 2 ⟨fighting, { base := 40 }⟩
      [.tauntApply 0 2 {}, .setOnlineOfflineState 2 false, .tauntFadeOut 0 2 {},
        .setOnlineOfflineState 2 true]).manager.reference? 2 =
      some { unit := 2, iThreat := 100, iTempThreatModifyer := 60 } := by
    decide +kernel
  rw [left] at listed
  cases listed
  exact absurd residue (by norm_num)

end TortoiseWow.Threat
