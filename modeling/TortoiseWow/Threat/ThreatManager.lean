import TortoiseWow.Lib.Run

/-!
The threat lists of a creature. The online and the offline list are kept as one, with the state
of each reference in it; a reference that changes its state goes to the end. Threat is a rational
number, and there is one reference to a unit. What a pet's owner gets with it is an addition of
its own.
-/

namespace TortoiseWow.Threat

abbrev Guid := UInt64

structure HostileReference where
  unit : Guid
  iThreat : ℚ
  iTempThreatModifyer : ℚ := 0
  iOnline : Bool := true
  /-- The link to the unit stands. -/
  isValid : Bool := true
  deriving Repr, DecidableEq

structure ThreatManager where
  refs : List HostileReference := []
  iDirty : Bool := false
  iCurrentVictim : Option Guid := none
  deriving Repr, DecidableEq

/-- What is found out about a unit: whether it is in the world, and not a gamemaster in flight. -/
structure Sight where
  found : Bool := true
  attackable : Bool := true
  isGameMaster : Bool := false
  deriving Repr, DecidableEq

namespace ThreatManager

variable (m : ThreatManager)

def iThreatList : List HostileReference := m.refs.filter (·.iOnline)

def reference? (unit : Guid) : Option HostileReference := m.refs.find? (·.unit = unit)

def online? (unit : Guid) : Option HostileReference := (m.reference? unit).filter (·.iOnline)

def currentVictim? : Option HostileReference := m.iCurrentVictim.bind m.reference?

def setDirty : ThreatManager := { m with iDirty := true }

def change (unit : Guid) (f : HostileReference → HostileReference) : ThreatManager :=
  { m with refs := m.refs.map fun ref => if ref.unit = unit then f ref else ref }

/-- The reference is taken out of its list and put at the end of the other one. -/
def relist (ref : HostileReference) : ThreatManager :=
  { m with refs := m.refs.filter (·.unit ≠ ref.unit) ++ [ref] }

def threatChanged (unit : Guid) (value : ℚ) : ThreatManager :=
  if m.iCurrentVictim = some unit ∧ value < 0 ∨ m.iCurrentVictim ≠ some unit ∧ 0 < value
    then m.setDirty
  else m

def wentOffline (ref : HostileReference) : ThreatManager :=
  let m' := m.relist { ref with iOnline := false }
  if m.iCurrentVictim = some ref.unit then { m'.setDirty with iCurrentVictim := none } else m'

def cameOnline (ref : HostileReference) : ThreatManager :=
  let m' := m.relist { ref with iOnline := true }
  if m.currentVictim?.any fun victim => 11 / 10 * victim.iThreat < ref.iThreat then m'.setDirty
  else m'

def removed (unit : Guid) : ThreatManager :=
  let m' := { m with refs := m.refs.filter (·.unit ≠ unit) }
  if m.iCurrentVictim = some unit then { m'.setDirty with iCurrentVictim := none } else m'

def setOnlineOfflineState (unit : Guid) (isOnline : Bool) : ThreatManager :=
  match m.reference? unit with
  | none => m
  | some ref =>
      if ref.iOnline = isOnline then m
      else if isOnline then m.cameOnline ref
      else m.wentOffline ref

def updateOnlineStatus (unit : Guid) (sight : Sight) : ThreatManager :=
  let m := m.change unit fun ref => { ref with isValid := ref.isValid || sight.found }
  m.setOnlineOfflineState unit ((m.reference? unit).any (·.isValid) && sight.attackable)

def addThreat (unit : Guid) (pMod : ℚ) (sight : Sight) : ThreatManager :=
  let m := m.change unit fun ref => { ref with iThreat := ref.iThreat + pMod }
  let m := if (m.online? unit).isSome then m else m.updateOnlineStatus unit sight
  if pMod ≠ 0 then m.threatChanged unit pMod else m

/-- For the special -100 case rounding is avoided. -/
def percentOf (ref : HostileReference) (pPercent : Int) : ℚ :=
  if pPercent = -100 then -ref.iThreat else ref.iThreat * pPercent / 100

def addThreatPercent (ref : HostileReference) (pPercent : Int) (sight : Sight) : ThreatManager :=
  m.addThreat ref.unit (percentOf ref pPercent) sight

def setTempThreatModifier (ref : HostileReference) (threat : ℚ) (sight : Sight) : ThreatManager :=
  (m.change ref.unit fun ref => { ref with iTempThreatModifyer := threat }).addThreat
    ref.unit threat
    sight

def setTempThreat (ref : HostileReference) (pThreat : ℚ) (sight : Sight) : ThreatManager :=
  if pThreat - ref.iThreat ≠ 0 then m.setTempThreatModifier ref (pThreat - ref.iThreat) sight
  else m.change ref.unit fun ref => { ref with iTempThreatModifyer := 0 }

def resetTempThreat (ref : HostileReference) (sight : Sight) : ThreatManager :=
  if ref.iTempThreatModifyer = 0 then m
  else
    (m.addThreat ref.unit (-ref.iTempThreatModifyer) sight).change ref.unit fun ref =>
      { ref with iTempThreatModifyer := 0 }

/-- The link is cut because the unit is destroyed. -/
def invalidate (unit : Guid) : ThreatManager :=
  (m.setOnlineOfflineState unit false).change unit fun ref => { ref with isValid := false }

def addThreatDirectly (unit : Guid) (threat : ℚ) (sight : Sight) : ThreatManager :=
  match m.reference? unit with
  | some _ => m.addThreat unit threat sight
  | none =>
      -- threat has to be 0 here
      let m : ThreatManager := { m with refs := m.refs ++ [{ unit := unit, iThreat := 0 }] }
      let m := m.addThreat unit threat sight
      if sight.isGameMaster then m.setOnlineOfflineState unit false else m

def modifyThreatPercent (unit : Guid) (pPercent : Int) (sight : Sight) : ThreatManager :=
  match m.online? unit with
  | none => m
  | some ref =>
      if pPercent < -100 then m.removed unit else m.addThreatPercent ref pPercent sight

def tauntApply (unit : Guid) (sight : Sight) : ThreatManager :=
  match m.online? unit, m.currentVictim? with
  | some ref, some victim =>
      -- the temp threat is unused
      if ref.iThreat < victim.iThreat ∧ ref.iTempThreatModifyer = 0 then
        m.setTempThreat ref victim.iThreat sight
      else m
  | _, _ => m

def tauntFadeOut (unit : Guid) (sight : Sight) : ThreatManager :=
  match m.online? unit with
  | none => m
  | some ref => m.resetTempThreat ref sight

def addTempThreat (unit : Guid) (threat : ℚ) (apply : Bool) (sight : Sight) : ThreatManager :=
  match (m.reference? unit).filter (·.isValid) with
  | none => m
  | some ref =>
      if apply = false then m.resetTempThreat ref sight
      else if ref.iTempThreatModifyer = 0 then m.setTempThreatModifier ref threat sight
      else m

def addThreatPercentOf (unit : Guid) (pValue : Int) (sight : Sight) : ThreatManager :=
  match (m.reference? unit).filter (·.isValid) with
  | none => m
  | some ref => m.addThreatPercent ref pValue sight

/-- `deleteReferences` of the unit's `HostileRefManager`, which has the references that are linked.
Their list is the online or the offline one. -/
def deleteReference (unit : Guid) : ThreatManager :=
  match (m.reference? unit).filter (·.isValid) with
  | none => m
  | some _ => m.removed unit

/-- Not behind: `std::list::sort` with `HostileReferenceSortPredicate` leaves such a pair. -/
def Before (lhs rhs : HostileReference) : Prop := rhs.iThreat ≤ lhs.iThreat

instance decidableBefore : DecidableRel Before := fun lhs rhs =>
  inferInstanceAs (Decidable (rhs.iThreat ≤ lhs.iThreat))

def update : ThreatManager :=
  if m.iDirty then
    { m with
      refs := m.iThreatList.insertionSort Before ++ m.refs.filter (!·.iOnline)
      iDirty := false }
  else m

end ThreatManager

/-- What the creature sees of the units it hates. -/
structure Attacker where
  isOutOfThreatArea : Guid → Bool := fun _ => false
  isValidAttackTarget : Guid → Bool := fun _ => true
  /-- Immune to its damage, second choice, or out of reach of a creature that cannot move. -/
  isLowPriority : Guid → Bool := fun _ => false
  canReachWithMeleeAutoAttack : Guid → Bool := fun _ => true

/-- How a walk through the list ends: the creature leaves its area, a victim is found, or the
list is through, with what is left of the current victim. -/
inductive Walk where
  | outOfArea
  | found (ref : HostileReference)
  | passed (currentVictim : Option HostileReference)
  deriving Repr, DecidableEq

namespace Attacker

variable (attacker : Attacker)

/-- The unit may be chosen in this attempt. -/
def accepts (allowLowPriorityTargets : Bool) (unit : Guid) : Bool :=
  attacker.isValidAttackTarget unit && (allowLowPriorityTargets || !attacker.isLowPriority unit)

def overtakes (ref victim : HostileReference) : Bool :=
  13 / 10 * victim.iThreat < ref.iThreat ||
    11 / 10 * victim.iThreat < ref.iThreat && attacker.canReachWithMeleeAutoAttack ref.unit

def walk (allowLowPriorityTargets : Bool) :
    List HostileReference → Option HostileReference → Walk
  | [], pCurrentVictim => .passed pCurrentVictim
  | ref :: rest, pCurrentVictim =>
      if attacker.isOutOfThreatArea ref.unit then .outOfArea
      else if attacker.accepts allowLowPriorityTargets ref.unit = false then
        walk allowLowPriorityTargets rest
          (if pCurrentVictim.any (·.unit = ref.unit) then none else pCurrentVictim)
      else
        match pCurrentVictim with
        | none => .found ref
        | some victim =>
            -- the list is sorted, so the current victim is the best case
            if victim.unit = ref.unit ∨ ref.iThreat ≤ 11 / 10 * victim.iThreat then .found victim
            else if attacker.overtakes ref victim then .found ref
            else walk allowLowPriorityTargets rest pCurrentVictim

def selectNextVictim (list : List HostileReference) (pCurrentVictim : Option HostileReference) :
    Option HostileReference :=
  match attacker.walk false list pCurrentVictim with
  | .outOfArea => none
  | .found ref => some ref
  | .passed pCurrentVictim =>
      match attacker.walk true list pCurrentVictim with
      | .found ref => some ref
      | .outOfArea | .passed _ => none

end Attacker

namespace ThreatManager

variable (m : ThreatManager)

def getHostileTarget (attacker : Attacker) : ThreatManager :=
  let m := m.update
  { m with
    iCurrentVictim := (attacker.selectNextVictim m.iThreatList m.currentVictim?).map (·.unit) }

end ThreatManager

/-- `aura` tells the taunts and the temporary effects apart; the code does not see it. -/
inductive ThreatEvent where
  | addThreat (unit : Guid) (threat : ℚ) (sight : Sight)
  | modifyThreatPercent (unit : Guid) (percent : Int) (sight : Sight)
  | addThreatPercent (unit : Guid) (percent : Int) (sight : Sight)
  | setOnlineOfflineState (unit : Guid) (isOnline : Bool)
  | updateOnlineStatus (unit : Guid) (sight : Sight)
  | invalidate (unit : Guid)
  | deleteReference (unit : Guid)
  | tauntApply (aura : Nat) (unit : Guid) (sight : Sight)
  | tauntFadeOut (aura : Nat) (unit : Guid) (sight : Sight)
  | addTempThreat (aura : Nat) (unit : Guid) (threat : ℚ) (apply : Bool) (sight : Sight)
  | getHostileTarget (attacker : Attacker)

namespace ThreatManager

def step (m : ThreatManager) : ThreatEvent → ThreatManager
  | .addThreat unit threat sight => m.addThreatDirectly unit threat sight
  | .modifyThreatPercent unit percent sight => m.modifyThreatPercent unit percent sight
  | .addThreatPercent unit percent sight => m.addThreatPercentOf unit percent sight
  | .setOnlineOfflineState unit isOnline => m.setOnlineOfflineState unit isOnline
  | .updateOnlineStatus unit sight => m.updateOnlineStatus unit sight
  | .invalidate unit => m.invalidate unit
  | .deleteReference unit => m.deleteReference unit
  | .tauntApply _ unit sight => m.tauntApply unit sight
  | .tauntFadeOut _ unit sight => m.tauntFadeOut unit sight
  | .addTempThreat _ unit threat apply sight => m.addTempThreat unit threat apply sight
  | .getHostileTarget attacker => m.getHostileTarget attacker

def run (m : ThreatManager) (events : List ThreatEvent) : ThreatManager := Lib.run step m events

end ThreatManager

namespace ThreatManager

variable {m : ThreatManager} {unit unit' : Guid} {ref : HostileReference}

def Distinct (m : ThreatManager) : Prop := (m.refs.map (·.unit)).Nodup

theorem unit_of_reference? (h : m.reference? unit = some ref) : ref.unit = unit := by
  have found := List.find?_some h
  exact of_decide_eq_true found

theorem reference?_eq_some (distinct : m.Distinct) :
    m.reference? unit = some ref ↔ ref ∈ m.refs ∧ ref.unit = unit := by
  constructor
  · intro h
    exact ⟨List.mem_of_find?_eq_some h, unit_of_reference? h⟩
  · rintro ⟨listed, same⟩
    cases found : m.reference? unit with
    | none => exact absurd (decide_eq_true same) (List.find?_eq_none.mp found ref listed)
    | some other =>
        have also := unit_of_reference? found
        rw [List.inj_on_of_nodup_map distinct (List.mem_of_find?_eq_some found) listed
          (also.trans same.symm)]

def KeepsUnit (f : HostileReference → HostileReference) : Prop := ∀ ref, (f ref).unit = ref.unit

theorem reference?_change {f : HostileReference → HostileReference} (keeps : KeepsUnit f) :
    (m.change unit' f).reference? unit =
      (m.reference? unit).map fun ref => if unit = unit' then f ref else ref := by
  simp only [reference?, change, List.find?_map]
  have same : ((fun ref : HostileReference => decide (ref.unit = unit)) ∘
      fun ref => if ref.unit = unit' then f ref else ref) =
        fun ref => decide (ref.unit = unit) := by
    funext ref
    simp only [Function.comp]
    split
    · rw [keeps]
    · rfl
  rw [same]
  cases found : m.refs.find? (·.unit = unit) with
  | none => rfl
  | some ref =>
      have same : ref.unit = unit := unit_of_reference? (m := m) found
      simp only [Option.map_some, same]

theorem reference?_relist :
    (m.relist ref).reference? unit = if unit = ref.unit then some ref else m.reference? unit := by
  simp only [reference?, relist, List.find?_append]
  by_cases same : unit = ref.unit
  · subst same
    have gone : (m.refs.filter (·.unit ≠ ref.unit)).find? (·.unit = ref.unit) = none :=
      List.find?_eq_none.mpr fun other listed => by simpa using (List.mem_filter.mp listed).2
    rw [gone]
    simp
  · have kept : (m.refs.filter (·.unit ≠ ref.unit)).find? (·.unit = unit) =
        m.refs.find? (·.unit = unit) := by
      rw [List.find?_filter]
      congr 1
      funext other
      by_cases this : other.unit = unit
      · simp [this, same]
      · simp [this]
    rw [kept]
    simp [same, Ne.symm same]

@[simp] theorem reference?_threatChanged (value : ℚ) :
    (m.threatChanged unit' value).reference? unit = m.reference? unit := by
  simp only [threatChanged]
  split <;> rfl

theorem reference?_congr {m m' : ThreatManager} (refs : m.refs = m'.refs) (unit : Guid) :
    m.reference? unit = m'.reference? unit := by
  simp only [reference?, refs]

theorem refs_cameOnline (ref : HostileReference) :
    (m.cameOnline ref).refs = (m.relist { ref with iOnline := true }).refs := by
  simp only [cameOnline]
  split <;> rfl

theorem refs_wentOffline (ref : HostileReference) :
    (m.wentOffline ref).refs = (m.relist { ref with iOnline := false }).refs := by
  simp only [wentOffline]
  split <;> rfl

theorem refs_setOnlineOfflineState {isOnline : Bool} (found : m.reference? unit' = some ref)
    (other : ref.iOnline ≠ isOnline) :
    (m.setOnlineOfflineState unit' isOnline).refs =
    (m.relist { ref with iOnline := isOnline }).refs := by
  rw [setOnlineOfflineState, found]
  dsimp only
  rw [if_neg other]
  cases isOnline with
  | true => exact refs_cameOnline ref
  | false => exact refs_wentOffline ref

theorem setOnlineOfflineState_same {isOnline : Bool} (found : m.reference? unit' = some ref)
    (same : ref.iOnline = isOnline) : m.setOnlineOfflineState unit' isOnline = m := by
  simp only [setOnlineOfflineState, found, same, if_true]

theorem reference?_setOnlineOfflineState (isOnline : Bool) :
    (m.setOnlineOfflineState unit' isOnline).reference? unit =
      (m.reference? unit).map fun ref =>
        if unit = unit' then { ref with iOnline := isOnline } else ref := by
  cases found : m.reference? unit' with
  | none =>
      simp only [setOnlineOfflineState, found]
      by_cases same : unit = unit'
      · subst same
        rw [found]
        rfl
      · simp [same]
  | some ref =>
      have unitIs := unit_of_reference? found
      by_cases already : ref.iOnline = isOnline
      · rw [setOnlineOfflineState_same found already]
        by_cases same : unit = unit'
        · subst same
          simp [found, ← already]
        · simp [same]
      · rw [reference?_congr (refs_setOnlineOfflineState found already), reference?_relist]
        by_cases same : unit = unit'
        · subst same
          simp [found, unitIs]
        · simp [unitIs, same]

def look (sight : Sight) (ref : HostileReference) : HostileReference :=
  { ref with
    isValid := ref.isValid || sight.found
    iOnline := (ref.isValid || sight.found) && sight.attackable }

theorem reference?_updateOnlineStatus (sight : Sight) :
    (m.updateOnlineStatus unit' sight).reference? unit =
      (m.reference? unit).map fun ref => if unit = unit' then look sight ref else ref := by
  have keeps : KeepsUnit fun ref => { ref with isValid := ref.isValid || sight.found } :=
    fun _ => rfl
  simp only [updateOnlineStatus]
  rw [reference?_setOnlineOfflineState, reference?_change keeps, reference?_change keeps,
    Option.map_map]
  by_cases same : unit = unit'
  · subst same
    cases m.reference? unit with
    | none => rfl
    | some ref => simp [look]
  · simp only [same, if_false, Function.comp_def]

/-- A reference after an addition: if it was offline, the unit is looked for. -/
def raise (pMod : ℚ) (sight : Sight) (ref : HostileReference) : HostileReference :=
  let ref := { ref with iThreat := ref.iThreat + pMod }
  if ref.iOnline then ref else look sight ref

theorem reference?_addThreat (pMod : ℚ) (sight : Sight) :
    (m.addThreat unit' pMod sight).reference? unit =
      (m.reference? unit).map fun ref => if unit = unit' then raise pMod sight ref else ref := by
  have keeps : KeepsUnit fun ref => { ref with iThreat := ref.iThreat + pMod } := fun _ => rfl
  have changed := fun unit : Guid => @reference?_change m unit unit' _ keeps
  have told : ∀ m :
    ThreatManager, (if pMod ≠ 0 then m.threatChanged unit' pMod else m).reference? unit =
      m.reference? unit := by
    intro m
    split
    · exact reference?_threatChanged pMod
    · rfl
  simp only [addThreat]
  rw [told]
  split
  · rename_i online
    rw [changed]
    by_cases same : unit = unit'
    · subst same
      simp only [online?, changed] at online
      cases found : m.reference? unit with
      | none => rfl
      | some ref =>
          have on : ref.iOnline = true := by
            simpa [found, Option.filter_some] using online
          simp [raise, on]
    · simp only [same, if_false]
  · rename_i offline
    rw [reference?_updateOnlineStatus, changed, Option.map_map]
    by_cases same : unit = unit'
    · subst same
      simp only [online?, changed] at offline
      cases found : m.reference? unit with
      | none => rfl
      | some ref =>
          have off : ref.iOnline = false := by
            simpa [found, Option.filter_some] using offline
          simp [raise, off]
    · simp only [same, if_false, Function.comp_def]

theorem refs_update : m.update.refs.Perm m.refs := by
  rw [update]
  split
  · have sorted := List.perm_insertionSort Before m.iThreatList
    exact (sorted.append_right _).trans (List.filter_append_perm HostileReference.iOnline m.refs)
  · exact List.Perm.refl _

theorem reference?_update (distinct : m.Distinct) :
    m.update.reference? unit = m.reference? unit := by
  have distinct' : m.update.Distinct := (refs_update.map _).nodup_iff.mpr distinct
  ext ref
  rw [reference?_eq_some distinct, reference?_eq_some distinct', refs_update.mem_iff]

theorem Distinct.change (distinct : m.Distinct) {f : HostileReference → HostileReference}
    (keeps : KeepsUnit f) : (m.change unit f).Distinct := by
  have same : (m.change unit f).refs.map (·.unit) = m.refs.map (·.unit) := by
    simp only [ThreatManager.change, List.map_map]
    refine List.map_congr_left fun ref _ => ?_
    simp only [Function.comp]
    split
    · exact keeps ref
    · rfl
  rw [Distinct, same]
  exact distinct

theorem Distinct.relist (distinct : m.Distinct) (ref : HostileReference) :
    (m.relist ref).Distinct := by
  have kept : ((m.refs.filter (·.unit ≠ ref.unit)).map (·.unit)).Nodup :=
    distinct.sublist (List.filter_sublist.map _)
  rw [Distinct, ThreatManager.relist, List.map_append, List.nodup_append]
  refine ⟨kept, List.nodup_singleton _, fun unit listed other last => ?_⟩
  obtain ⟨ref', among, rfl⟩ := List.mem_map.mp listed
  cases List.mem_singleton.mp last
  exact of_decide_eq_true (List.mem_filter.mp among).2

theorem Distinct.setOnlineOfflineState (distinct : m.Distinct) (unit : Guid) (isOnline : Bool) :
    (m.setOnlineOfflineState unit isOnline).Distinct := by
  cases found : m.reference? unit with
  | none => simpa only [ThreatManager.setOnlineOfflineState, found] using distinct
  | some ref =>
      by_cases already : ref.iOnline = isOnline
      · rw [setOnlineOfflineState_same found already]
        exact distinct
      · rw [Distinct, refs_setOnlineOfflineState found already]
        exact distinct.relist _

theorem Distinct.append (distinct : m.Distinct) (fresh : m.reference? ref.unit = none) :
    ({ m with refs := m.refs ++ [ref] } : ThreatManager).Distinct := by
  rw [Distinct, List.map_append, List.nodup_append]
  refine ⟨distinct, List.nodup_singleton _, fun unit known other last => ?_⟩
  obtain ⟨ref', among, rfl⟩ := List.mem_map.mp known
  cases List.mem_singleton.mp last
  exact of_decide_eq_false (eq_false_of_ne_true (List.find?_eq_none.mp fresh ref' among))

theorem Distinct.removed (distinct : m.Distinct) (unit : Guid) : (m.removed unit).Distinct := by
  have kept : ((m.refs.filter (·.unit ≠ unit)).map (·.unit)).Nodup :=
    distinct.sublist (List.filter_sublist.map _)
  rw [ThreatManager.removed]
  dsimp only
  split <;> exact kept

theorem removed_change {f : HostileReference → HostileReference} (keeps : KeepsUnit f) :
    (m.change unit f).removed unit = m.removed unit := by
  have refs : (m.change unit f).refs.filter (·.unit ≠ unit) = m.refs.filter (·.unit ≠ unit) := by
    simp only [change]
    induction m.refs with
    | nil => rfl
    | cons ref rest ih =>
        by_cases same : ref.unit = unit
        · simpa [same, keeps ref] using ih
        · simpa [same] using ih
  simp only [removed, refs]
  rfl

theorem removed_wentOffline (same : ref.unit = unit) :
    (m.wentOffline ref).removed unit = m.removed unit := by
  subst same
  have refs : (m.wentOffline ref).refs.filter (·.unit ≠ ref.unit) =
      m.refs.filter (·.unit ≠ ref.unit) := by
    rw [refs_wentOffline, relist, List.filter_append, List.filter_filter]
    simp
  simp only [removed, refs]
  rw [wentOffline]
  by_cases current : m.iCurrentVictim = some ref.unit
  · simp [current, setDirty, relist]
  · simp [current, relist]

/-- `removeReference` cuts the link first, which takes an online reference offline; what it leaves
is the same. -/
theorem removed_invalidate : (m.invalidate unit).removed unit = m.removed unit := by
  have keeps : KeepsUnit fun ref => { ref with isValid := false } := fun _ => rfl
  rw [invalidate, removed_change keeps, setOnlineOfflineState]
  split
  · rfl
  · rename_i ref listed
    split
    · rfl
    · exact removed_wentOffline (unit_of_reference? listed)

structure Stable (I : ThreatManager → Prop) : Prop where
  change {m : ThreatManager} {unit : Guid} {f : HostileReference → HostileReference} (h : I m)
    (keeps : KeepsUnit f) (online : ∀ ref, (f ref).iOnline = ref.iOnline) : I (m.change unit f)
  setDirty {m : ThreatManager} (h : I m) : I m.setDirty
  setOnlineOfflineState {m : ThreatManager} (h : I m) (unit : Guid) (isOnline : Bool) :
    I (m.setOnlineOfflineState unit isOnline)
  append {m : ThreatManager} {unit : Guid} (h : I m) (fresh : m.reference? unit = none) :
    I { m with refs := m.refs ++ [{ unit := unit, iThreat := 0 }] }
  removed {m : ThreatManager} (h : I m) (unit : Guid) : I (m.removed unit)
  getHostileTarget {m : ThreatManager} (h : I m) (attacker : Attacker) :
    I (m.getHostileTarget attacker)

namespace Stable

variable {I : ThreatManager → Prop} (stable : Stable I)
include stable

theorem updateOnlineStatus (h : I m) (unit : Guid) (sight : Sight) :
    I (m.updateOnlineStatus unit sight) := by
  refine stable.setOnlineOfflineState ?_ unit _
  exact stable.change h (fun _ => rfl) fun _ => rfl

theorem addThreat (h : I m) (unit : Guid) (pMod : ℚ) (sight : Sight) :
    I (m.addThreat unit pMod sight) := by
  have told : ∀ m : ThreatManager, I m → I (if pMod ≠ 0 then m.threatChanged unit pMod else m) := by
    intro m h
    simp only [ThreatManager.threatChanged]
    split
    · split
      · exact stable.setDirty h
      · exact h
    · exact h
  have raised : I (m.change unit fun ref => { ref with iThreat := ref.iThreat + pMod }) :=
    stable.change h (fun _ => rfl) fun _ => rfl
  refine told _ ?_
  split
  · exact raised
  · exact stable.updateOnlineStatus raised unit sight

theorem resetTempThreat (h : I m) (ref : HostileReference) (sight : Sight) :
    I (m.resetTempThreat ref sight) := by
  rw [ThreatManager.resetTempThreat]
  split
  · exact h
  · have raised := stable.addThreat h ref.unit (-ref.iTempThreatModifyer) sight
    exact stable.change raised (fun _ => rfl) fun _ => rfl

theorem setTempThreatModifier (h : I m) (ref : HostileReference) (threat : ℚ) (sight : Sight) :
    I (m.setTempThreatModifier ref threat sight) := by
  refine stable.addThreat ?_ ref.unit threat sight
  exact stable.change h (fun _ => rfl) fun _ => rfl

theorem step (h : I m) (event : ThreatEvent) : I (m.step event) := by
  cases event with
  | addThreat unit threat sight =>
      rw [ThreatManager.step, addThreatDirectly]
      split
      · exact stable.addThreat h unit threat sight
      · rename_i fresh
        have added := stable.addThreat (stable.append h fresh) unit threat sight
        dsimp only
        split
        · exact stable.setOnlineOfflineState added unit false
        · exact added
  | modifyThreatPercent unit percent sight =>
      rw [ThreatManager.step, ThreatManager.modifyThreatPercent]
      split
      · exact h
      · split
        · exact stable.removed h unit
        · exact stable.addThreat h _ _ sight
  | addThreatPercent unit percent sight =>
      rw [ThreatManager.step, addThreatPercentOf]
      split
      · exact h
      · exact stable.addThreat h _ _ sight
  | setOnlineOfflineState unit isOnline => exact stable.setOnlineOfflineState h unit isOnline
  | updateOnlineStatus unit sight => exact stable.updateOnlineStatus h unit sight
  | invalidate unit =>
      have offline := stable.setOnlineOfflineState h unit false
      exact stable.change offline (fun _ => rfl) fun _ => rfl
  | deleteReference unit =>
      rw [ThreatManager.step, ThreatManager.deleteReference]
      split
      · exact h
      · exact stable.removed h unit
  | tauntApply aura unit sight =>
      rw [ThreatManager.step, ThreatManager.tauntApply]
      split
      · split
        · rw [setTempThreat]
          split
          · exact stable.setTempThreatModifier h _ _ sight
          · exact stable.change h (fun _ => rfl) fun _ => rfl
        · exact h
      · exact h
  | tauntFadeOut aura unit sight =>
      rw [ThreatManager.step, ThreatManager.tauntFadeOut]
      split
      · exact h
      · exact stable.resetTempThreat h _ sight
  | addTempThreat aura unit threat apply sight =>
      rw [ThreatManager.step, ThreatManager.addTempThreat]
      split
      · exact h
      · split
        · exact stable.resetTempThreat h _ sight
        · split
          · exact stable.setTempThreatModifier h _ _ sight
          · exact h
  | getHostileTarget attacker => exact stable.getHostileTarget h attacker

end Stable

theorem stable_distinct : Stable Distinct where
  change distinct keeps _ := distinct.change keeps
  setDirty distinct := distinct
  setOnlineOfflineState distinct := distinct.setOnlineOfflineState
  append distinct fresh := distinct.append fresh
  removed distinct := distinct.removed
  getHostileTarget distinct _ := (refs_update.map _).nodup_iff.mpr distinct

end ThreatManager

end TortoiseWow.Threat
