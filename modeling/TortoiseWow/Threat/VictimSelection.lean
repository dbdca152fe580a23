import TortoiseWow.Threat.ThreatManager

/-!
The choice of the next victim against the threat of the units. The list need not be sorted where
the current victim stands: what is asked of it is `Ordered`. Changes that neither mark the list
nor keep it so are left out, and so are calls that meet a current victim who cannot be chosen
before anybody who overtakes him.
-/

namespace TortoiseWow.Threat

def Ordered (iCurrentVictim : Option Guid) (list : List HostileReference) : Prop :=
  list.Pairwise fun a b => b.iThreat ≤ a.iThreat ∨ iCurrentVictim = some b.unit

namespace Attacker

variable (attacker : Attacker) (list : List HostileReference)

/-- A valid target of normal priority is listed. -/
def prefers : Bool := list.any fun ref => attacker.accepts false ref.unit

def isEligible (unit : Guid) : Bool := attacker.accepts (!attacker.prefers list) unit

end Attacker

/-- The choice as it is for a sorted list. -/
structure Selected (attacker : Attacker) (list : List HostileReference)
    (victim result : Option HostileReference) : Prop where
  valid : ∀ ref, result = some ref → ref ∈ list ∧ attacker.isValidAttackTarget ref.unit = true
  priority : ∀ ref, result = some ref → attacker.isLowPriority ref.unit = true →
    ∀ other ∈ list, attacker.isValidAttackTarget other.unit = true →
      attacker.isLowPriority other.unit = true
  kept : ∀ current, victim = some current →
    (result = some current ↔ attacker.isEligible list current.unit = true ∧
      ∀ ref ∈ list, attacker.isEligible list ref.unit = true →
        attacker.overtakes ref current = false)
  best : ∀ ref, result = some ref → result ≠ victim →
    let passes := fun ref => ∀ current, victim = some current →
      attacker.isEligible list current.unit = true → attacker.overtakes ref current = true
    passes ref ∧ ∀ other ∈ list, attacker.isEligible list other.unit = true → passes other →
      other.iThreat ≤ ref.iThreat
  nothing : result = none → ∀ ref ∈ list, attacker.isValidAttackTarget ref.unit = false

/-- The choice does not depend on the order of the list. -/
theorem Selected.congr {attacker : Attacker} {list list' : List HostileReference}
    {victim result : Option HostileReference} (h : Selected attacker list victim result)
    (same : ∀ ref, ref ∈ list ↔ ref ∈ list') : Selected attacker list' victim result := by
  have prefers : attacker.prefers list' = attacker.prefers list := by
    rw [Bool.eq_iff_iff, Attacker.prefers, Attacker.prefers, List.any_eq_true, List.any_eq_true]
    simp only [same]
  have eligible : attacker.isEligible list' = attacker.isEligible list := by
    funext unit
    rw [Attacker.isEligible, prefers, Attacker.isEligible]
  refine ⟨?_, ?_, ?_, ?_, ?_⟩
  · simpa only [same] using h.valid
  · simpa only [same] using h.priority
  · simpa only [same, eligible] using h.kept
  · simpa only [same, eligible] using h.best
  · simpa only [same] using h.nothing

section Walks

variable {attacker : Attacker} {list : List HostileReference} {allow : Bool}
  {victim ref : HostileReference}

def first (attacker : Attacker) (allow : Bool) (list : List HostileReference) :
    Option HostileReference := list.find? fun ref => attacker.accepts allow ref.unit

theorem first_cons (head : HostileReference) (rest : List HostileReference) :
    first attacker allow (head :: rest) =
      if attacker.accepts allow head.unit then some head else first attacker allow rest := by
  rw [first, List.find?_cons]
  cases attacker.accepts allow head.unit <;> rfl

def Walk.ofFirst : Option HostileReference → Walk
  | some ref => .found ref
  | none => .passed none

theorem walk_none (area : ∀ ref ∈ list, attacker.isOutOfThreatArea ref.unit = false) :
    attacker.walk allow list none = .ofFirst (first attacker allow list) := by
  induction list with
  | nil => rfl
  | cons head rest ih =>
      have inside := area head List.mem_cons_self
      have ih := ih fun ref listed => area ref (List.mem_cons_of_mem head listed)
      rw [Attacker.walk, inside, first_cons]
      cases accepted : attacker.accepts allow head.unit with
      | true => rfl
      | false => simpa using ih

/-- The current victim cannot be chosen, and so is the first who can before the walk comes to
him. -/
theorem walk_refused (area : ∀ ref ∈ list, attacker.isOutOfThreatArea ref.unit = false)
    (listed : victim ∈ list) (refused : attacker.accepts allow victim.unit = false)
    (before : ∀ ref, first attacker allow (list.takeWhile (·.unit ≠ victim.unit)) = some ref →
      11 / 10 * victim.iThreat < ref.iThreat ∧ attacker.overtakes ref victim = true) :
    attacker.walk allow list (some victim) = .ofFirst (first attacker allow list) := by
  induction list with
  | nil => cases listed
  | cons head rest ih =>
      have inside := area head List.mem_cons_self
      have area' := fun ref listed => area ref (List.mem_cons_of_mem head listed)
      rw [Attacker.walk, inside, first_cons]
      by_cases same : head.unit = victim.unit
      · rw [same, refused]
        simpa using walk_none area'
      · have listed' : victim ∈ rest := by
          refine (List.mem_cons.mp listed).resolve_left fun this => same ?_
          rw [this]
        rw [List.takeWhile_cons, if_pos (by simpa using same)] at before
        cases accepted : attacker.accepts allow head.unit with
        | true =>
            obtain ⟨more, overtakes⟩ := before head (by rw [first_cons, accepted, if_pos rfl])
            simp [Ne.symm same, more, overtakes, Walk.ofFirst]
        | false =>
            rw [first_cons, accepted] at before
            simpa [Ne.symm same] using ih area' listed' before

theorem overtakes_of_le (positive : 0 ≤ victim.iThreat)
    (less : ref.iThreat ≤ 11 / 10 * victim.iThreat) :
    attacker.overtakes ref victim = false := by
  have far : ¬ 13 / 10 * victim.iThreat < ref.iThreat := by linarith
  have near : ¬ 11 / 10 * victim.iThreat < ref.iThreat := not_lt.mpr less
  simp [Attacker.overtakes, far, near]

def Decided (attacker : Attacker) (allow : Bool) (list : List HostileReference)
    (victim ref : HostileReference) : Prop :=
  (ref = victim ∧ ∀ other ∈ list, attacker.accepts allow other.unit = true →
    attacker.overtakes other victim = false) ∨
  (ref ∈ list ∧ attacker.accepts allow ref.unit = true ∧ attacker.overtakes ref victim = true ∧
    ∀ other ∈ list, attacker.accepts allow other.unit = true →
      attacker.overtakes other victim = true → other.iThreat ≤ ref.iThreat)

theorem Decided.cons {head : HostileReference} (h : Decided attacker allow list victim ref)
    (refused : attacker.accepts allow head.unit = true → attacker.overtakes head victim = false) :
    Decided attacker allow (head :: list) victim ref := by
  rcases h with ⟨kept, nobody⟩ | ⟨among, may, overtakes, most⟩
  · refine Or.inl ⟨kept, fun other listed accepted => ?_⟩
    rcases List.mem_cons.mp listed with rfl | later
    · exact refused accepted
    · exact nobody other later accepted
  · refine Or.inr
      ⟨List.mem_cons_of_mem head among, may, overtakes, fun other listed accepted more => ?_⟩
    rcases List.mem_cons.mp listed with rfl | later
    · rw [refused accepted] at more
      cases more
    · exact most other later accepted more

theorem unit_ne {head : HostileReference} (distinct : ((head :: list).map (·.unit)).Nodup)
    (later : ref ∈ list) : head.unit ≠ ref.unit := by
  intro same
  refine (List.nodup_cons.mp distinct).1 ?_
  change head.unit ∈ _
  rw [same]
  exact List.mem_map_of_mem later

/-- The current victim can be chosen. -/
theorem walk_accepted (area : ∀ ref ∈ list, attacker.isOutOfThreatArea ref.unit = false)
    (listed : victim ∈ list) (accepted : attacker.accepts allow victim.unit = true)
    (distinct : (list.map (·.unit)).Nodup) (ordered : Ordered (some victim.unit) list)
    (positive : 0 ≤ victim.iThreat) :
    ∃ ref, attacker.walk allow list (some victim) = .found ref ∧
      Decided attacker allow list victim ref := by
  induction list with
  | nil => cases listed
  | cons head rest ih =>
      have inside := area head List.mem_cons_self
      have area' := fun ref listed => area ref (List.mem_cons_of_mem head listed)
      obtain ⟨below, ordered'⟩ := List.pairwise_cons.mp ordered
      have self : attacker.overtakes victim victim = false := overtakes_of_le positive (by linarith)
      rw [Attacker.walk, inside]
      by_cases same : head.unit = victim.unit
      · -- nobody after the current victim has more threat
        have isVictim : victim = head :=
          (List.mem_cons.mp listed).resolve_right fun later => unit_ne distinct later same
        subst isVictim
        refine ⟨victim, by simp [accepted], Or.inl ⟨rfl, fun other listed _ => ?_⟩⟩
        rcases List.mem_cons.mp listed with rfl | later
        · exact self
        · rcases below other later with less | this
          · exact overtakes_of_le positive (by linarith)
          · exact absurd (Option.some_inj.mp this) (unit_ne distinct later)
      have listed' : victim ∈ rest := by
        refine (List.mem_cons.mp listed).resolve_left fun this => same ?_
        rw [this]
      have distinct' := (List.nodup_cons.mp distinct).2
      have isVictim : ∀ other ∈ rest, some victim.unit = some other.unit → other = victim :=
        fun other later same =>
          List.inj_on_of_nodup_map distinct' later listed' (Option.some_inj.mp same).symm
      obtain ⟨ref, walked, decided⟩ := ih area' listed' distinct' ordered'
      cases may : attacker.accepts allow head.unit with
      | false =>
          refine ⟨ref, by simpa [Ne.symm same] using walked, decided.cons fun this => ?_⟩
          rw [may] at this
          cases this
      | true =>
          by_cases low : head.iThreat ≤ 11 / 10 * victim.iThreat
          · refine ⟨victim, by simp [low], Or.inl ⟨rfl, fun other listed _ => ?_⟩⟩
            rcases List.mem_cons.mp listed with rfl | later
            · exact overtakes_of_le positive low
            · rcases below other later with less | this
              · exact overtakes_of_le positive (less.trans low)
              · rw [isVictim other later this]
                exact self
          cases more : attacker.overtakes head victim with
          | false =>
              exact ⟨ref,
              by simpa [Ne.symm same, low, more] using walked, decided.cons fun _ => more⟩
          | true =>
              refine ⟨head, by simp [Ne.symm same, low], Or.inr
                ⟨List.mem_cons_self, may, more, fun other listed _ over' => ?_⟩⟩
              rcases List.mem_cons.mp listed with rfl | later
              · exact le_refl _
              · rcases below other later with less | this
                · exact less
                · rw [isVictim other later this, self] at over'
                  cases over'

theorem first_eq_some (h : first attacker allow list = some ref) :
    ref ∈ list ∧ attacker.accepts allow ref.unit = true := by
  have accepted := List.find?_some h
  exact ⟨List.mem_of_find?_eq_some h, accepted⟩

theorem first_eq_none (h : first attacker allow list = none) :
    ∀ ref ∈ list, attacker.accepts allow ref.unit = false := by
  intro ref listed
  exact eq_false_of_ne_true (List.find?_eq_none.mp h ref listed)

theorem first_most {iCurrentVictim : Option Guid} (ordered : Ordered iCurrentVictim list)
    (h : first attacker allow list = some ref) {other : HostileReference} (listed : other ∈ list)
    (accepted : attacker.accepts allow other.unit = true) :
    other.iThreat ≤ ref.iThreat ∨ iCurrentVictim = some other.unit := by
  induction list with
  | nil => cases listed
  | cons head rest ih =>
      obtain ⟨below, ordered'⟩ := List.pairwise_cons.mp ordered
      rw [first_cons] at h
      split at h
      · cases h
        rcases List.mem_cons.mp listed with rfl | later
        · exact Or.inl (le_refl _)
        · exact below other later
      · rename_i refused
        rcases List.mem_cons.mp listed with rfl | later
        · exact absurd accepted refused
        · exact ih ordered' h later

theorem first_takeWhile (listed : victim ∈ list) (distinct : (list.map (·.unit)).Nodup)
    (accepted : attacker.accepts allow victim.unit = true) :
    first attacker allow list =
      some ((first attacker allow (list.takeWhile (·.unit ≠ victim.unit))).getD victim) := by
  induction list with
  | nil => cases listed
  | cons head rest ih =>
      rw [first_cons]
      by_cases same : head.unit = victim.unit
      · have isVictim : victim = head :=
          (List.mem_cons.mp listed).resolve_right fun later => unit_ne distinct later same
        subst isVictim
        simp [accepted, first]
      · have listed' : victim ∈ rest := by
          refine (List.mem_cons.mp listed).resolve_left fun this => same ?_
          rw [this]
        have before : (head :: rest).takeWhile (·.unit ≠ victim.unit) =
            head :: rest.takeWhile (·.unit ≠ victim.unit) :=
          List.takeWhile_cons_of_pos (decide_eq_true same)
        rw [before, first_cons]
        split
        · rfl
        · exact ih listed' (List.nodup_cons.mp distinct).2

theorem prefers_eq : attacker.prefers list = (first attacker false list).isSome := by
  rw [Attacker.prefers, first, List.isSome_find?]

end Walks

/-- What is asked of the current victim: no negative threat, and when he cannot be chosen at first
sight, nobody before him who does not overtake him. -/
structure Comparable (attacker : Attacker) (list : List HostileReference)
    (victim : Option HostileReference) : Prop where
  positive : ∀ current, victim = some current → attacker.isEligible list current.unit = true →
    0 ≤ current.iThreat
  before : ∀ current, victim = some current → attacker.accepts false current.unit = false →
    (attacker.isValidAttackTarget current.unit = true ∨ attacker.prefers list = true) →
    ∀ ref, first attacker (!attacker.prefers list)
        (list.takeWhile (·.unit ≠ current.unit)) = some ref →
      11 / 10 * current.iThreat < ref.iThreat ∧ attacker.overtakes ref current = true

section Selection

variable {attacker : Attacker} {list : List HostileReference} {victim : Option HostileReference}
  {ref : HostileReference}

theorem valid_of_accepts {allow : Bool} {unit : Guid} (h : attacker.accepts allow unit = true) :
    attacker.isValidAttackTarget unit = true := by
  rw [Attacker.accepts, Bool.and_eq_true] at h
  exact h.1

theorem low_of_eligible {unit : Guid} (h : attacker.isEligible list unit = true)
    (low : attacker.isLowPriority unit = true) {other : HostileReference} (listed : other ∈ list)
    (valid : attacker.isValidAttackTarget other.unit = true) :
    attacker.isLowPriority other.unit = true := by
  rw [Attacker.isEligible, Attacker.accepts, low, Bool.not_true, Bool.or_false, Bool.and_eq_true,
    Bool.not_eq_true', Attacker.prefers, List.any_eq_false] at h
  have refused := h.2 other listed
  rw [Attacker.accepts, valid, Bool.true_and, Bool.false_or, Bool.not_eq_true',
    Bool.not_eq_false] at refused
  exact refused

theorem selectNextVictim_first (area : ∀ ref ∈ list, attacker.isOutOfThreatArea ref.unit = false)
    (comparable : Comparable attacker list victim)
    (listed : ∀ current, victim = some current → current ∈ list)
    (refused : ∀ current, victim = some current → attacker.accepts false current.unit = false) :
    attacker.selectNextVictim list victim = first attacker (!attacker.prefers list) list := by
  have walked : attacker.walk false list victim = .ofFirst (first attacker false list) := by
    cases victim with
    | none => exact walk_none area
    | some current =>
        refine walk_refused area (listed current rfl) (refused current rfl) fun ref before => ?_
        have among := (first_eq_some before).1
        have prefers : attacker.prefers list = true :=
          List.any_eq_true.mpr ⟨ref, (List.takeWhile_sublist _).mem among, (first_eq_some before).2⟩
        refine comparable.before current rfl (refused current rfl) (Or.inr prefers) ref ?_
        rw [prefers]
        exact before
  rw [Attacker.selectNextVictim, walked, prefers_eq]
  cases found : first attacker false list with
  | some ref => exact found.symm
  | none =>
      simp only [Walk.ofFirst, walk_none area, Option.isSome_none, Bool.not_false]
      cases first attacker true list <;> rfl

theorem overtakes_self (positive : 0 ≤ ref.iThreat) : attacker.overtakes ref ref = false :=
  overtakes_of_le positive (by linarith)

theorem first_against {current : HostileReference}
    (comparable : Comparable attacker list (some current))
    (listed : current ∈ list) (distinct : (list.map (·.unit)).Nodup)
    (refused : attacker.accepts false current.unit = false)
    (eligible : attacker.isEligible list current.unit = true)
    (found : first attacker (!attacker.prefers list) list = some ref) :
    ref = current ∨ attacker.overtakes ref current = true := by
  rw [first_takeWhile listed distinct eligible] at found
  cases before : first attacker (!attacker.prefers list)
      (list.takeWhile (·.unit ≠ current.unit)) with
  | none =>
      rw [before] at found
      exact Or.inl (Option.some_inj.mp found).symm
  | some other =>
      rw [before] at found
      cases found
      have valid := valid_of_accepts eligible
      exact Or.inr (comparable.before current rfl refused (Or.inl valid) other before).2

theorem selected_first (distinct : (list.map (·.unit)).Nodup)
    (ordered : Ordered (victim.map (·.unit)) list)
    (listed : ∀ current, victim = some current → current ∈ list)
    (refused : ∀ current, victim = some current → attacker.accepts false current.unit = false)
    (comparable : Comparable attacker list victim) :
    Selected attacker list victim (first attacker (!attacker.prefers list) list) where
  valid := fun ref found => ⟨(first_eq_some found).1, valid_of_accepts (first_eq_some found).2⟩
  priority := fun ref found low other among valid =>
    low_of_eligible (first_eq_some found).2 low among valid
  kept := by
    rintro current rfl
    have positive := comparable.positive current rfl
    constructor
    · intro found
      have eligible := (first_eq_some found).2
      refine ⟨eligible, fun other among may => ?_⟩
      rcases first_most ordered found among may with less | same
      · exact overtakes_of_le (positive eligible) (by linarith [positive eligible])
      · rw [List.inj_on_of_nodup_map distinct among (listed current rfl)
          (Option.some_inj.mp same).symm]
        exact overtakes_self (positive eligible)
    · rintro ⟨eligible, nobody⟩
      cases found : first attacker (!attacker.prefers list) list with
      | none =>
          have none' := first_eq_none found current (listed current rfl)
          rw [Attacker.isEligible, none'] at eligible
          cases eligible
      | some ref =>
          have among := first_eq_some found
          rcases first_against comparable (listed current rfl) distinct
            (refused current rfl) eligible
            found with same | more
          · rw [same]
          · rw [nobody ref among.1 among.2] at more
            cases more
  best := by
    intro ref found changed
    refine ⟨?_, fun other among may passes => ?_⟩
    · rintro current rfl eligible
      refine (first_against comparable (listed current rfl) distinct (refused current rfl) eligible
        found).resolve_left fun same => changed ?_
      rw [found, same]
    · rcases first_most ordered found among may with less | same
      · exact less
      · obtain ⟨current, rfl, unit⟩ := Option.map_eq_some_iff.mp same
        have isCurrent := List.inj_on_of_nodup_map distinct among (listed current rfl) unit.symm
        subst isCurrent
        have more := passes other rfl may
        rw [overtakes_self (comparable.positive other rfl may)] at more
        cases more
  nothing := by
    intro found ref among
    have refused' := first_eq_none found ref among
    cases prefers : attacker.prefers list with
    | true =>
        rw [prefers] at found
        rw [prefers_eq, Bool.not_true] at *
        rw [found] at prefers
        cases prefers
    | false =>
        rw [prefers] at refused'
        simpa [Attacker.accepts] using refused'

theorem selected_decided {current : HostileReference} (listed : current ∈ list)
    (accepted : attacker.accepts false current.unit = true) (positive : 0 ≤ current.iThreat)
    (decided : Decided attacker false list current ref) :
    Selected attacker list (some current) (some ref) := by
  have prefers : attacker.prefers list = true := List.any_eq_true.mpr ⟨current, listed, accepted⟩
  have eligible : ∀ unit, attacker.isEligible list unit = attacker.accepts false unit := by
    intro unit
    rw [Attacker.isEligible, prefers, Bool.not_true]
  have chosen : ref ∈ list ∧ attacker.accepts false ref.unit = true := by
    rcases decided with ⟨rfl, -⟩ | ⟨among, may, -⟩
    · exact ⟨listed, accepted⟩
    · exact ⟨among, may⟩
  refine ⟨?_, ?_, ?_, ?_, ?_⟩
  · rintro _ ⟨⟩
    exact ⟨chosen.1, valid_of_accepts chosen.2⟩
  · rintro _ ⟨⟩ low other among valid
    exact low_of_eligible ((eligible ref.unit).trans chosen.2) low among valid
  · rintro _ ⟨⟩
    simp only [eligible, accepted, true_and]
    rcases decided with ⟨rfl, nobody⟩ | ⟨among, may, more, -⟩
    · exact ⟨fun _ => nobody, fun _ => rfl⟩
    · constructor
      · intro same
        cases same
        rw [overtakes_self positive] at more
        cases more
      · intro nobody
        rw [nobody ref among may] at more
        cases more
  · rintro _ ⟨⟩ changed
    rcases decided with ⟨rfl, -⟩ | ⟨among, may, more, most⟩
    · exact absurd rfl changed
    · refine ⟨?_, fun other among' may' passes => ?_⟩
      · rintro _ ⟨⟩ _
        exact more
      · rw [eligible] at may'
        exact most other among' may' (passes current rfl ((eligible current.unit).trans accepted))
  · intro nothing
    cases nothing

theorem selected (area : ∀ ref ∈ list, attacker.isOutOfThreatArea ref.unit = false)
    (distinct : (list.map (·.unit)).Nodup) (ordered : Ordered (victim.map (·.unit)) list)
    (listed : ∀ current, victim = some current → current ∈ list)
    (comparable : Comparable attacker list victim) :
    Selected attacker list victim (attacker.selectNextVictim list victim) := by
  by_cases refused : ∀ current, victim = some current → attacker.accepts false current.unit = false
  · rw [selectNextVictim_first area comparable listed refused]
    exact selected_first distinct ordered listed refused comparable
  · push Not at refused
    obtain ⟨current, rfl, accepted⟩ := refused
    have accepted : attacker.accepts false current.unit = true :=
      Bool.eq_true_of_not_eq_false accepted
    have among := listed current rfl
    have prefers : attacker.prefers list = true := List.any_eq_true.mpr ⟨current, among, accepted⟩
    have positive :=
      comparable.positive current rfl (by rw [Attacker.isEligible, prefers]; exact accepted)
    obtain ⟨ref, walked, decided⟩ := walk_accepted area among accepted distinct ordered positive
    rw [Attacker.selectNextVictim, walked]
    exact selected_decided among accepted positive decided

end Selection

section Within

variable {attacker : Attacker} {P : HostileReference → Prop} {list : List HostileReference}
  {victim : Option HostileReference}

def Walk.Within (P : HostileReference → Prop) : Walk → Prop
  | .outOfArea => True
  | .found ref => P ref
  | .passed victim => ∀ ref ∈ victim, P ref

theorem walk_within {allow : Bool} (listed : ∀ ref ∈ list, P ref)
    (current : ∀ ref ∈ victim, P ref) :
    (attacker.walk allow list victim).Within P := by
  induction list generalizing victim with
  | nil => exact current
  | cons ref rest ih =>
      obtain ⟨first, others⟩ := List.forall_mem_cons.mp listed
      rw [Attacker.walk.eq_def]
      dsimp only
      split
      · trivial
      · split
        · refine ih others ?_
          split
          · nofun
          · exact current
        · split
          · exact first
          · split
            · exact current _ rfl
            · split
              · exact first
              · exact ih others current

/-- Somebody of the list is chosen, or the one before. -/
theorem selectNextVictim_within (listed : ∀ ref ∈ list, P ref) (current : ∀ ref ∈ victim, P ref) :
    ∀ ref ∈ attacker.selectNextVictim list victim, P ref := by
  have walked := @walk_within attacker P list victim false listed current
  rw [Attacker.selectNextVictim]
  split
  · nofun
  · rename_i found
    rw [found] at walked
    rintro _ ⟨⟩
    exact walked
  · rename_i passed
    rw [passed] at walked
    have again := @walk_within attacker P list _ true listed walked
    split
    · rename_i found
      rw [found] at again
      rintro _ ⟨⟩
      exact again
    · nofun
    · nofun

end Within

end TortoiseWow.Threat
