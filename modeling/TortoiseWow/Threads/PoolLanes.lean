import TortoiseWow.Threads.ThreadPool

/-!
Who takes part in a batch of the thread pool, and which indices were handed out. While a
batch is under way `active` counts the workers that still have to leave it, and each index
below the bound of its lane was executed, is held by a worker, or was given up because the
batch failed.
-/

namespace TortoiseWow.Threads

/-- The worker takes part in the batch whose generation it has seen. -/
def PoolPhase.inside : PoolPhase → Bool
  | .checking | .waiting | .exited => false
  | .pre | .fetch | .test _ | .run _ | .next _ | .flag _ | .post | .leave => true

/-- The worker has the index and has not executed its task. -/
def PoolPhase.holds (index : Nat) : PoolPhase → Nat
  | .test index' | .run index' => if index' = index then 1 else 0
  | .checking | .waiting | .pre | .fetch | .next _ | .flag _ | .post | .leave | .exited => 0

def PoolPhase.flags : PoolPhase → Bool
  | .flag _ => true
  | .checking | .waiting | .pre | .fetch | .test _ | .run _ | .next _ | .post | .leave
  | .exited => false

/-- How far a participant of a batch is. -/
inductive Stage where
  | fresh
  | testing (index : Nat)
  | working (index : Nat)
  | past
  deriving Repr, DecidableEq

def PoolPhase.stage : PoolPhase → Stage
  | .pre | .fetch | .flag .pre => .fresh
  | .test index => .testing index
  | .run index | .next index | .flag (.task index) => .working index
  | .post | .flag .post | .leave | .checking | .waiting | .exited => .past

namespace ThreadPool

variable {τ : Type}

/-- The worker still has to leave the batch. -/
def due (s : ThreadPool τ) (w : PoolWorker) : Nat :=
  if w.id < s.participants ∧ (w.phase.inside = true ∨ w.seen ≠ s.generation) then 1 else 0

def held (s : ThreadPool τ) (index : Nat) : Nat :=
  Lib.weight (fun w => w.phase.holds index) s.workers

/-- How often the current batch executed the task. -/
def timesRun (s : ThreadPool τ) (index : Nat) : Nat := s.executed.count (s.generation, index)

def thrownIn (s : ThreadPool τ) (generation : Nat) : List Site :=
  (s.thrown.filter fun entry => entry.1 == generation).map Prod.snd

/-- With one queue for each worker its indices are congruent, otherwise all are in one. -/
def lane (s : ThreadPool τ) (index : Nat) : Nat := if s.multi then index % s.size else 0

def laneOf (s : ThreadPool τ) (w : PoolWorker) : Nat := if s.multi then w.id else 0

/-- What the workers know of the current batch. -/
structure Crew (s : ThreadPool τ) : Prop where
  ids : s.workers.map PoolWorker.id = List.range s.size
  seen : ∀ w ∈ s.workers, w.seen ≤ s.generation
  inside : ∀ w ∈ s.workers, w.phase.inside = true →
    w.id < s.participants ∧ w.seen = s.generation
  waiting : ∀ w ∈ s.workers, w.phase = .waiting → w.seen = s.generation
  exited : ∀ w ∈ s.workers, w.phase = .exited → s.stopping = true

/-- Who takes part in the batch, and where the pool stands. -/
structure Roster (s : ThreadPool τ) : Prop extends s.Crew where
  stopping : s.stopping = true → s.active = 0
  active : s.active = Lib.weight s.due s.workers
  participants : s.active ≠ 0 → s.participants = min s.size s.workload.length
  status : s.status = if s.stopping then .terminating else if s.size = 0 then .stopped
    else if s.active = 0 then .ready else .processing

section Roster

variable {s : ThreadPool τ} {i : Nat} {w w' : PoolWorker}

theorem due_eq_one (hid : w.id < s.participants)
    (h : w.phase.inside = true ∨ w.seen ≠ s.generation) : s.due w = 1 := by
  simp [due, hid, h]

theorem inside_of_phase {phase : PoolPhase} (hphase : w.phase = phase)
    (hinside : phase.inside = true) : w.phase.inside = true := by
  rw [hphase]
  exact hinside

theorem due_phase {phase : PoolPhase} (h : phase.inside = w.phase.inside) :
    s.due { w with phase } = s.due w := by
  simp only [due, h]

theorem Roster.id_eq (h : s.Roster) (hi : s.workers[i]? = some w) : w.id = i := by
  have hmap : (s.workers.map PoolWorker.id)[i]? = some w.id := by simp [hi]
  rw [h.ids] at hmap
  obtain ⟨hlt, hget⟩ := List.getElem?_eq_some_iff.mp hmap
  rw [List.getElem_range] at hget
  exact hget.symm

theorem Roster.worker (h : s.Roster) {k : Nat} (hk : k < s.size) :
    ∃ w ∈ s.workers, w.id = k := by
  have hmem : k ∈ s.workers.map PoolWorker.id := by
    rw [h.ids]
    exact List.mem_range.mpr hk
  exact List.mem_map.mp hmem

/-- A due worker keeps the batch under way. -/
theorem Roster.active_ne_zero (h : s.Roster) (hi : s.workers[i]? = some w)
    (hdue : s.due w = 1) : s.active ≠ 0 := by
  have hge := Lib.weight_ge s.due hi
  have hactive := h.active
  omega

theorem Roster.active_of_inside (h : s.Roster) (hi : s.workers[i]? = some w)
    (hin : w.phase.inside = true) : s.active ≠ 0 :=
  h.active_ne_zero hi
    (due_eq_one (h.inside w (List.mem_of_getElem? hi) hin).1 (Or.inl hin))

/-- Between the batches no worker is inside one. -/
theorem Roster.outside (h : s.Roster) (hactive : s.active = 0) :
    ∀ w ∈ s.workers, w.phase.inside = false := by
  intro w hmem
  obtain ⟨i, hi⟩ := List.getElem?_of_mem hmem
  cases hin : w.phase.inside with
  | false => rfl
  | true => exact absurd hactive (h.active_of_inside hi hin)

theorem set_forall {P : PoolWorker → Prop} {workers : List PoolWorker}
    (h : ∀ w ∈ workers, P w) (hw : P w') : ∀ w ∈ workers.set i w', P w := by
  intro w hmem
  rcases List.mem_or_eq_of_mem_set hmem with hmem | rfl
  · exact h w hmem
  · exact hw

theorem Crew.setWorker (h : s.Crew) (hi : s.workers[i]? = some w) (hid : w'.id = w.id)
    (hseen : w'.seen ≤ s.generation)
    (hinside : w'.phase.inside = true → w'.id < s.participants ∧ w'.seen = s.generation)
    (hwaiting : w'.phase = .waiting → w'.seen = s.generation)
    (hexited : w'.phase = .exited → s.stopping = true) : (s.setWorker i w').Crew where
  ids := by
    have hmap : (s.workers.map PoolWorker.id)[i]? = some w'.id := by simp [hi, hid]
    change (s.workers.set i w').map PoolWorker.id = List.range s.size
    obtain ⟨hlt, hget⟩ := List.getElem?_eq_some_iff.mp hmap
    rw [List.map_set, ← h.ids, ← hget, List.set_getElem_self]
  seen := set_forall h.seen hseen
  inside := set_forall h.inside hinside
  waiting := set_forall h.waiting hwaiting
  exited := set_forall h.exited hexited

theorem Roster.setWorker (h : s.Roster) (hi : s.workers[i]? = some w)
    (hcrew : (s.setWorker i w').Crew) (hdue : s.due w' = s.due w) :
    (s.setWorker i w').Roster where
  toCrew := hcrew
  stopping := h.stopping
  active := by
    change s.active = Lib.weight s.due (s.workers.set i w')
    rw [Lib.weight_set_eq s.due hi hdue]
    exact h.active
  participants := h.participants
  status := h.status

theorem Roster.advance (h : s.Roster) (hi : s.workers[i]? = some w)
    (hin : w.phase.inside = true) {phase : PoolPhase} (hin' : phase.inside = true) :
    (s.setWorker i { w with phase }).Roster := by
  have hmem := List.mem_of_getElem? hi
  obtain ⟨hid, hseen⟩ := h.inside w hmem hin
  refine h.setWorker hi (h.toCrew.setWorker hi rfl (h.seen w hmem) (fun _ => ⟨hid, hseen⟩)
    (fun _ => hseen) ?_) ?_
  · intro heq
    change phase = .exited at heq
    rw [heq] at hin'
    cases hin'
  · have hafter : s.due { w with phase } = 1 := due_eq_one hid (Or.inl hin')
    rw [hafter, due_eq_one hid (Or.inl hin)]

end Roster

/-- No index of the worker's own queue was handed out. -/
def Fresh (s : ThreadPool τ) (bound : Nat → Nat) (w : PoolWorker) : Prop :=
  s.multi = true → bound w.id = 0

def At (s : ThreadPool τ) (bound : Nat → Nat) (w : PoolWorker) (index : Nat) : Prop :=
  s.lane index = s.laneOf w ∧ index < bound (s.laneOf w) ∧
    (s.multi = true → bound w.id = index + 1)

def Past (s : ThreadPool τ) (bound : Nat → Nat) (w : PoolWorker) : Prop :=
  s.failed = true ∨ s.workload.length ≤ bound (s.laneOf w)

/-- What was handed out to a participant that is this far. -/
def Standing (s : ThreadPool τ) (bound : Nat → Nat) (w : PoolWorker) : Stage → Prop
  | .fresh => s.Fresh bound w
  | .testing index => s.At bound w index
  | .working index => s.At bound w index ∧ index < s.workload.length
  | .past => s.Past bound w

def stage (s : ThreadPool τ) (w : PoolWorker) : Stage :=
  if w.seen = s.generation then w.phase.stage else .fresh

/-- The indices below the bound of their lane were handed out. -/
structure Lanes (s : ThreadPool τ) (bound : Nat → Nat) : Prop where
  single : s.multi = false → bound 0 = s.index
  once : ∀ j, s.timesRun j + s.held j ≤ if j < bound (s.lane j) then 1 else 0
  all : s.failed = false → ∀ j, j < s.workload.length → j < bound (s.lane j) →
    s.timesRun j + s.held j = 1
  range : ∀ j, (s.generation, j) ∈ s.executed → j < s.workload.length
  position : ∀ w ∈ s.workers, w.id < s.participants → s.Standing bound w (s.stage w)

section Lanes

variable {s : ThreadPool τ} {bound bound' : Nat → Nat} {i : Nat} {w w' : PoolWorker}

/-- A participant's standing survives what is handed out in a lane that is not its own. -/
theorem Standing.mono {stage : Stage} (h : s.Standing bound w stage)
    (hle : ∀ l, bound l ≤ bound' l) (hown : s.multi = true → bound' w.id = bound w.id) :
    s.Standing bound' w stage := by
  have hat : ∀ index, s.At bound w index → s.At bound' w index := by
    intro index h
    refine ⟨h.1, Nat.lt_of_lt_of_le h.2.1 (hle _), fun hmulti => ?_⟩
    exact (hown hmulti).trans (h.2.2 hmulti)
  cases stage with
  | fresh => exact fun hmulti => (hown hmulti).trans (h hmulti)
  | testing index => exact hat index h
  | working index => exact ⟨hat index h.1, h.2⟩
  | past =>
      rcases h with h | h
      · exact Or.inl h
      · exact Or.inr (Nat.le_trans h (hle _))

theorem held_setWorker (hi : s.workers[i]? = some w) (w' : PoolWorker) (j : Nat) :
    (s.setWorker i w').held j + w.phase.holds j = s.held j + w'.phase.holds j :=
  Lib.weight_set (fun w => w.phase.holds j) w' hi

theorem Lanes.move (h : s.Lanes bound) (hi : s.workers[i]? = some w)
    (hholds : ∀ j, w'.phase.holds j = w.phase.holds j)
    (hstand : w'.id < s.participants → s.Standing bound w' (s.stage w')) :
    (s.setWorker i w').Lanes bound where
  single := h.single
  once := by
    intro j
    have hheld := held_setWorker hi w' j
    have honce := h.once j
    have hsame := hholds j
    change s.timesRun j + (s.setWorker i w').held j ≤ if j < bound (s.lane j) then 1 else 0
    omega
  all := by
    intro hfailed j hj hbound
    have hheld := held_setWorker hi w' j
    have hall := h.all hfailed j hj hbound
    have hsame := hholds j
    change s.timesRun j + (s.setWorker i w').held j = 1
    omega
  range := h.range
  position := set_forall h.position hstand

/-- A worker gives up an index that it holds: it lies behind the batch, or the batch
failed. -/
theorem Lanes.drop (h : s.Lanes bound) (hi : s.workers[i]? = some w) {index : Nat}
    (hholds : ∀ j, w.phase.holds j = w'.phase.holds j + if index = j then 1 else 0)
    (hdrop : s.failed = true ∨ s.workload.length ≤ index)
    (hstand : w'.id < s.participants → s.Standing bound w' (s.stage w')) :
    (s.setWorker i w').Lanes bound where
  single := h.single
  once := by
    intro j
    have hheld := held_setWorker hi w' j
    have honce := h.once j
    have hless := hholds j
    change s.timesRun j + (s.setWorker i w').held j ≤ if j < bound (s.lane j) then 1 else 0
    omega
  all := by
    intro hfailed j hj hbound
    have hheld := held_setWorker hi w' j
    have hall := h.all hfailed j hj hbound
    have hless := hholds j
    have hne : index ≠ j := by
      rcases hdrop with hdrop | hdrop
      · change s.failed = false at hfailed
        rw [hfailed] at hdrop
        cases hdrop
      · change j < s.workload.length at hj
        omega
    rw [if_neg hne] at hless
    change s.timesRun j + (s.setWorker i w').held j = 1
    omega
  range := h.range
  position := set_forall h.position hstand

theorem standing_congr (hid : w'.id = w.id) (stage : Stage) :
    s.Standing bound w' stage ↔ s.Standing bound w stage := by
  cases stage <;> simp only [Standing, Fresh, At, Past, laneOf, hid]

theorem mem_set_other {workers : List PoolWorker} {x : PoolWorker}
    (hmem : x ∈ workers.set i w') : x = w' ∨ ∃ k, k ≠ i ∧ workers[k]? = some x := by
  obtain ⟨k, hk⟩ := List.mem_iff_getElem?.mp hmem
  by_cases hki : k = i
  · subst hki
    have hlt := (List.getElem?_eq_some_iff.mp hk).1
    rw [List.length_set] at hlt
    rw [List.getElem?_set_self hlt] at hk
    exact Or.inl (Option.some.inj hk).symm
  · rw [List.getElem?_set_ne (Ne.symm hki)] at hk
    exact Or.inr ⟨k, hki, hk⟩

theorem Lanes.take (h : s.Lanes bound) (hroster : s.Roster) (hi : s.workers[i]? = some w)
    (hseen : w.seen = s.generation) {index j : Nat} (hlane : s.lane j = s.laneOf w)
    (hfree : bound (s.laneOf w) ≤ j)
    (hgap : ∀ k, s.lane k = s.laneOf w → k < j → k < bound (s.laneOf w))
    (hindex : s.multi = false → index = j + 1) (hholds : ∀ k, w.phase.holds k = 0) :
    ({ s with index }.setWorker i { w with phase := .test j }).Lanes
      (Function.update bound (s.laneOf w) (j + 1)) where
  single := by
    intro hmulti
    change s.multi = false at hmulti
    have hzero : s.laneOf w = 0 := by simp [laneOf, hmulti]
    rw [hzero, Function.update_self]
    exact (hindex hmulti).symm
  once := by
    intro k
    have hheld := held_setWorker hi { w with phase := .test j } k
    have honce := h.once k
    have hnone := hholds k
    change s.timesRun k + (s.setWorker i { w with phase := .test j }).held k ≤
      if k < Function.update bound (s.laneOf w) (j + 1) (s.lane k) then 1 else 0
    change (s.setWorker i { w with phase := .test j }).held k + w.phase.holds k =
      s.held k + if j = k then 1 else 0 at hheld
    by_cases hk : s.lane k = s.laneOf w
    · rw [hk, Function.update_self]
      rw [hk] at honce
      by_cases hjk : j = k
      · subst hjk
        rw [if_neg (by omega)] at honce
        simp only [if_true] at hheld
        rw [if_pos (by omega)]
        omega
      · rw [if_neg hjk] at hheld
        split at honce
        · rw [if_pos (by omega)]
          omega
        · omega
    · have hjk : j ≠ k := by
        rintro rfl
        exact hk hlane
      rw [if_neg hjk] at hheld
      rw [Function.update_of_ne hk]
      omega
  all := by
    intro hfailed k hlen hbound
    have hheld := held_setWorker hi { w with phase := .test j } k
    have hnone := hholds k
    change s.timesRun k + (s.setWorker i { w with phase := .test j }).held k = 1
    change (s.setWorker i { w with phase := .test j }).held k + w.phase.holds k =
      s.held k + if j = k then 1 else 0 at hheld
    change k < Function.update bound (s.laneOf w) (j + 1) (s.lane k) at hbound
    by_cases hk : s.lane k = s.laneOf w
    · rw [hk, Function.update_self] at hbound
      by_cases hjk : j = k
      · subst hjk
        have honce := h.once j
        rw [hk, if_neg (by omega)] at honce
        simp only [if_true] at hheld
        omega
      · rw [if_neg hjk] at hheld
        have hbefore : k < bound (s.lane k) := by
          rw [hk]
          exact hgap k hk (by omega)
        have hall := h.all hfailed k hlen hbefore
        omega
    · have hjk : j ≠ k := by
        rintro rfl
        exact hk hlane
      rw [if_neg hjk] at hheld
      rw [Function.update_of_ne hk] at hbound
      have hall := h.all hfailed k hlen hbound
      omega
  range := h.range
  position := by
    intro x hmem hid
    rcases mem_set_other hmem with rfl | ⟨k, hki, hk⟩
    · change s.Standing _ { w with phase := .test j } (s.stage { w with phase := .test j })
      simp only [stage, hseen, if_true, PoolPhase.stage]
      refine ⟨hlane, ?_, fun hmulti => ?_⟩
      · change j < Function.update bound (s.laneOf w) (j + 1) (s.laneOf w)
        rw [Function.update_self]
        omega
      · have hown : s.laneOf w = w.id := by simp [laneOf, show s.multi = true from hmulti]
        change Function.update bound (s.laneOf w) (j + 1) w.id = j + 1
        rw [hown, Function.update_self]
    · have hstand := h.position x (List.mem_of_getElem? hk) hid
      refine hstand.mono (fun l => ?_) (fun hmulti => ?_)
      · by_cases hl : l = s.laneOf w
        · subst hl
          rw [Function.update_self]
          omega
        · rw [Function.update_of_ne hl]
      · have hne : x.id ≠ s.laneOf w := by
          simp only [laneOf, show s.multi = true from hmulti, if_true]
          rw [hroster.id_eq hi, hroster.id_eq hk]
          exact hki
        rw [Function.update_of_ne hne]

theorem Lanes.execute (h : s.Lanes bound) (hi : s.workers[i]? = some w)
    (hseen : w.seen = s.generation) {index : Nat} (hlt : index < s.workload.length)
    (hbefore : ∀ j, w.phase.holds j = if index = j then 1 else 0)
    (hafter : ∀ j, w'.phase.holds j = 0)
    (hstand : w'.id < s.participants → s.Standing bound w' (s.stage w')) :
    ({ s with executed := s.executed ++ [(w.seen, index)] }.setWorker i w').Lanes bound := by
  have hsum : ∀ j, (s.executed ++ [(w.seen, index)]).count (s.generation, j) +
      (s.setWorker i w').held j = s.timesRun j + s.held j := by
    intro j
    have hheld := held_setWorker hi w' j
    rw [hbefore, hafter] at hheld
    rw [List.count_append, List.count_singleton, hseen]
    change s.timesRun j + _ + (s.setWorker i w').held j = _
    by_cases hj : index = j
    · subst hj
      simp only [beq_self_eq_true, if_true] at hheld ⊢
      omega
    · have hne : ((s.generation, index) == (s.generation, j)) = false := by simp [hj]
      rw [if_neg hj] at hheld
      rw [hne]
      simp only [Bool.false_eq_true, if_false]
      omega
  refine ⟨h.single, fun j => ?_, fun hfailed j hj hbound => ?_, fun j hmem => ?_,
    set_forall h.position hstand⟩
  · exact (hsum j).trans_le (h.once j)
  · exact (hsum j).trans (h.all hfailed j hj hbound)
  · rcases List.mem_append.mp hmem with hmem | hmem
    · exact h.range j hmem
    · obtain ⟨-, rfl⟩ := Prod.mk.inj (List.mem_singleton.mp hmem)
      exact hlt

theorem Lanes.fail (h : s.Lanes bound) (stops : Bool) :
    { s with failed := s.failed || stops }.Lanes bound where
  single := h.single
  once := h.once
  all := by
    intro hfailed
    have hbefore : s.failed = false := (Bool.or_eq_false_iff.mp hfailed).1
    exact h.all hbefore
  range := h.range
  position := by
    intro x hmem hid
    have hstand := h.position x hmem hid
    change Standing _ bound x (s.stage x)
    cases hstage : s.stage x with
    | fresh | testing index | working index =>
        rw [hstage] at hstand
        exact hstand
    | past =>
        rw [hstage] at hstand
        rcases hstand with hfailed | hbound
        · exact Or.inl (by simp [hfailed])
        · exact Or.inr hbound

end Lanes

end ThreadPool

end TortoiseWow.Threads
