import TortoiseWow.Threads.PoolLanes

/-!
What holds in every state of the thread pool: the workers of the current batch and the
indices handed out, its errors, and what became of every batch that is complete.
-/

namespace TortoiseWow.Threads

namespace ThreadPool

variable {τ : Type}

/-- The errors are those of the current batch, and a batch has failed if it has an error
that stops it, but for a worker that is about to say so. -/
structure Errors (s : ThreadPool τ) : Prop where
  errors : s.errors = s.thrownIn s.generation
  thrown : ∀ entry ∈ s.thrown, entry.1 ≤ s.generation
  failed : s.failed = true → s.errorHandling.stops = true ∧ s.errors ≠ []
  flagged : s.errorHandling.stops = true → s.errors ≠ [] →
    s.failed = true ∨ ∃ w ∈ s.workers, w.phase.flags = true
  pending : ∀ w ∈ s.workers, w.phase.flags = true → s.errors ≠ []

/-- What became of a batch whose future is ready. -/
structure Served (s : ThreadPool τ) (c : Completion) : Prop where
  once : ∀ j, s.executed.count (c.generation, j) ≤ 1
  range : ∀ j, (c.generation, j) ∈ s.executed → j < c.size
  all : c.error = none → ∀ j, j < c.size → s.executed.count (c.generation, j) = 1
  error : c.error = if s.errorHandling.stops then (s.thrownIn c.generation).head? else none

/-- Every batch but the current one is complete. -/
structure History (s : ThreadPool τ) : Prop where
  executed : ∀ entry ∈ s.executed, entry.1 ≤ s.generation
  positive : s.active ≠ 0 → 0 < s.generation
  completed : s.completed.map Completion.generation =
    List.range' 1 (if s.active = 0 then s.generation else s.generation - 1)
  served : ∀ c ∈ s.completed, s.Served c

section History

variable {s : ThreadPool τ} {i : Nat} {w w' : PoolWorker}

theorem mem_setWorker (hi : s.workers[i]? = some w) (w' : PoolWorker) :
    w' ∈ (s.setWorker i w').workers :=
  List.mem_set (List.getElem?_eq_some_iff.mp hi).1 w'

theorem Errors.setWorker (h : s.Errors) (hi : s.workers[i]? = some w)
    (hflags : w'.phase.flags = w.phase.flags) : (s.setWorker i w').Errors where
  errors := h.errors
  thrown := h.thrown
  failed := h.failed
  flagged := by
    intro hstops herrors
    rcases h.flagged hstops herrors with hfailed | ⟨x, hmem, hx⟩
    · exact Or.inl hfailed
    · refine Or.inr ?_
      obtain ⟨k, hk⟩ := List.mem_iff_getElem?.mp hmem
      by_cases hki : k = i
      · subst hki
        have hxw : w = x := Option.some.inj (hi.symm.trans hk)
        subst hxw
        exact ⟨w', mem_setWorker hi w', hflags.trans hx⟩
      · have hmem' : x ∈ s.workers.set i w' := by
          refine List.mem_iff_getElem?.mpr ⟨k, ?_⟩
          rw [List.getElem?_set_ne (Ne.symm hki)]
          exact hk
        exact ⟨x, hmem', hx⟩
  pending := set_forall h.pending fun hx =>
    h.pending w (List.mem_of_getElem? hi) (hflags.symm.trans hx)

theorem Errors.record (h : s.Errors) (hi : s.workers[i]? = some w)
    (hseen : w.seen = s.generation) (site : Site) (hflags : w'.phase.flags = true) :
    ((s.record w site).setWorker i w').Errors where
  errors := by
    change s.errors ++ [site] = List.map Prod.snd ((s.thrown ++ [(w.seen, site)]).filter _)
    rw [h.errors, List.filter_append, List.map_append, hseen]
    simp [thrownIn, ThreadPool.record, ThreadPool.setWorker]
  thrown := by
    intro entry hmem
    rcases List.mem_append.mp hmem with hmem | hmem
    · exact h.thrown entry hmem
    · rw [List.mem_singleton.mp hmem]
      exact Nat.le_of_eq hseen
  failed := by
    intro hfailed
    refine ⟨(h.failed hfailed).1, ?_⟩
    change s.errors ++ [site] ≠ []
    simp
  flagged := by
    intro _ _
    exact Or.inr ⟨w', mem_setWorker (s := s.record w site) hi w', hflags⟩
  pending := by
    intro _ _ _
    change s.errors ++ [site] ≠ []
    simp

theorem Errors.fail (h : s.Errors) (hi : s.workers[i]? = some w)
    (hflags : w.phase.flags = true) (hflags' : w'.phase.flags = false) :
    ({ s with failed := s.failed || s.errorHandling.stops }.setWorker i w').Errors where
  errors := h.errors
  thrown := h.thrown
  failed := by
    intro hfailed
    rcases Bool.or_eq_true_iff.mp hfailed with hfailed | hstops
    · exact h.failed hfailed
    · exact ⟨hstops, h.pending w (List.mem_of_getElem? hi) hflags⟩
  flagged := by
    intro hstops _
    change s.errorHandling.stops = true at hstops
    refine Or.inl ?_
    change (s.failed || s.errorHandling.stops) = true
    rw [hstops, Bool.or_true]
  pending := set_forall h.pending fun hx => by
    rw [hflags'] at hx
    cases hx

/-- What a batch did is not changed by what the current one does. -/
theorem Served.congr {s s' : ThreadPool τ} {c : Completion} (h : s.Served c)
    (hexecuted : ∀ j, s'.executed.count (c.generation, j) = s.executed.count (c.generation, j))
    (hthrown : s'.thrownIn c.generation = s.thrownIn c.generation)
    (hhandling : s'.errorHandling = s.errorHandling) : s'.Served c where
  once := by
    intro j
    rw [hexecuted]
    exact h.once j
  range := by
    intro j hmem
    have hpos := List.count_pos_iff.mpr hmem
    rw [hexecuted] at hpos
    exact h.range j (List.count_pos_iff.mp hpos)
  all := by
    intro herror j hj
    rw [hexecuted]
    exact h.all herror j hj
  error := by
    rw [hthrown, hhandling]
    exact h.error

/-- While a batch is under way it is not among the complete ones. -/
theorem History.generation_ne (h : s.History) (hactive : s.active ≠ 0) {c : Completion}
    (hmem : c ∈ s.completed) : c.generation < s.generation := by
  have hgen : c.generation ∈ s.completed.map Completion.generation := List.mem_map_of_mem hmem
  have hpos := h.positive hactive
  rw [h.completed, if_neg hactive] at hgen
  have hrange := List.mem_range'_1.mp hgen
  omega

theorem History.execute (h : s.History) (hactive : s.active ≠ 0)
    (hseen : w.seen = s.generation) (index : Nat) :
    { s with executed := s.executed ++ [(w.seen, index)] }.History where
  executed := by
    intro entry hmem
    rcases List.mem_append.mp hmem with hmem | hmem
    · exact h.executed entry hmem
    · rw [List.mem_singleton.mp hmem]
      exact Nat.le_of_eq hseen
  positive := h.positive
  completed := h.completed
  served := by
    intro c hmem
    have hlt := h.generation_ne hactive hmem
    refine (h.served c hmem).congr (fun j => ?_) rfl rfl
    have hne : ((w.seen, index) == (c.generation, j)) = false := by
      simp only [beq_eq_false_iff_ne, ne_eq, Prod.mk.injEq, not_and]
      omega
    rw [List.count_append, List.count_singleton, hne]
    rfl

theorem History.record (h : s.History) (hactive : s.active ≠ 0)
    (hseen : w.seen = s.generation) (site : Site) : (s.record w site).History where
  executed := h.executed
  positive := h.positive
  completed := h.completed
  served := by
    intro c hmem
    have hlt := h.generation_ne hactive hmem
    refine (h.served c hmem).congr (fun j => rfl) ?_ rfl
    have hne : (w.seen == c.generation) = false := by
      simp only [beq_eq_false_iff_ne, ne_eq]
      omega
    change List.map Prod.snd ((s.thrown ++ [(w.seen, site)]).filter _) = _
    rw [List.filter_append, List.filter_singleton, hne]
    simp [thrownIn]

end History

section Publish

variable {s : ThreadPool τ} {bound : Nat → Nat}

def woken (w : PoolWorker) : PoolWorker :=
  if w.phase = .waiting then { w with phase := .checking } else w

@[simp] theorem woken_id (w : PoolWorker) : (woken w).id = w.id := by
  unfold woken
  split <;> rfl

@[simp] theorem woken_seen (w : PoolWorker) : (woken w).seen = w.seen := by
  unfold woken
  split <;> rfl

theorem woken_not_waiting (w : PoolWorker) : (woken w).phase ≠ .waiting := by
  unfold woken
  split
  · simp
  · assumption

/-- To be woken changes nothing but that. -/
theorem woken_phase {α : Type} (f : PoolPhase → α) (h : f .checking = f .waiting)
    (w : PoolWorker) : f (woken w).phase = f w.phase := by
  unfold woken
  split
  · rename_i heq
    rw [heq]
    exact h
  · rfl

theorem mem_notifyAll {workers : List PoolWorker} {w : PoolWorker}
    (hmem : w ∈ notifyAll workers) : ∃ x ∈ workers, woken x = w := List.mem_map.mp hmem

theorem notifyAll_ids (workers : List PoolWorker) :
    (notifyAll workers).map PoolWorker.id = workers.map PoolWorker.id := by
  change (workers.map woken).map PoolWorker.id = _
  rw [List.map_map]
  exact List.map_congr_left fun w _ => woken_id w

theorem weight_notifyAll {f : PoolWorker → Nat} (hf : ∀ w, f (woken w) = f w)
    (workers : List PoolWorker) : Lib.weight f (notifyAll workers) = Lib.weight f workers := by
  induction workers with
  | nil => rfl
  | cons w workers ih =>
      change Lib.weight f (woken w :: notifyAll workers) = _
      rw [Lib.weight_cons, Lib.weight_cons, hf, ih]

theorem due_woken (w : PoolWorker) : s.due (woken w) = s.due w := by
  unfold due
  rw [woken_id, woken_seen, woken_phase PoolPhase.inside rfl]

theorem Crew.notifyAll (h : s.Crew) : { s with workers := notifyAll s.workers }.Crew where
  ids := (notifyAll_ids s.workers).trans h.ids
  seen := by
    intro w hmem
    obtain ⟨x, hx, rfl⟩ := mem_notifyAll hmem
    rw [woken_seen]
    exact h.seen x hx
  inside := by
    intro w hmem hin
    obtain ⟨x, hx, rfl⟩ := mem_notifyAll hmem
    rw [woken_phase PoolPhase.inside rfl] at hin
    rw [woken_id, woken_seen]
    exact h.inside x hx hin
  waiting := by
    intro w hmem hwaiting
    obtain ⟨x, hx, rfl⟩ := mem_notifyAll hmem
    exact absurd hwaiting (woken_not_waiting x)
  exited := by
    intro w hmem hexited
    obtain ⟨x, hx, rfl⟩ := mem_notifyAll hmem
    have hbefore := woken_phase (fun phase => decide (phase = .exited)) rfl x
    exact h.exited x hx (by simpa [hexited] using hbefore)

theorem Roster.notifyAll (h : s.Roster) :
    { s with workers := notifyAll s.workers }.Roster where
  toCrew := h.toCrew.notifyAll
  stopping := h.stopping
  active := h.active.trans (weight_notifyAll due_woken s.workers).symm
  participants := h.participants
  status := h.status

theorem Errors.notifyAll (h : s.Errors) :
    { s with workers := notifyAll s.workers }.Errors where
  errors := h.errors
  thrown := h.thrown
  failed := h.failed
  flagged := by
    intro hstops herrors
    rcases h.flagged hstops herrors with hfailed | ⟨x, hmem, hx⟩
    · exact Or.inl hfailed
    · refine Or.inr ⟨woken x, List.mem_map_of_mem hmem, ?_⟩
      rw [woken_phase PoolPhase.flags rfl]
      exact hx
  pending := by
    intro w hmem hflags
    obtain ⟨x, hx, rfl⟩ := mem_notifyAll hmem
    rw [woken_phase PoolPhase.flags rfl] at hflags
    exact h.pending x hx hflags

theorem Lanes.notifyAll (h : s.Lanes bound) :
    { s with workers := notifyAll s.workers }.Lanes bound := by
  have hheld : ∀ j, { s with workers := ThreadPool.notifyAll s.workers }.held j = s.held j :=
    fun j => weight_notifyAll (woken_phase (PoolPhase.holds j) rfl) s.workers
  refine ⟨h.single, fun j => ?_, fun hfailed j hj hbound => ?_, h.range, ?_⟩
  · rw [hheld]
    exact h.once j
  · rw [hheld]
    exact h.all hfailed j hj hbound
  · intro w hmem hid
    obtain ⟨x, hx, rfl⟩ := mem_notifyAll hmem
    rw [woken_id] at hid
    have hstage : s.stage (woken x) = s.stage x := by
      simp only [stage, woken_seen, woken_phase PoolPhase.stage rfl]
    change s.Standing bound (woken x) (s.stage (woken x))
    rw [hstage, standing_congr (woken_id x)]
    exact h.position x hx hid

/-- The participants are the workers with the lowest numbers. -/
theorem weight_range (n p : Nat) :
    Lib.weight (fun k => if k < p then 1 else 0) (List.range n) = min n p := by
  induction n with
  | zero => simp
  | succ n ih =>
      rw [List.range_succ, Lib.weight_append, ih, Lib.weight_cons, Lib.weight_nil]
      split <;> omega

/-- The state in which a batch begins. -/
def published (s : ThreadPool τ) : ThreadPool τ :=
  let participants := min s.size s.workload.length
  { s with
    errors := []
    failed := false
    index := 0
    participants
    active := participants
    dirty := true
    generation := s.generation + 1
    status := .processing
    workers := notifyAll s.workers }

theorem published_seen (h : s.Roster) {w : PoolWorker} (hmem : w ∈ s.published.workers) :
    w.seen ≠ s.published.generation := by
  obtain ⟨x, hx, rfl⟩ := mem_notifyAll hmem
  have hseen := h.seen x hx
  rw [woken_seen]
  change x.seen ≠ s.generation + 1
  omega

theorem published_outside (h : s.Roster) (hactive : s.active = 0) {w : PoolWorker}
    (hmem : w ∈ s.published.workers) : w.phase.inside = false := by
  obtain ⟨x, hx, rfl⟩ := mem_notifyAll hmem
  rw [woken_phase PoolPhase.inside rfl]
  exact h.outside hactive x hx

theorem holds_of_outside {phase : PoolPhase} (h : phase.inside = false) (j : Nat) :
    phase.holds j = 0 := by
  cases phase <;> first | rfl | cases h

theorem flags_of_outside {phase : PoolPhase} (h : phase.inside = false) :
    phase.flags = false := by
  cases phase <;> first | rfl | cases h

theorem held_of_outside (h : ∀ w ∈ s.workers, w.phase.inside = false) (j : Nat) :
    s.held j = 0 := by
  refine List.sum_eq_zero fun n hmem => ?_
  obtain ⟨w, hw, rfl⟩ := List.mem_map.mp hmem
  exact holds_of_outside (h w hw) j

theorem Roster.published (h : s.Roster) (hidle : s.idle = true) (hstatus : s.status = .ready)
    (hne : s.workload ≠ []) : s.published.Roster := by
  obtain ⟨hactive, hstopping⟩ : s.active = 0 ∧ s.stopping = false := by
    simpa [idle] using hidle
  have hsize : s.size ≠ 0 := by
    intro hsize
    have hstatus' := h.status
    rw [hstatus, hstopping, hsize] at hstatus'
    cases hstatus'
  have hlen : s.workload.length ≠ 0 := fun hlen => hne (List.eq_nil_of_length_eq_zero hlen)
  have hpositive : min s.size s.workload.length ≠ 0 := by omega
  have hnotify := h.toCrew.notifyAll
  refine ⟨⟨hnotify.ids, fun w hmem => Nat.le_succ_of_le (hnotify.seen w hmem),
    fun w hmem hin => ?_, fun w hmem hwaiting => ?_, hnotify.exited⟩, fun hstop => ?_, ?_,
    fun _ => rfl, ?_⟩
  · rw [published_outside h hactive hmem] at hin
    cases hin
  · obtain ⟨x, -, rfl⟩ := mem_notifyAll hmem
    exact absurd hwaiting (woken_not_waiting x)
  · change s.stopping = true at hstop
    rw [hstopping] at hstop
    cases hstop
  · have hdue : Lib.weight s.published.due s.published.workers =
        Lib.weight (fun k => if k < min s.size s.workload.length then 1 else 0)
          (s.published.workers.map PoolWorker.id) := by
      unfold Lib.weight
      rw [List.map_map]
      refine congrArg List.sum (List.map_congr_left fun w hmem => ?_)
      have hseen := published_seen h hmem
      simp only [due, hseen, ne_eq, not_false_eq_true, or_true, and_true, Function.comp]
      rfl
    rw [hdue, show s.published.workers.map PoolWorker.id = List.range s.size from hnotify.ids,
      weight_range]
    change min s.size s.workload.length = min s.size (min s.size s.workload.length)
    omega
  · change PoolStatus.processing = if s.stopping = true then .terminating
      else if s.size = 0 then .stopped
      else if min s.size s.workload.length = 0 then .ready else .processing
    rw [hstopping, if_neg (by simp), if_neg hsize, if_neg hpositive]

theorem Lanes.published (h : s.Roster) (history : s.History) (hactive : s.active = 0) :
    s.published.Lanes fun _ => 0 where
  single := fun _ => rfl
  once := by
    intro j
    have hnone : s.published.timesRun j = 0 := by
      refine List.count_eq_zero.mpr fun hmem => ?_
      exact Nat.not_succ_le_self _ (history.executed _ hmem)
    rw [hnone, held_of_outside (fun w hmem => published_outside h hactive hmem)]
    simp
  all := by
    intro _ j _ hbound
    cases hbound
  range := by
    intro j hmem
    exact absurd (history.executed _ hmem) (Nat.not_succ_le_self _)
  position := by
    intro w hmem _
    rw [stage, if_neg (published_seen h hmem)]
    exact fun _ => rfl

theorem Errors.published (h : s.Errors) (hroster : s.Roster) (hactive : s.active = 0) :
    s.published.Errors where
  errors := by
    have hnone : s.thrown.filter (fun entry => entry.1 == s.generation + 1) = [] := by
      refine List.filter_eq_nil_iff.mpr fun entry hmem heq => ?_
      have hle := h.thrown entry hmem
      simp only [beq_iff_eq] at heq
      omega
    change [] = (s.thrown.filter fun entry => entry.1 == s.generation + 1).map Prod.snd
    rw [hnone]
    rfl
  thrown := fun entry hmem => Nat.le_succ_of_le (h.thrown entry hmem)
  failed := by
    intro hfailed
    cases hfailed
  flagged := fun _ herrors => absurd rfl herrors
  pending := by
    intro w hmem hflags
    rw [flags_of_outside (published_outside hroster hactive hmem)] at hflags
    cases hflags

theorem History.published (h : s.History) (hactive : s.active = 0)
    (hpositive : s.published.active ≠ 0) : s.published.History where
  executed := fun entry hmem => Nat.le_succ_of_le (h.executed entry hmem)
  positive := fun _ => Nat.succ_pos _
  completed := by
    have hbefore := h.completed
    rw [if_pos hactive] at hbefore
    rw [if_neg hpositive]
    exact hbefore
  served := fun c hmem => (h.served c hmem).congr (fun _ => rfl) rfl rfl

end Publish

section Leave

variable {s : ThreadPool τ} {bound : Nat → Nat} {i : Nat} {w : PoolWorker}

theorem Roster.not_stopping (h : s.Roster) (hactive : s.active ≠ 0) : s.stopping = false := by
  cases hstop : s.stopping with
  | false => rfl
  | true => exact absurd (h.stopping hstop) hactive

theorem Roster.size_ne_zero (h : s.Roster) (hactive : s.active ≠ 0) : s.size ≠ 0 := by
  intro hsize
  have hempty : s.workers = [] := by
    have hids := h.ids
    rw [hsize] at hids
    exact List.map_eq_nil_iff.mp hids
  have hweight := h.active
  rw [hempty] at hweight
  exact hactive hweight

theorem Roster.leave (h : s.Roster) (hi : s.workers[i]? = some w) (hphase : w.phase = .leave) :
    ((s.leave w).setWorker i { w with phase := .checking }).Roster := by
  have hmem := List.mem_of_getElem? hi
  have hin := inside_of_phase hphase rfl
  obtain ⟨hid, hseen⟩ := h.inside w hmem hin
  have hactive := h.active_of_inside hi hin
  have hstopping := h.not_stopping hactive
  have hsize := h.size_ne_zero hactive
  have hcrew : (s.setWorker i { w with phase := .checking }).Crew :=
    h.toCrew.setWorker hi rfl (h.seen w hmem) (by simp [PoolPhase.inside]) (by simp) (by simp)
  have hweight :
    s.active - 1 = Lib.weight s.due (s.workers.set i { w with phase := .checking }) := by
    have hset := Lib.weight_set s.due { w with phase := .checking } hi
    have hafter : s.due { w with phase := .checking } = 0 := by
      simp [due, PoolPhase.inside, hseen]
    rw [hafter, due_eq_one hid (Or.inl hin), ← h.active] at hset
    omega
  simp only [ThreadPool.leave]
  split
  · rename_i hlast
    refine ⟨⟨hcrew.ids, hcrew.seen, hcrew.inside, hcrew.waiting, hcrew.exited⟩, fun _ => hlast,
      hweight, fun hne => absurd hlast hne, ?_⟩
    change PoolStatus.ready = if s.stopping = true then .terminating
      else if s.size = 0 then .stopped else if s.active - 1 = 0 then .ready else .processing
    rw [hstopping, if_neg (by simp), if_neg hsize, if_pos hlast]
  · rename_i hlast
    refine ⟨⟨hcrew.ids, hcrew.seen, hcrew.inside, hcrew.waiting, hcrew.exited⟩, fun hstop => ?_,
      hweight, fun _ => h.participants hactive, ?_⟩
    · exact absurd (h.stopping hstop) hactive
    · change s.status = if s.stopping = true then .terminating
        else if s.size = 0 then .stopped else if s.active - 1 = 0 then .ready else .processing
      rw [h.status, hstopping, if_neg hactive, if_neg hlast]

theorem Roster.last (h : s.Roster) (hi : s.workers[i]? = some w) (hphase : w.phase = .leave)
    (hlast : s.active - 1 = 0) {k : Nat} {x : PoolWorker} (hki : k ≠ i)
    (hk : s.workers[k]? = some x) :
    x.phase.inside = false ∧ (x.id < s.participants → x.seen = s.generation) := by
  have hin := inside_of_phase hphase rfl
  have hdue := due_eq_one (h.inside w (List.mem_of_getElem? hi) hin).1 (Or.inl hin)
  have hpair := Lib.weight_ge_pair s.due hi hk (Ne.symm hki)
  rw [← h.active, hdue] at hpair
  have hnone : s.due x = 0 := by omega
  have hout : x.phase.inside = false := by
    cases hx : x.phase.inside with
    | false => rfl
    | true =>
        rw [due_eq_one (h.inside x (List.mem_of_getElem? hk) hx).1 (Or.inl hx)] at hnone
        cases hnone
  refine ⟨hout, fun hid => ?_⟩
  by_contra hseen
  rw [due_eq_one hid (Or.inr hseen)] at hnone
  cases hnone

theorem stage_of_outside {phase : PoolPhase} (h : phase.inside = false) : phase.stage = .past := by
  cases phase <;> first | rfl | cases h

/-- When the last worker leaves a batch that has not failed, every task was executed. -/
theorem Lanes.complete (h : s.Lanes bound) (hroster : s.Roster) (hi : s.workers[i]? = some w)
    (hphase : w.phase = .leave) (hlast : s.active - 1 = 0) (hfailed : s.failed = false) {j : Nat}
    (hj : j < s.workload.length) : s.timesRun j = 1 := by
  have hin := inside_of_phase hphase rfl
  have hactive := hroster.active_of_inside hi hin
  have hparticipants := hroster.participants hactive
  have hsize := hroster.size_ne_zero hactive
  have hpast : ∀ x ∈ s.workers, x.id < s.participants → s.Past bound x := by
    intro x hmem hid
    have hstand := h.position x hmem hid
    obtain ⟨k, hk⟩ := List.mem_iff_getElem?.mp hmem
    by_cases hki : k = i
    · subst hki
      have hxw : w = x := Option.some.inj (hi.symm.trans hk)
      subst hxw
      rw [stage, if_pos (hroster.inside w hmem hin).2, hphase] at hstand
      exact hstand
    · obtain ⟨hout, hseen⟩ := hroster.last hi hphase hlast hki hk
      rw [stage, if_pos (hseen hid), stage_of_outside hout] at hstand
      exact hstand
  have hnone : s.held j = 0 := by
    refine List.sum_eq_zero fun n hmem => ?_
    obtain ⟨x, hx, rfl⟩ := List.mem_map.mp hmem
    obtain ⟨k, hk⟩ := List.mem_iff_getElem?.mp hx
    by_cases hki : k = i
    · subst hki
      have hxw : w = x := Option.some.inj (hi.symm.trans hk)
      rw [← hxw, hphase]
      rfl
    · exact holds_of_outside (hroster.last hi hphase hlast hki hk).1 j
  have hlane : s.lane j < s.participants := by
    have hmod := Nat.mod_lt j (Nat.pos_of_ne_zero hsize)
    have hle := Nat.mod_le j s.size
    unfold lane
    split <;> omega
  obtain ⟨x, hmem, hid⟩ := hroster.worker (k := s.lane j) (by omega)
  have hown : s.laneOf x = s.lane j := by
    unfold laneOf
    split
    · exact hid
    · rename_i hmulti
      simp [lane, hmulti]
  rcases hpast x hmem (by omega) with hfail | hbound
  · rw [hfailed] at hfail
    cases hfail
  · rw [hown] at hbound
    have hall := h.all hfailed j hj (by omega)
    omega

theorem stage_checking (hphase : w.phase = .leave) :
    s.stage { w with phase := .checking } = s.stage w := by
  simp only [stage, hphase, PoolPhase.stage]

theorem Lanes.leave (h : s.Lanes bound) (hi : s.workers[i]? = some w) (hphase : w.phase = .leave)
    (hlast : s.active - 1 ≠ 0) :
    ((s.leave w).setWorker i { w with phase := .checking }).Lanes bound := by
  have hmoved : (s.setWorker i { w with phase := .checking }).Lanes bound := by
    refine h.move hi (fun j => ?_) (fun hid => ?_)
    · rw [hphase]
      rfl
    · rw [stage_checking hphase]
      refine (standing_congr (w := w) rfl _).mpr ?_
      exact h.position w (List.mem_of_getElem? hi) hid
  simp only [ThreadPool.leave, if_neg hlast]
  exact ⟨hmoved.single, hmoved.once, hmoved.all, hmoved.range, hmoved.position⟩

theorem Errors.leave (h : s.Errors) (hi : s.workers[i]? = some w) (hphase : w.phase = .leave) :
    ((s.leave w).setWorker i { w with phase := .checking }).Errors := by
  have hset : (s.setWorker i { w with phase := .checking }).Errors := by
    refine h.setWorker hi ?_
    rw [hphase]
    rfl
  simp only [ThreadPool.leave]
  split
  · exact ⟨hset.errors, hset.thrown, hset.failed, hset.flagged, hset.pending⟩
  · exact ⟨hset.errors, hset.thrown, hset.failed, hset.flagged, hset.pending⟩

/-- When nobody is about to set it, `failed` says whether an error stopped the batch. -/
theorem Errors.outcome (h : s.Errors) (hflags : ∀ w ∈ s.workers, w.phase.flags = false) :
    (if s.failed then s.errors.head? else none) =
      if s.errorHandling.stops then (s.thrownIn s.generation).head? else none := by
  rw [← h.errors]
  cases hfailed : s.failed with
  | true => rw [(h.failed hfailed).1]
  | false =>
      cases hstops : s.errorHandling.stops with
      | false => rfl
      | true =>
          have hnone : s.errors = [] := by
            by_contra herrors
            rcases h.flagged hstops herrors with hfail | ⟨w, hmem, hw⟩
            · rw [hfailed] at hfail
              cases hfail
            · rw [hflags w hmem] at hw
              cases hw
          simp [hnone]

theorem Served.leave (roster : s.Roster) (errors : s.Errors) (lanes : s.Lanes bound)
    (hi : s.workers[i]? = some w) (hphase : w.phase = .leave) (hlast : s.active - 1 = 0) :
    s.Served {
      generation := w.seen
      size := s.workload.length
      error := if s.failed then s.errors.head? else none } := by
  have hin := inside_of_phase hphase rfl
  have hseen := (roster.inside w (List.mem_of_getElem? hi) hin).2
  have hflags : ∀ x ∈ s.workers, x.phase.flags = false := by
    intro x hmem
    obtain ⟨k, hk⟩ := List.mem_iff_getElem?.mp hmem
    by_cases hki : k = i
    · subst hki
      have hxw : w = x := Option.some.inj (hi.symm.trans hk)
      rw [← hxw, hphase]
      rfl
    · exact flags_of_outside (roster.last hi hphase hlast hki hk).1
  have houtcome := errors.outcome hflags
  refine ⟨fun j => ?_, fun j hmem => ?_, fun herror j hj => ?_, ?_⟩
  · have honce := lanes.once j
    change s.executed.count (w.seen, j) ≤ 1
    rw [hseen]
    change s.timesRun j ≤ 1
    split at honce <;> omega
  · change (w.seen, j) ∈ s.executed at hmem
    rw [hseen] at hmem
    exact lanes.range j hmem
  · change s.executed.count (w.seen, j) = 1
    rw [hseen]
    refine lanes.complete roster hi hphase hlast ?_ hj
    cases hfailed : s.failed with
    | false => rfl
    | true =>
        change (if s.failed = true then s.errors.head? else none) = none at herror
        rw [hfailed, if_pos rfl, List.head?_eq_none_iff] at herror
        exact absurd herror (errors.failed hfailed).2
  · change (if s.failed then s.errors.head? else none) = _
    rw [houtcome, hseen]

theorem History.leave (h : s.History) (roster : s.Roster) (errors : s.Errors)
    (lanes : s.Lanes bound) (hi : s.workers[i]? = some w) (hphase : w.phase = .leave) :
    ((s.leave w).setWorker i { w with phase := .checking }).History := by
  have hin := inside_of_phase hphase rfl
  have hactive := roster.active_of_inside hi hin
  have hseen := (roster.inside w (List.mem_of_getElem? hi) hin).2
  have hpositive := h.positive hactive
  have hbefore := h.completed
  rw [if_neg hactive] at hbefore
  simp only [ThreadPool.leave]
  split
  · rename_i hlast
    refine ⟨h.executed, fun hne => absurd hlast hne, ?_, fun c hmem => ?_⟩
    · change (s.completed ++ _).map Completion.generation =
        List.range' 1 (if s.active - 1 = 0 then s.generation else s.generation - 1)
      obtain ⟨n, hn⟩ : ∃ n, s.generation = n + 1 := ⟨s.generation - 1, by omega⟩
      rw [List.map_append, hbefore, if_pos hlast, hn, List.range'_concat]
      simp [hseen, hn, Nat.add_comm]
    · have hserved : s.Served c := by
        rcases List.mem_append.mp hmem with hmem | hmem
        · exact h.served c hmem
        · rw [List.mem_singleton.mp hmem]
          exact Served.leave roster errors lanes hi hphase hlast
      exact hserved.congr (fun _ => rfl) rfl rfl
  · rename_i hlast
    refine ⟨h.executed, fun _ => hpositive, ?_, fun c hmem => ?_⟩
    · change s.completed.map Completion.generation =
        List.range' 1 (if s.active - 1 = 0 then s.generation else s.generation - 1)
      rw [if_neg hlast]
      exact hbefore
    · exact (h.served c hmem).congr (fun _ => rfl) rfl rfl

end Leave

/-- Everything that holds in every state. -/
structure Sound (errorHandling : ErrorHandling) (s : ThreadPool τ) : Prop where
  roster : s.Roster
  errors : s.Errors
  history : s.History
  lanes : s.active ≠ 0 → ∃ bound, s.Lanes bound
  handling : s.errorHandling = errorHandling

section Sound

variable {errorHandling : ErrorHandling} {s : ThreadPool τ} {i : Nat} {w w' : PoolWorker}

theorem sound_start (size : Nat) (multi : Bool) (clearMode : ClearMode) :
    (start τ size multi clearMode errorHandling).Sound errorHandling where
  roster := by
    have hworkers : ∀ w ∈ (start τ size multi clearMode errorHandling).workers,
        w.phase = .checking ∧ w.seen = 0 := by
      intro w hmem
      obtain ⟨id, -, rfl⟩ := List.mem_map.mp hmem
      exact ⟨rfl, rfl⟩
    refine ⟨⟨?_, fun w hmem => ?_, fun w hmem hin => ?_, fun w hmem hwaiting => ?_,
      fun w hmem hexited => ?_⟩, fun hstop => ?_, ?_, fun hactive => absurd rfl hactive, ?_⟩
    · simp [start, Function.comp_def]
    · exact Nat.le_of_eq (hworkers w hmem).2
    · rw [(hworkers w hmem).1] at hin
      cases hin
    · rw [(hworkers w hmem).1] at hwaiting
      cases hwaiting
    · rw [(hworkers w hmem).1] at hexited
      cases hexited
    · cases hstop
    · symm
      refine List.sum_eq_zero fun n hmem => ?_
      obtain ⟨w, -, rfl⟩ := List.mem_map.mp hmem
      rfl
    · rfl
  errors := by
    refine ⟨rfl, fun entry hmem => ?_, fun hfailed => ?_, fun _ herrors => absurd rfl herrors,
      fun w hmem hflags => ?_⟩
    · cases hmem
    · cases hfailed
    · obtain ⟨id, -, rfl⟩ := List.mem_map.mp hmem
      cases hflags
  history := by
    refine ⟨fun entry hmem => ?_, fun hactive => absurd rfl hactive, rfl, fun c hmem => ?_⟩
    · cases hmem
    · cases hmem
  lanes := fun hactive => absurd rfl hactive
  handling := rfl

theorem Sound.setWorker (h : s.Sound errorHandling) (hi : s.workers[i]? = some w)
    (hroster : (s.setWorker i w').Roster) (hflags : w'.phase.flags = w.phase.flags)
    (hlanes : ∀ bound, s.Lanes bound → (s.setWorker i w').Lanes bound) :
    (s.setWorker i w').Sound errorHandling where
  roster := hroster
  errors := h.errors.setWorker hi hflags
  history := by
    refine ⟨h.history.executed, h.history.positive, h.history.completed, fun c hmem => ?_⟩
    exact (h.history.served c hmem).congr (fun _ => rfl) rfl rfl
  lanes := by
    intro hactive
    obtain ⟨bound, hbound⟩ := h.lanes hactive
    exact ⟨bound, hlanes bound hbound⟩
  handling := h.handling

theorem Sound.advance (h : s.Sound errorHandling) (hi : s.workers[i]? = some w)
    (hin : w.phase.inside = true) {phase : PoolPhase} (hin' : phase.inside = true)
    (hflags : phase.flags = w.phase.flags) (hholds : ∀ j, phase.holds j = w.phase.holds j)
    (hstand : ∀ bound, s.Standing bound w w.phase.stage → s.Standing bound w phase.stage) :
    (s.setWorker i { w with phase }).Sound errorHandling := by
  obtain ⟨hid, hseen⟩ := h.roster.inside w (List.mem_of_getElem? hi) hin
  refine h.setWorker hi (h.roster.advance hi hin hin') hflags fun bound hbound => ?_
  refine hbound.move hi hholds fun _ => ?_
  have hposition := hbound.position w (List.mem_of_getElem? hi) hid
  rw [stage, if_pos hseen] at hposition
  refine (standing_congr (w := w) rfl _).mpr ?_
  rw [stage, if_pos hseen]
  exact hstand bound hposition

theorem Sound.take (h : s.Sound errorHandling) (hi : s.workers[i]? = some w)
    (hin : w.phase.inside = true) (hflags : w.phase.flags = false)
    (hholds : ∀ k, w.phase.holds k = 0) {index j : Nat} (hlane : s.lane j = s.laneOf w)
    (hnext : ∀ bound, s.Lanes bound → s.Standing bound w w.phase.stage →
      bound (s.laneOf w) ≤ j ∧
        ∀ k, s.lane k = s.laneOf w → k < j → k < bound (s.laneOf w))
    (hindex : s.multi = false → index = j + 1) :
    ({ s with index }.setWorker i { w with phase := .test j }).Sound errorHandling := by
  obtain ⟨hid, hseen⟩ := h.roster.inside w (List.mem_of_getElem? hi) hin
  have hroster := @Roster.advance _ _ _ _ h.roster hi hin (.test j) rfl
  have herrors := @Errors.setWorker _ _ _ _ { w with phase := .test j } h.errors hi hflags.symm
  refine ⟨?_, ?_, ?_, fun hactive => ?_, h.handling⟩
  · exact ⟨⟨hroster.ids, hroster.seen, hroster.inside, hroster.waiting, hroster.exited⟩,
      hroster.stopping, hroster.active, hroster.participants, hroster.status⟩
  · exact ⟨herrors.errors, herrors.thrown, herrors.failed, herrors.flagged, herrors.pending⟩
  · refine ⟨h.history.executed, h.history.positive, h.history.completed, fun c hmem => ?_⟩
    exact (h.history.served c hmem).congr (fun _ => rfl) rfl rfl
  · obtain ⟨bound, hbound⟩ := h.lanes hactive
    have hposition := hbound.position w (List.mem_of_getElem? hi) hid
    rw [stage, if_pos hseen] at hposition
    obtain ⟨hfree, hgap⟩ := hnext bound hbound hposition
    exact ⟨_, hbound.take h.roster hi hseen hlane hfree hgap hindex hholds⟩

theorem Sound.fetch (h : s.Sound errorHandling) (hi : s.workers[i]? = some w)
    (hphase : w.phase = .fetch) (throws : Bool) : (s.work i w throws).Sound errorHandling := by
  have hin := inside_of_phase hphase rfl
  have hflags : w.phase.flags = false := by
    rw [hphase]
    rfl
  have hholds : ∀ k, w.phase.holds k = 0 := fun k => by
    rw [hphase]
    rfl
  have hid := (h.roster.inside w (List.mem_of_getElem? hi) hin).1
  have hparticipants := h.roster.participants (h.roster.active_of_inside hi hin)
  simp only [work, hphase]
  by_cases hmulti : s.multi = true
  case pos =>
      rw [if_pos hmulti]
      have hmod : w.id % s.size = w.id := Nat.mod_eq_of_lt (by omega)
      refine h.take hi hin hflags hholds ?_ (fun bound _ hstand => ?_) ?_
      · simp [lane, laneOf, hmulti, hmod]
      · rw [hphase] at hstand
        have hzero : bound w.id = 0 := hstand hmulti
        simp only [lane, laneOf, hmulti, if_true, hzero]
        refine ⟨Nat.zero_le _, fun k hk hlt => ?_⟩
        rw [Nat.mod_eq_of_lt (show k < s.size by omega)] at hk
        omega
      · intro hsingle
        rw [hmulti] at hsingle
        cases hsingle
  case neg =>
      rw [if_neg hmulti]
      refine h.take hi hin hflags hholds ?_ (fun bound hbound _ => ?_) (fun _ => rfl)
      · simp [lane, laneOf, hmulti]
      · have hsingle := hbound.single (Bool.eq_false_of_not_eq_true hmulti)
        simp only [laneOf, hmulti, Bool.false_eq_true, if_false, hsingle]
        exact ⟨Nat.le_refl _, fun k _ hlt => hlt⟩

theorem Sound.next (h : s.Sound errorHandling) (hi : s.workers[i]? = some w) {j : Nat}
    (hphase : w.phase = .next j) (throws : Bool) : (s.work i w throws).Sound errorHandling := by
  have hin := inside_of_phase hphase rfl
  have hflags : w.phase.flags = false := by
    rw [hphase]
    rfl
  have hholds : ∀ k, w.phase.holds k = 0 := fun k => by
    rw [hphase]
    rfl
  have hactive := h.roster.active_of_inside hi hin
  have hsize := h.roster.size_ne_zero hactive
  simp only [work, hphase]
  by_cases hmulti : s.multi = true
  case pos =>
      rw [if_pos hmulti]
      obtain ⟨bound, hbound⟩ := h.lanes hactive
      obtain ⟨hid, hseen⟩ := h.roster.inside w (List.mem_of_getElem? hi) hin
      have hposition := hbound.position w (List.mem_of_getElem? hi) hid
      rw [stage, if_pos hseen, hphase] at hposition
      have hlane := hposition.1.1
      refine h.take hi hin hflags hholds ?_ (fun bound _ hstand => ?_) ?_
      · rw [← hlane]
        simp [lane, hmulti]
      · rw [hphase] at hstand
        have hlast : bound w.id = j + 1 := hstand.1.2.2 hmulti
        simp only [lane, laneOf, hmulti, if_true, hlast] at hlane ⊢
        refine ⟨by omega, fun k hk hlt => ?_⟩
        rw [← hlane] at hk
        by_contra hge
        have hdiv := Nat.div_add_mod k s.size
        have hdiv' := Nat.div_add_mod j s.size
        have hlow : j / s.size < k / s.size := by
          by_contra hle
          have hmul := Nat.mul_le_mul_left s.size (Nat.le_of_not_lt hle)
          omega
        have hmul := Nat.mul_le_mul_left s.size hlow
        rw [Nat.mul_succ] at hmul
        omega
      · intro hsingle
        rw [hmulti] at hsingle
        cases hsingle
  case neg =>
      rw [if_neg hmulti]
      refine h.take hi hin hflags hholds ?_ (fun bound hbound _ => ?_) (fun _ => rfl)
      · simp [lane, laneOf, hmulti]
      · have hsingle := hbound.single (Bool.eq_false_of_not_eq_true hmulti)
        simp only [laneOf, hmulti, Bool.false_eq_true, if_false, hsingle]
        exact ⟨Nat.le_refl _, fun k _ hlt => hlt⟩

theorem Sound.record (h : s.Sound errorHandling) (hi : s.workers[i]? = some w)
    (hin : w.phase.inside = true) {site : Site}
    (hstage : w.phase.stage = (PoolPhase.flag site).stage) (hholds : ∀ j, w.phase.holds j = 0) :
    ((s.record w site).setWorker i { w with phase := .flag site }).Sound errorHandling := by
  obtain ⟨hid, hseen⟩ := h.roster.inside w (List.mem_of_getElem? hi) hin
  have hactive := h.roster.active_of_inside hi hin
  have hroster := @Roster.advance _ _ _ _ h.roster hi hin (.flag site) rfl
  have hhistory := h.history.record hactive hseen site
  refine ⟨?_, h.errors.record hi hseen site rfl, ?_, fun _ => ?_, h.handling⟩
  · exact ⟨⟨hroster.ids, hroster.seen, hroster.inside, hroster.waiting, hroster.exited⟩,
      hroster.stopping, hroster.active, hroster.participants, hroster.status⟩
  · refine ⟨hhistory.executed, hhistory.positive, hhistory.completed, fun c hmem => ?_⟩
    exact (hhistory.served c hmem).congr (fun _ => rfl) rfl rfl
  · obtain ⟨bound, hbound⟩ := h.lanes hactive
    have hposition := hbound.position w (List.mem_of_getElem? hi) hid
    have hmoved : (s.setWorker i { w with phase := .flag site }).Lanes bound := by
      refine hbound.move hi (fun j => (hholds j).symm) fun _ => ?_
      refine (standing_congr (w := w) rfl _).mpr ?_
      rw [stage, if_pos hseen] at hposition ⊢
      rw [← hstage]
      exact hposition
    exact ⟨bound, hmoved.single, hmoved.once, hmoved.all, hmoved.range, hmoved.position⟩

theorem Sound.execute (h : s.Sound errorHandling) (hi : s.workers[i]? = some w) {j : Nat}
    (hphase : w.phase = .run j) :
    ({ s with executed := s.executed ++ [(w.seen, j)] }.setWorker i
      { w with phase := .next j }).Sound errorHandling := by
  have hin := inside_of_phase hphase rfl
  obtain ⟨hid, hseen⟩ := h.roster.inside w (List.mem_of_getElem? hi) hin
  have hactive := h.roster.active_of_inside hi hin
  have hroster := @Roster.advance _ _ _ _ h.roster hi hin (.next j) rfl
  have herrors := @Errors.setWorker _ _ _ _ { w with phase := .next j } h.errors hi
    (by rw [hphase]; rfl)
  have hhistory := h.history.execute hactive hseen j
  refine ⟨?_, ?_, ?_, fun _ => ?_, h.handling⟩
  · exact ⟨⟨hroster.ids, hroster.seen, hroster.inside, hroster.waiting, hroster.exited⟩,
      hroster.stopping, hroster.active, hroster.participants, hroster.status⟩
  · exact ⟨herrors.errors, herrors.thrown, herrors.failed, herrors.flagged, herrors.pending⟩
  · refine ⟨hhistory.executed, hhistory.positive, hhistory.completed, fun c hmem => ?_⟩
    exact (hhistory.served c hmem).congr (fun _ => rfl) rfl rfl
  · obtain ⟨bound, hbound⟩ := h.lanes hactive
    have hposition := hbound.position w (List.mem_of_getElem? hi) hid
    rw [stage, if_pos hseen, hphase] at hposition
    refine ⟨bound, hbound.execute hi hseen hposition.2 (fun k => ?_) (fun k => rfl) fun _ => ?_⟩
    · rw [hphase]
      rfl
    · refine (standing_congr (w := w) rfl _).mpr ?_
      rw [stage, if_pos hseen]
      exact hposition

theorem record_setWorker (s : ThreadPool τ) (i : Nat) (w w' : PoolWorker) (site : Site) :
    ((s.setWorker i w).record w site).setWorker i w' = (s.record w site).setWorker i w' := by
  simp only [setWorker, ThreadPool.record, List.set_set]

theorem Sound.run (h : s.Sound errorHandling) (hi : s.workers[i]? = some w) {j : Nat}
    (hphase : w.phase = .run j) (throws : Bool) : (s.work i w throws).Sound errorHandling := by
  have hexecuted := h.execute hi hphase
  simp only [work, hphase]
  cases throws with
  | false => exact hexecuted
  | true =>
      have hlt := (List.getElem?_eq_some_iff.mp hi).1
      have hi' : ({ s with executed := s.executed ++ [(w.seen, j)] }.setWorker i
          { w with phase := .next j }).workers[i]? = some { w with phase := .next j } :=
        List.getElem?_set_self hlt
      have hrecorded := @Sound.record _ _ _ _ _ hexecuted hi' rfl (.task j) rfl (fun _ => rfl)
      rw [record_setWorker] at hrecorded
      exact hrecorded

theorem Sound.flag (h : s.Sound errorHandling) (hi : s.workers[i]? = some w) {site : Site}
    (hphase : w.phase = .flag site) (throws : Bool) :
    (s.work i w throws).Sound errorHandling := by
  have hin := inside_of_phase hphase rfl
  obtain ⟨hid, hseen⟩ := h.roster.inside w (List.mem_of_getElem? hi) hin
  have hstage : (Site.after site).stage = (PoolPhase.flag site).stage := by
    cases site <;> rfl
  have hin' : (Site.after site).inside = true := by
    cases site <;> rfl
  have hflags' : (Site.after site).flags = false := by
    cases site <;> rfl
  have hroster := h.roster.advance hi hin hin'
  simp only [work, hphase]
  refine ⟨?_, ?_, ?_, fun hactive => ?_, h.handling⟩
  · exact ⟨⟨hroster.ids, hroster.seen, hroster.inside, hroster.waiting, hroster.exited⟩,
      hroster.stopping, hroster.active, hroster.participants, hroster.status⟩
  · refine h.errors.fail hi ?_ hflags'
    rw [hphase]
    rfl
  · refine ⟨h.history.executed, h.history.positive, h.history.completed, fun c hmem => ?_⟩
    exact (h.history.served c hmem).congr (fun _ => rfl) rfl rfl
  · obtain ⟨bound, hbound⟩ := h.lanes hactive
    have hfailed := hbound.fail s.errorHandling.stops
    have hposition := hfailed.position w (List.mem_of_getElem? hi) hid
    refine ⟨bound, hfailed.move hi (fun j => ?_) fun _ => ?_⟩
    · rw [hphase]
      cases site <;> rfl
    · refine (standing_congr (w := w) rfl _).mpr ?_
      rw [stage, if_pos hseen] at hposition ⊢
      rw [hphase] at hposition
      rw [hstage]
      exact hposition

theorem Sound.test (h : s.Sound errorHandling) (hi : s.workers[i]? = some w) {j : Nat}
    (hphase : w.phase = .test j) (throws : Bool) : (s.work i w throws).Sound errorHandling := by
  have hin := inside_of_phase hphase rfl
  obtain ⟨hid, hseen⟩ := h.roster.inside w (List.mem_of_getElem? hi) hin
  simp only [work, hphase]
  split
  · rename_i hgo
    refine h.advance hi hin rfl ?_ (fun k => ?_) fun bound hstand => ?_
    · rw [hphase]
      rfl
    · rw [hphase]
      rfl
    · rw [hphase] at hstand
      exact ⟨hstand, hgo.1⟩
  · rename_i hstop
    have hdrop : s.failed = true ∨ s.workload.length ≤ j := by
      cases hfailed : s.failed with
      | true => exact Or.inl rfl
      | false => exact Or.inr (Nat.le_of_not_lt fun hlt => hstop ⟨hlt, hfailed⟩)
    refine h.setWorker hi (h.roster.advance hi hin rfl) ?_ fun bound hbound => ?_
    · rw [hphase]
      rfl
    · refine hbound.drop hi (fun k => ?_) hdrop fun _ => ?_
      · rw [hphase]
        exact (Nat.zero_add _).symm
      · have hposition := hbound.position w (List.mem_of_getElem? hi) hid
        rw [stage, if_pos hseen, hphase] at hposition
        refine (standing_congr (w := w) rfl _).mpr ?_
        rw [stage, if_pos hseen]
        rcases hdrop with hfailed | hle
        · exact Or.inl hfailed
        · exact Or.inr (Nat.le_trans hle (Nat.le_of_lt hposition.2.1))

/-- A worker looks for a batch, having not left one. -/
theorem Sound.check (h : s.Sound errorHandling) (hi : s.workers[i]? = some w)
    (hphase : w.phase = .checking) (throws : Bool) :
    (s.work i w throws).Sound errorHandling := by
  have hmem := List.mem_of_getElem? hi
  have hholds : ∀ j, w.phase.holds j = 0 := fun j => by
    rw [hphase]
    rfl
  have hdue : ∀ phase : PoolPhase, phase.inside = false →
      s.due { w with phase } = s.due w := by
    intro phase hout
    refine due_phase ?_
    rw [hphase]
    exact hout
  simp only [work, hphase]
  split
  · rename_i hstop
    refine h.setWorker hi (h.roster.setWorker hi ?_ (hdue .exited rfl)) ?_ fun bound hbound => ?_
    · exact h.roster.toCrew.setWorker hi rfl (h.roster.seen w hmem) (by simp [PoolPhase.inside])
        (by simp) (fun _ => hstop)
    · rw [hphase]
      rfl
    · refine hbound.move hi (fun j => (hholds j).symm) fun hid => ?_
      refine (standing_congr (w := w) rfl _).mpr ?_
      have hposition := hbound.position w hmem hid
      simp only [stage, hphase, PoolPhase.stage] at hposition ⊢
      exact hposition
  split
  · rename_i hseen
    by_cases hid : w.id ≥ s.participants
    · rw [if_pos hid]
      refine h.setWorker hi (h.roster.setWorker hi ?_ ?_) ?_ fun bound hbound => ?_
      · exact h.roster.toCrew.setWorker hi rfl (Nat.le_refl _) (by simp [PoolPhase.inside])
          (by simp) (by simp)
      · simp [due, Nat.not_lt.mpr hid]
      · rw [hphase]
      · refine hbound.move hi (fun j => (hholds j).symm) fun hlt => ?_
        exact absurd hlt (Nat.not_lt.mpr hid)
    · rw [if_neg hid]
      have hlt : w.id < s.participants := Nat.lt_of_not_le hid
      refine h.setWorker hi (h.roster.setWorker hi ?_ ?_) ?_ fun bound hbound => ?_
      · exact h.roster.toCrew.setWorker hi rfl (Nat.le_refl _) (fun _ => ⟨hlt, rfl⟩)
          (by simp) (by simp)
      · rw [due_eq_one hlt (Or.inr (Ne.symm hseen))]
        exact due_eq_one hlt (Or.inl rfl)
      · rw [hphase]
        rfl
      · refine hbound.move hi (fun j => (hholds j).symm) fun _ => ?_
        refine (standing_congr (w := w) rfl _).mpr ?_
        have hposition := hbound.position w hmem hlt
        rw [stage, if_neg (Ne.symm hseen)] at hposition
        rw [stage, if_pos rfl]
        exact hposition
  · rename_i hseen
    have hseen : w.seen = s.generation := by
      by_contra hne
      exact hseen (Ne.symm hne)
    refine h.setWorker hi (h.roster.setWorker hi ?_ (hdue .waiting rfl)) ?_ fun bound hbound => ?_
    · exact h.roster.toCrew.setWorker hi rfl (h.roster.seen w hmem) (by simp [PoolPhase.inside])
        (fun _ => hseen) (by simp)
    · rw [hphase]
      rfl
    · refine hbound.move hi (fun j => (hholds j).symm) fun hid => ?_
      refine (standing_congr (w := w) rfl _).mpr ?_
      have hposition := hbound.position w hmem hid
      simp only [stage, hphase, PoolPhase.stage] at hposition ⊢
      exact hposition

theorem Sound.leave (h : s.Sound errorHandling) (hi : s.workers[i]? = some w)
    (hphase : w.phase = .leave) :
    ((s.leave w).setWorker i { w with phase := .checking }).Sound errorHandling := by
  have hin := inside_of_phase hphase rfl
  have hactive := h.roster.active_of_inside hi hin
  obtain ⟨bound, hbound⟩ := h.lanes hactive
  refine ⟨h.roster.leave hi hphase, h.errors.leave hi hphase,
    h.history.leave h.roster h.errors hbound hi hphase, fun hafter => ⟨bound, ?_⟩, ?_⟩
  · refine hbound.leave hi hphase fun hlast => hafter ?_
    simp only [ThreadPool.leave, if_pos hlast]
    exact hlast
  · rw [← h.handling]
    simp only [ThreadPool.leave]
    split <;> rfl

theorem Sound.work (h : s.Sound errorHandling) (hi : s.workers[i]? = some w) (throws : Bool) :
    (s.work i w throws).Sound errorHandling := by
  cases hphase : w.phase with
  | checking => exact h.check hi hphase throws
  | waiting | exited =>
      simp only [ThreadPool.work, hphase]
      exact h
  | fetch => exact h.fetch hi hphase throws
  | test j => exact h.test hi hphase throws
  | run j => exact h.run hi hphase throws
  | next j => exact h.next hi hphase throws
  | flag site => exact h.flag hi hphase throws
  | leave =>
      simp only [ThreadPool.work, hphase]
      exact h.leave hi hphase
  | pre | post =>
      have hin := inside_of_phase hphase rfl
      simp only [ThreadPool.work, hphase]
      split
      · refine h.record hi hin ?_ (fun j => ?_) <;> rw [hphase] <;> rfl
      · refine h.advance hi hin rfl ?_ (fun j => ?_) (fun bound hstand => ?_)
        · rw [hphase]
          rfl
        · rw [hphase]
          rfl
        · rw [hphase] at hstand
          exact hstand

theorem Sound.wake (h : s.Sound errorHandling) (hi : s.workers[i]? = some w) :
    (s.wake i w).Sound errorHandling := by
  have hmem := List.mem_of_getElem? hi
  simp only [ThreadPool.wake]
  split
  · rename_i hphase
    refine h.setWorker hi (h.roster.setWorker hi ?_ ?_) ?_ fun bound hbound => ?_
    · exact h.roster.toCrew.setWorker hi rfl (h.roster.seen w hmem) (by simp [PoolPhase.inside])
        (by simp) (by simp)
    · refine due_phase ?_
      rw [hphase]
      rfl
    · rw [hphase]
      rfl
    · refine hbound.move hi (fun j => ?_) fun hid => ?_
      · rw [hphase]
        rfl
      · refine (standing_congr (w := w) rfl _).mpr ?_
        have hposition := hbound.position w hmem hid
        simp only [stage, hphase, PoolPhase.stage] at hposition ⊢
        exact hposition
  · exact h

theorem Sound.notifyAll (h : s.Sound errorHandling) :
    { s with workers := notifyAll s.workers }.Sound errorHandling where
  roster := h.roster.notifyAll
  errors := h.errors.notifyAll
  history := by
    refine ⟨h.history.executed, h.history.positive, h.history.completed, fun c hmem => ?_⟩
    exact (h.history.served c hmem).congr (fun _ => rfl) rfl rfl
  lanes := by
    intro hactive
    obtain ⟨bound, hbound⟩ := h.lanes hactive
    exact ⟨bound, hbound.notifyAll⟩
  handling := h.handling

/-- Between the batches the workload may be replaced. -/
theorem Sound.setWorkload (h : s.Sound errorHandling) (hidle : s.idle = true)
    (workload : List τ) (dirty : Bool) : { s with workload, dirty }.Sound errorHandling := by
  have hactive : s.active = 0 := by
    simp only [idle, Bool.and_eq_true, beq_iff_eq] at hidle
    exact hidle.1
  refine ⟨?_, ?_, ?_, fun hne => absurd hactive hne, h.handling⟩
  · exact ⟨⟨h.roster.ids, h.roster.seen, h.roster.inside, h.roster.waiting, h.roster.exited⟩,
      h.roster.stopping, h.roster.active, fun hne => absurd hactive hne, h.roster.status⟩
  · exact ⟨h.errors.errors, h.errors.thrown, h.errors.failed, h.errors.flagged, h.errors.pending⟩
  · refine ⟨h.history.executed, h.history.positive, h.history.completed, fun c hmem => ?_⟩
    exact (h.history.served c hmem).congr (fun _ => rfl) rfl rfl

theorem Sound.publish (h : s.Sound errorHandling) (hidle : s.idle = true) :
    s.publish.Sound errorHandling := by
  have hactive : s.active = 0 := by
    simp only [idle, Bool.and_eq_true, beq_iff_eq] at hidle
    exact hidle.1
  simp only [ThreadPool.publish]
  split
  · exact h
  · rename_i hready
    obtain ⟨hstatus, hne⟩ : s.status = .ready ∧ s.workload ≠ [] := by
      simpa using hready
    have hroster := h.roster.published hidle hstatus hne
    have hpositive : s.published.active ≠ 0 := by
      intro hzero
      have hstatus' := hroster.status
      rw [hzero] at hstatus'
      have hstopping : s.stopping = false := by
        cases hstop : s.stopping with
        | false => rfl
        | true => simp [idle, hstop] at hidle
      change PoolStatus.processing = if s.stopping = true then .terminating
        else if s.size = 0 then .stopped else .ready at hstatus'
      rw [hstopping] at hstatus'
      simp only [Bool.false_eq_true, if_false] at hstatus'
      split at hstatus' <;> cases hstatus'
    exact ⟨hroster, h.errors.published h.roster hactive, h.history.published hactive hpositive,
      fun _ => ⟨_, Lanes.published h.roster h.history hactive⟩, h.handling⟩

theorem Sound.step (h : s.Sound errorHandling) (e : PoolEvent τ) :
    (s.step e).Sound errorHandling := by
  cases e with
  | processWorkload work =>
      change (s.processWorkload work).Sound errorHandling
      simp only [ThreadPool.processWorkload]
      split
      · rename_i hidle
        cases work with
        | some workload => exact (h.setWorkload hidle workload s.dirty).publish hidle
        | none =>
            simp only
            split
            · exact (h.setWorkload hidle [] false).publish hidle
            · exact h.publish hidle
      · exact h
  | push function =>
      change (s.push function).Sound errorHandling
      simp only [ThreadPool.push]
      split
      · rename_i hidle
        exact h.setWorkload hidle _ false
      · exact h
  | clearWorkload =>
      change s.clearWorkload.Sound errorHandling
      simp only [ThreadPool.clearWorkload]
      split
      · rename_i hidle
        exact h.setWorkload hidle [] false
      · exact h
  | work i throws =>
      simp only [ThreadPool.step]
      cases hi : s.workers[i]? with
      | some w => exact h.work hi throws
      | none => exact h
  | wake i =>
      simp only [ThreadPool.step]
      cases hi : s.workers[i]? with
      | some w => exact h.wake hi
      | none => exact h
  | destroy =>
      change s.destroy.Sound errorHandling
      simp only [ThreadPool.destroy]
      split
      · rename_i hactive
        refine ⟨?_, ?_, ?_, fun hne => absurd hactive hne, h.handling⟩
        · exact ⟨⟨h.roster.ids, h.roster.seen, h.roster.inside, h.roster.waiting, fun _ _ _ => rfl⟩,
            fun _ => hactive, h.roster.active, h.roster.participants, rfl⟩
        · exact ⟨h.errors.errors, h.errors.thrown, h.errors.failed, h.errors.flagged,
            h.errors.pending⟩
        · refine ⟨h.history.executed, h.history.positive, h.history.completed, fun c hmem => ?_⟩
          exact (h.history.served c hmem).congr (fun _ => rfl) rfl rfl
      · exact h
  | notifyAll => exact h.notifyAll

end Sound

end ThreadPool

end TortoiseWow.Threads
