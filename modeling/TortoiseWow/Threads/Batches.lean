import TortoiseWow.Threads.PoolInvariant

/-!
Runs of the thread pool. One batch is under way at a time, a complete one is left alone,
and under a schedule that gives every worker its turn each batch comes to its end.
-/

namespace TortoiseWow.Threads

namespace ThreadPool

variable {τ : Type}

/-- A batch under way ends before another one begins, its tasks stay as they are, and
nothing of a complete batch is executed. -/
structure Orderly (s s' : ThreadPool τ) : Prop where
  completed : s'.completed = s.completed ∨ ∃ error,
    s'.completed = s.completed ++ [⟨s.generation, s.workload.length, error⟩]
  executed : ∀ c ∈ s.completed, ∀ j,
    s'.executed.count (c.generation, j) = s.executed.count (c.generation, j)
  busy : s.active ≠ 0 →
    s'.generation = s.generation ∧ (s'.active ≠ 0 → s'.workload = s.workload)

section Orderly

variable {errorHandling : ErrorHandling} {s : ThreadPool τ} {i : Nat} {w : PoolWorker}

theorem Orderly.same {s s' : ThreadPool τ} (hcompleted : s'.completed = s.completed)
    (hexecuted : s'.executed = s.executed)
    (hbusy : s.active ≠ 0 → s'.generation = s.generation ∧ s'.workload = s.workload) :
    Orderly s s' where
  completed := Or.inl hcompleted
  executed := by
    intro c _ j
    rw [hexecuted]
  busy := fun hactive => ⟨(hbusy hactive).1, fun _ => (hbusy hactive).2⟩

theorem Orderly.work (h : s.Sound errorHandling) (hi : s.workers[i]? = some w) (throws : Bool) :
    Orderly s (s.work i w throws) := by
  cases hphase : w.phase with
  | checking =>
      simp only [ThreadPool.work, hphase]
      split
      · exact .same rfl rfl fun _ => ⟨rfl, rfl⟩
      · split <;> exact .same rfl rfl fun _ => ⟨rfl, rfl⟩
  | run j =>
      have hin := inside_of_phase hphase rfl
      have hseen := (h.roster.inside w (List.mem_of_getElem? hi) hin).2
      have hactive := h.roster.active_of_inside hi hin
      have hcount : ∀ c ∈ s.completed, ∀ k,
          (s.executed ++ [(w.seen, j)]).count (c.generation, k) =
            s.executed.count (c.generation, k) := by
        intro c hmem k
        have hlt := h.history.generation_ne hactive hmem
        have hne : ((w.seen, j) == (c.generation, k)) = false := by
          simp only [beq_eq_false_iff_ne, ne_eq, Prod.mk.injEq, not_and]
          omega
        rw [List.count_append, List.count_singleton, hne]
        rfl
      simp only [ThreadPool.work, hphase]
      split <;> exact ⟨Or.inl rfl, hcount, fun _ => ⟨rfl, fun _ => rfl⟩⟩
  | leave =>
      have hin := inside_of_phase hphase rfl
      have hseen := (h.roster.inside w (List.mem_of_getElem? hi) hin).2
      simp only [ThreadPool.work, hphase, ThreadPool.leave]
      split
      · rename_i hlast
        refine ⟨Or.inr ⟨if s.failed then s.errors.head? else none, ?_⟩, fun _ _ _ => rfl,
          fun _ => ⟨rfl, fun hne => absurd hlast hne⟩⟩
        rw [← hseen]
        rfl
      · exact .same rfl rfl fun _ => ⟨rfl, rfl⟩
  | waiting | exited =>
      simp only [ThreadPool.work, hphase]
      exact .same rfl rfl fun _ => ⟨rfl, rfl⟩
  | pre | post | fetch | next _ =>
      simp only [ThreadPool.work, hphase]
      split <;> exact .same rfl rfl fun _ => ⟨rfl, rfl⟩
  | test _ | flag _ =>
      simp only [ThreadPool.work, hphase]
      exact .same rfl rfl fun _ => ⟨rfl, rfl⟩

/-- What a caller does between the batches leaves the complete ones alone. -/
theorem Orderly.idle {s s' : ThreadPool τ} (hidle : s.idle = true)
    (hcompleted : s'.completed = s.completed) (hexecuted : s'.executed = s.executed) :
    Orderly s s' := by
  refine .same hcompleted hexecuted fun hactive => absurd ?_ hactive
  simp only [ThreadPool.idle, Bool.and_eq_true, beq_iff_eq] at hidle
  exact hidle.1

theorem publish_completed (s : ThreadPool τ) : s.publish.completed = s.completed := by
  simp only [publish]
  split <;> rfl

theorem publish_executed (s : ThreadPool τ) : s.publish.executed = s.executed := by
  simp only [publish]
  split <;> rfl

theorem Orderly.refl (s : ThreadPool τ) : Orderly s s := .same rfl rfl fun _ => ⟨rfl, rfl⟩

theorem Orderly.step (h : s.Sound errorHandling) (e : PoolEvent τ) : Orderly s (s.step e) := by
  cases e with
  | processWorkload work =>
      change Orderly s (s.processWorkload work)
      simp only [ThreadPool.processWorkload]
      split
      · rename_i hidle
        cases work with
        | some workload => exact .idle hidle (publish_completed _) (publish_executed _)
        | none =>
            simp only
            split <;> exact .idle hidle (publish_completed _) (publish_executed _)
      · exact .refl s
  | push function =>
      change Orderly s (s.push function)
      simp only [ThreadPool.push]
      split
      · rename_i hidle
        exact .idle hidle rfl rfl
      · exact .refl s
  | clearWorkload =>
      change Orderly s s.clearWorkload
      simp only [ThreadPool.clearWorkload]
      split
      · rename_i hidle
        exact .idle hidle rfl rfl
      · exact .refl s
  | work i throws =>
      simp only [ThreadPool.step]
      cases hi : s.workers[i]? with
      | some w => exact .work h hi throws
      | none => exact .refl s
  | wake i =>
      simp only [ThreadPool.step]
      cases hi : s.workers[i]? with
      | some w =>
          simp only [wake]
          split <;> exact .same rfl rfl fun _ => ⟨rfl, rfl⟩
      | none => exact .refl s
  | destroy =>
      change Orderly s s.destroy
      simp only [destroy]
      split <;> exact .same rfl rfl fun _ => ⟨rfl, rfl⟩
  | notifyAll => exact .same rfl rfl fun _ => ⟨rfl, rfl⟩

end Orderly

end ThreadPool

/-- How many steps a participant has to take until it has left a batch of the size, at
most. -/
def PoolPhase.steps (size : Nat) : PoolPhase → Nat
  | .checking | .waiting => 4 * size + 8
  | .pre => 4 * size + 7
  | .flag .pre => 4 * size + 6
  | .fetch => 4 * size + 5
  | .test index => 4 * (size - index) + 4
  | .run index => 4 * (size - index) + 3
  | .flag (.task index) => 4 * (size - index) + 2
  | .next index => 4 * (size - index) + 1
  | .post => 3
  | .flag .post => 2
  | .leave => 1
  | .exited => 0

namespace ThreadPool

variable {τ : Type}

/-- What a worker still has to do for the current batch. -/
def load (s : ThreadPool τ) (w : PoolWorker) : Nat := s.due w * w.phase.steps s.workload.length

def remaining (s : ThreadPool τ) : Nat := Lib.weight s.load s.workers

section Progress

variable {errorHandling : ErrorHandling} {s : ThreadPool τ} {i : Nat} {w w' : PoolWorker}

theorem remaining_setWorker (hi : s.workers[i]? = some w) (w' : PoolWorker) :
    (s.setWorker i w').remaining + s.load w = s.remaining + s.load w' :=
  Lib.weight_set s.load w' hi

theorem remaining_lt_setWorker (hi : s.workers[i]? = some w) (hload : s.load w' < s.load w) :
    (s.setWorker i w').remaining < s.remaining := by
  have hset := remaining_setWorker hi w'
  omega

theorem load_due (hdue : s.due w = 1) : s.load w = w.phase.steps s.workload.length := by
  rw [load, hdue, Nat.one_mul]

/-- A participant that goes on inside its batch has less to do. -/
theorem Crew.load_lt (h : s.Crew) (hi : s.workers[i]? = some w) (hin : w.phase.inside = true)
    {phase : PoolPhase} (hin' : phase.inside = true)
    (hsteps : phase.steps s.workload.length < w.phase.steps s.workload.length) :
    (s.setWorker i { w with phase }).remaining < s.remaining := by
  obtain ⟨hid, -⟩ := h.inside w (List.mem_of_getElem? hi) hin
  have hafter : s.due { w with phase } = 1 := due_eq_one hid (Or.inl hin')
  refine remaining_lt_setWorker hi ?_
  rw [load_due hafter, load_due (due_eq_one hid (Or.inl hin))]
  exact hsteps

/-- The index that a worker takes next lies behind the one it had. -/
theorem Sound.next_gt (h : s.Sound errorHandling) (hi : s.workers[i]? = some w) {j : Nat}
    (hphase : w.phase = .next j) :
    j < s.workload.length ∧ (s.multi = false → j < s.index) := by
  have hin := inside_of_phase hphase rfl
  obtain ⟨hid, hseen⟩ := h.roster.inside w (List.mem_of_getElem? hi) hin
  obtain ⟨bound, hbound⟩ := h.lanes (h.roster.active_of_inside hi hin)
  have hposition := hbound.position w (List.mem_of_getElem? hi) hid
  rw [stage, if_pos hseen, hphase] at hposition
  refine ⟨hposition.2, fun hsingle => ?_⟩
  have hlt : j < bound (s.laneOf w) := hposition.1.2.1
  simpa [laneOf, hsingle, hbound.single hsingle] using hlt

/-- Every step of a due worker brings the batch nearer to its end. -/
theorem Sound.remaining_lt (h : s.Sound errorHandling) (hi : s.workers[i]? = some w)
    (hdue : s.due w = 1) (throws : Bool) :
    (s.work i w throws).active = 0 ∨ (s.work i w throws).remaining < s.remaining := by
  have hmem := List.mem_of_getElem? hi
  have hactive := h.roster.active_ne_zero hi hdue
  have hstopping := h.roster.not_stopping hactive
  cases hphase : w.phase with
  | checking =>
      have hid : w.id < s.participants ∧ s.generation ≠ w.seen := by
        simp only [due, hphase, PoolPhase.inside] at hdue
        split at hdue
        · rename_i hboth
          rcases hboth.2 with hin | hseen
          · cases hin
          · exact ⟨hboth.1, Ne.symm hseen⟩
        · cases hdue
      refine Or.inr ?_
      simp only [ThreadPool.work, hphase, hstopping, hid.2, ne_eq, not_false_eq_true, if_true,
        Bool.false_eq_true, if_false, if_neg (Nat.not_le_of_lt hid.1)]
      have hafter : s.due { w with seen := s.generation, phase := .pre } = 1 :=
        due_eq_one hid.1 (Or.inl rfl)
      refine remaining_lt_setWorker hi ?_
      rw [load_due hdue, load_due hafter, hphase]
      exact Nat.lt_succ_self _
  | waiting =>
      have hseen := h.roster.waiting w hmem hphase
      simp [due, hphase, PoolPhase.inside, hseen] at hdue
  | exited =>
      have hstop := h.roster.exited w hmem hphase
      rw [hstopping] at hstop
      cases hstop
  | leave =>
      have hin := inside_of_phase hphase rfl
      have hseen := (h.roster.inside w hmem hin).2
      have hafter : s.due { w with phase := .checking } = 0 := by
        simp [due, PoolPhase.inside, hseen]
      simp only [ThreadPool.work, hphase, ThreadPool.leave]
      split
      · rename_i hlast
        exact Or.inl hlast
      · refine Or.inr (remaining_lt_setWorker (s := s) (i := i) hi ?_)
        rw [load_due hdue, load, hafter, hphase, Nat.zero_mul]
        exact Nat.one_pos
  | pre | post | fetch | test | run =>
      have hin := inside_of_phase hphase rfl
      refine Or.inr ?_
      simp only [ThreadPool.work, hphase]
      split <;> refine h.roster.toCrew.load_lt hi hin rfl ?_ <;> rw [hphase] <;>
        simp only [PoolPhase.steps] <;> omega
  | next j =>
      have hin := inside_of_phase hphase rfl
      obtain ⟨hj, hindex⟩ := h.next_gt hi hphase
      have hsize := h.roster.size_ne_zero hactive
      refine Or.inr ?_
      simp only [ThreadPool.work, hphase]
      split
      · refine h.roster.toCrew.load_lt hi hin rfl ?_
        rw [hphase]
        simp only [PoolPhase.steps]
        omega
      · rename_i hsingle
        have hnext := hindex (Bool.eq_false_of_not_eq_true hsingle)
        refine h.roster.toCrew.load_lt hi hin rfl ?_
        rw [hphase]
        simp only [PoolPhase.steps]
        omega
  | flag site =>
      have hin := inside_of_phase hphase rfl
      refine Or.inr ?_
      simp only [ThreadPool.work, hphase]
      refine h.roster.toCrew.load_lt hi hin ?_ ?_
      · cases site <;> rfl
      · rw [hphase]
        cases site <;> simp only [PoolPhase.steps, Site.after] <;> omega

theorem Sound.remaining_idle (h : s.Sound errorHandling) (hactive : s.active ≠ 0)
    (hi : s.workers[i]? = some w) (hdue : s.due w = 0) (throws : Bool) :
    (s.work i w throws).active = s.active ∧ (s.work i w throws).remaining = s.remaining := by
  have hmem := List.mem_of_getElem? hi
  have hstopping := h.roster.not_stopping hactive
  have hout : w.phase.inside = false := by
    cases hin : w.phase.inside with
    | false => rfl
    | true =>
        rw [due_eq_one (h.roster.inside w hmem hin).1 (Or.inl hin)] at hdue
        cases hdue
  have hset : ∀ w' : PoolWorker, s.due w' = 0 → (s.setWorker i w').remaining = s.remaining := by
    intro w' hdue'
    have hsum := remaining_setWorker hi w'
    simpa [load, hdue, hdue'] using hsum
  cases hphase : w.phase with
  | checking =>
      simp only [ThreadPool.work, hphase, hstopping, Bool.false_eq_true, if_false]
      split
      · rename_i hseen
        have hid : s.participants ≤ w.id := by
          by_contra hlt
          rw [due_eq_one (Nat.lt_of_not_le hlt) (Or.inr (Ne.symm hseen))] at hdue
          cases hdue
        rw [if_pos hid]
        exact ⟨rfl, hset _ (by simp [due, Nat.not_lt.mpr hid])⟩
      · refine ⟨rfl, hset _ ?_⟩
        rw [due_phase (by rw [hphase]; rfl)]
        exact hdue
  | waiting | exited => simp [ThreadPool.work, hphase]
  | pre | fetch | test _ | run _ | next _ | flag _ | post | leave =>
      rw [hphase] at hout
      cases hout

theorem load_woken (w : PoolWorker) : s.load (woken w) = s.load w := by
  unfold load
  rw [due_woken, woken_phase (PoolPhase.steps s.workload.length) rfl]

theorem wake_eq (s : ThreadPool τ) (i : Nat) (w : PoolWorker) (hi : s.workers[i]? = some w) :
    s.wake i w = s.setWorker i (woken w) := by
  simp only [wake, woken]
  split
  · rfl
  · obtain ⟨hlt, rfl⟩ := List.getElem?_eq_some_iff.mp hi
    simp [setWorker]

/-- While a batch is under way, callers find the pool busy. -/
theorem busy_step (hactive : s.active ≠ 0) {e : PoolEvent τ}
    (hwork : ∀ i throws, e ≠ .work i throws) (hwake : ∀ i, e ≠ .wake i)
    (hnotify : e ≠ .notifyAll) : s.step e = s := by
  have hbusy : s.idle = false := by simp [ThreadPool.idle, hactive]
  cases e with
  | processWorkload work => simp [step, processWorkload, hbusy]
  | push function => simp [step, push, hbusy]
  | clearWorkload => simp [step, clearWorkload, hbusy]
  | work i throws => exact absurd rfl (hwork i throws)
  | wake i => exact absurd rfl (hwake i)
  | destroy => simp [step, destroy, hactive]
  | notifyAll => exact absurd rfl hnotify

/-- What a step of a worker leaves alone. -/
theorem work_frame (s : ThreadPool τ) (i : Nat) (w : PoolWorker) (throws : Bool) :
    (s.work i w throws).participants = s.participants ∧
      (s.work i w throws).generation = s.generation ∧
      ∀ k, k ≠ i → (s.work i w throws).workers[k]? = s.workers[k]? := by
  have hset : ∀ (w' : PoolWorker) (k : Nat), k ≠ i →
      (s.workers.set i w')[k]? = s.workers[k]? :=
    fun w' k hki => List.getElem?_set_ne (Ne.symm hki)
  cases hphase : w.phase with
  | checking =>
      simp only [work, hphase]
      split
      · exact ⟨rfl, rfl, hset _⟩
      · split <;> exact ⟨rfl, rfl, hset _⟩
  | waiting | exited => simp [work, hphase]
  | pre | post | fetch | run _ | next _ =>
      simp only [work, hphase]
      split <;> exact ⟨rfl, rfl, hset _⟩
  | test _ | flag _ =>
      simp only [work, hphase]
      exact ⟨rfl, rfl, hset _⟩
  | leave =>
      simp only [work, hphase, ThreadPool.leave]
      split <;> exact ⟨rfl, rfl, hset _⟩

theorem Sound.due_step (h : s.Sound errorHandling) (hactive : s.active ≠ 0)
    (hi : s.workers[i]? = some w) (hdue : s.due w = 1) {e : PoolEvent τ}
    (hother : ∀ throws, e ≠ .work i throws) :
    ((s.step e).active = 0 ∨ (s.step e).remaining ≤ s.remaining) ∧
      ∃ w', (s.step e).workers[i]? = some w' ∧ (s.step e).due w' = 1 := by
  cases e with
  | work k throws =>
      have hki : i ≠ k := fun heq => hother throws (heq ▸ rfl)
      simp only [ThreadPool.step]
      cases hk : s.workers[k]? with
      | none => exact ⟨Or.inr (Nat.le_refl _), w, hi, hdue⟩
      | some x =>
          obtain ⟨hparticipants, hgeneration, hworkers⟩ := work_frame s k x throws
          refine ⟨?_, w, (hworkers i hki).trans hi, ?_⟩
          · by_cases hx : s.due x = 1
            · exact (h.remaining_lt hk hx throws).imp id Nat.le_of_lt
            · have hzero : s.due x = 0 := by
                unfold due at hx ⊢
                split
                next hboth => rw [if_pos hboth] at hx; exact absurd rfl hx
                next => rfl
              exact Or.inr (Nat.le_of_eq (h.remaining_idle hactive hk hzero throws).2)
          · simp only [due, hparticipants, hgeneration]
            exact hdue
  | wake k =>
      simp only [ThreadPool.step]
      cases hk : s.workers[k]? with
      | none => exact ⟨Or.inr (Nat.le_refl _), w, hi, hdue⟩
      | some x =>
          simp only [wake_eq s k x hk]
          refine ⟨Or.inr (Nat.le_of_eq (Lib.weight_set_eq s.load hk (load_woken x))), ?_⟩
          by_cases hki : k = i
          · subst hki
            have hxw : x = w := Option.some.inj (hk.symm.trans hi)
            subst hxw
            refine ⟨woken x, List.getElem?_set_self (List.getElem?_eq_some_iff.mp hi).1, ?_⟩
            exact (due_woken x).trans hdue
          · exact ⟨w, (List.getElem?_set_ne hki).trans hi, hdue⟩
  | notifyAll =>
      refine ⟨Or.inr (Nat.le_of_eq (weight_notifyAll load_woken s.workers)), woken w, ?_, ?_⟩
      · change (s.workers.map woken)[i]? = some (woken w)
        rw [List.getElem?_map, hi]
        rfl
      · exact (due_woken w).trans hdue
  | processWorkload _ | push _ | clearWorkload | destroy =>
      rw [busy_step hactive (by simp) (by simp) (by simp)]
      exact ⟨Or.inr (Nat.le_refl _), w, hi, hdue⟩

theorem Roster.exists_due (h : s.Roster) (hactive : s.active ≠ 0) :
    ∃ (i : Nat) (w : PoolWorker), s.workers[i]? = some w ∧ s.due w = 1 := by
  by_contra hnone
  refine hactive (h.active.trans (List.sum_eq_zero fun n hmem => ?_))
  obtain ⟨w, hw, rfl⟩ := List.mem_map.mp hmem
  obtain ⟨i, hi⟩ := List.mem_iff_getElem?.mp hw
  by_contra hdue
  refine hnone ⟨i, w, hi, ?_⟩
  unfold due at hdue ⊢
  split
  · rfl
  · rename_i hneither
    rw [if_neg hneither] at hdue
    exact absurd rfl hdue

end Progress

/-- Every worker gets its turn again and again. -/
def Fair (schedule : Nat → PoolEvent τ) : Prop :=
  ∀ k i, ∃ m, k ≤ m ∧ ∃ throws, schedule m = .work i throws

def follow (s : ThreadPool τ) (schedule : Nat → PoolEvent τ) : Nat → ThreadPool τ
  | 0 => s
  | m + 1 => (follow s schedule m).step (schedule m)

section Fairness

variable {errorHandling : ErrorHandling} {s : ThreadPool τ} {schedule : Nat → PoolEvent τ}

theorem Sound.follow (h : s.Sound errorHandling) (m : Nat) :
    (s.follow schedule m).Sound errorHandling := by
  induction m with
  | zero => exact h
  | succ m ih => exact ih.step (schedule m)

theorem History.ended (h : s.History) (hactive : s.active = 0) {generation : Nat}
    (hgeneration : s.generation = generation) (hpositive : 0 < generation) :
    ∃ c ∈ s.completed, c.generation = generation := by
  have hmem : generation ∈ s.completed.map Completion.generation := by
    rw [h.completed, if_pos hactive, hgeneration]
    exact List.mem_range'_1.mpr ⟨hpositive, by omega⟩
  exact List.mem_map.mp hmem

/-- While some worker is due, its turn comes, and each turn brings the end nearer. -/
theorem Sound.completes (h : s.Sound errorHandling) (hfair : Fair schedule) (remaining : Nat) :
    ∀ k, (s.follow schedule k).active ≠ 0 → (s.follow schedule k).remaining ≤ remaining →
      ∃ m, ∃ c ∈ (s.follow schedule m).completed,
        c.generation = (s.follow schedule k).generation := by
  induction remaining using Nat.strong_induction_on with
  | _ remaining ih =>
      have hgeneration : ∀ k, (s.follow schedule k).active ≠ 0 →
          (s.follow schedule (k + 1)).generation = (s.follow schedule k).generation :=
        fun k hactive => ((Orderly.step (h.follow k) (schedule k)).busy hactive).1
      have hended : ∀ k, (s.follow schedule k).active ≠ 0 →
          (s.follow schedule (k + 1)).active = 0 → ∃ m, ∃ c ∈ (s.follow schedule m).completed,
            c.generation = (s.follow schedule k).generation := by
        intro k hactive hafter
        exact ⟨k + 1, (h.follow (k + 1)).history.ended hafter (hgeneration k hactive)
          ((h.follow k).history.positive hactive)⟩
      have hnow : ∀ i w k throws, (s.follow schedule k).active ≠ 0 →
          (s.follow schedule k).remaining ≤ remaining →
          (s.follow schedule k).workers[i]? = some w → (s.follow schedule k).due w = 1 →
          schedule k = .work i throws → ∃ m, ∃ c ∈ (s.follow schedule m).completed,
            c.generation = (s.follow schedule k).generation := by
        intro i w k throws hactive hremaining hi hdue hevent
        have hstep : s.follow schedule (k + 1) = (s.follow schedule k).work i w throws := by
          simp only [ThreadPool.follow, hevent, ThreadPool.step, hi]
        by_cases hafter : (s.follow schedule (k + 1)).active = 0
        · exact hended k hactive hafter
        · have hlt : (s.follow schedule (k + 1)).remaining < (s.follow schedule k).remaining := by
            rcases (h.follow k).remaining_lt hi hdue throws with hzero | hlt
            · rw [← hstep] at hzero
              exact absurd hzero hafter
            · rw [← hstep] at hlt
              exact hlt
          obtain ⟨m, c, hmem, hc⟩ := ih (s.follow schedule (k + 1)).remaining (by omega)
            (k + 1) hafter (Nat.le_refl _)
          exact ⟨m, c, hmem, hc.trans (hgeneration k hactive)⟩
      -- by the distance to the next turn of the worker that is due
      have hturn : ∀ d i w k throws, (s.follow schedule k).active ≠ 0 →
          (s.follow schedule k).remaining ≤ remaining →
          (s.follow schedule k).workers[i]? = some w → (s.follow schedule k).due w = 1 →
          schedule (k + d) = .work i throws → ∃ m, ∃ c ∈ (s.follow schedule m).completed,
            c.generation = (s.follow schedule k).generation := by
        intro d
        induction d with
        | zero => exact hnow
        | succ d ihd =>
            intro i w k throws hactive hremaining hi hdue hevent
            by_cases hafter : (s.follow schedule (k + 1)).active = 0
            · exact hended k hactive hafter
            by_cases hown : ∃ throws, schedule k = .work i throws
            · obtain ⟨throws', hown⟩ := hown
              exact hnow i w k throws' hactive hremaining hi hdue hown
            · obtain ⟨hle, w', hi', hdue'⟩ := (h.follow k).due_step hactive hi hdue
                (fun throws heq => hown ⟨throws, heq⟩)
              have hless : (s.follow schedule (k + 1)).remaining ≤ remaining := by
                rcases hle with hzero | hle
                · exact absurd hzero hafter
                · exact Nat.le_trans hle hremaining
              have hevent' : schedule (k + 1 + d) = .work i throws := by
                rw [← hevent]
                congr 1
                omega
              obtain ⟨m, c, hmem, hc⟩ := ihd i w' (k + 1) throws hafter hless hi' hdue' hevent'
              exact ⟨m, c, hmem, hc.trans (hgeneration k hactive)⟩
      intro k hactive hremaining
      obtain ⟨i, w, hi, hdue⟩ := (h.follow k).roster.exists_due hactive
      obtain ⟨m, hkm, throws, hevent⟩ := hfair k i
      refine hturn (m - k) i w k throws hactive hremaining hi hdue ?_
      rw [← hevent]
      congr 1
      omega

end Fairness

variable (τ : Type)

/-- Each task of a batch is executed at most once before its future is ready, and exactly
once if nothing threw or errors do not stop a batch. The outcome of a batch depends on its
own errors only. No worker is inside a complete batch, one batch is under way at a time,
and under a fair schedule each ends. -/
theorem batches_executed (size : Nat) (multi : Bool) (clearMode : ClearMode)
    (errorHandling : ErrorHandling) (events : List (PoolEvent τ)) :
    let s := (start τ size multi clearMode errorHandling).run events
    (∀ c ∈ s.completed,
      (∀ j, s.executed.count (c.generation, j) ≤ 1) ∧
      (∀ j, (c.generation, j) ∈ s.executed → j < c.size) ∧
      (errorHandling.stops = false ∨ s.thrownIn c.generation = [] →
        ∀ j, j < c.size → s.executed.count (c.generation, j) = 1) ∧
      c.error = if errorHandling.stops then (s.thrownIn c.generation).head? else none) ∧
    s.completed.map Completion.generation =
      List.range' 1 (if s.active = 0 then s.generation else s.generation - 1) ∧
    (∀ w ∈ s.workers, w.phase.inside = true →
      w.seen = s.generation ∧ s.active ≠ 0 ∧ ∀ c ∈ s.completed, c.generation < s.generation) ∧
    (s.active = 0 → s.stopping = false → 0 < s.size → s.status = .ready) ∧
    (∀ schedule, Fair schedule → s.active ≠ 0 →
      ∃ m, ∃ c ∈ (s.follow schedule m).completed, c.generation = s.generation) ∧
    Lib.Along step (fun s e => Orderly s (s.step e)) (start τ size multi clearMode errorHandling)
      events := by
  intro s
  have hstart := @sound_start τ errorHandling size multi clearMode
  have hsound : s.Sound errorHandling :=
    Lib.run_always (I := Sound errorHandling) (fun _ e h => h.step e) hstart events
  refine ⟨fun c hmem => ?_, hsound.history.completed, fun w hmem hin => ?_,
    fun hactive hstopping hsize => ?_, fun schedule hfair hactive => ?_, ?_⟩
  · have hserved := hsound.history.served c hmem
    have herror := hserved.error
    rw [hsound.handling] at herror
    refine ⟨hserved.once, hserved.range, fun hquiet => hserved.all ?_, herror⟩
    rw [herror]
    rcases hquiet with hstops | hnone
    · rw [hstops]
      rfl
    · rw [hnone]
      exact ite_self none
  · obtain ⟨i, hi⟩ := List.mem_iff_getElem?.mp hmem
    have hactive := hsound.roster.active_of_inside hi hin
    exact ⟨(hsound.roster.inside w hmem hin).2, hactive,
      fun c hc => hsound.history.generation_ne hactive hc⟩
  · rw [hsound.roster.status, hstopping, if_neg (by simp), if_neg (Nat.ne_of_gt hsize),
      if_pos hactive]
  · exact hsound.completes hfair _ 0 hactive (Nat.le_refl _)
  · exact Lib.along_always (I := Sound errorHandling) (fun _ e h => h.step e)
      (fun _ e h => Orderly.step h e) hstart events

/-- A callable that runs before the tasks makes the worker skip them. -/
theorem pre_stops_batch :
    let s := (start Unit 1 false .atNextWorkload .none).run
      [.processWorkload (some [()]), .work 0 false, .work 0 true, .work 0 false, .work 0 false,
        .work 0 false, .work 0 false, .work 0 false]
    s.completed = [⟨1, 1, some .pre⟩] ∧ s.thrown = [(1, .pre)] ∧ s.executed = [] := by
  decide

end ThreadPool

end TortoiseWow.Threads
