import TortoiseWow.Utilities.EventProcessor

/-!
Where the events of a processor are. An event is in the queue once, or deleted once, or in
the hands of whoever created or kept it.
-/

namespace TortoiseWow.Utilities

namespace EventProcessor

def entries (s : EventProcessor) : List (Nat × Nat) :=
  match s.loop with
  | .killing _ _ passed => passed ++ s.events
  | .idle | .updating | .destroyed => s.events

/-- The entries of the multimap but for those that a forced kill has left behind. -/
def queue (s : EventProcessor) : List (Nat × Nat) :=
  match s.loop with
  | .killing false _ passed => passed ++ s.events
  | .killing true _ _ | .idle | .updating | .destroyed => s.events

def queued (s : EventProcessor) : List Nat := s.queue.map Prod.snd

def Outside (s : EventProcessor) (event : Nat) : Prop :=
  event < s.states.length ∧ event ∉ s.deleted ∧ event ∉ s.queued

/-- Nothing is added before the iterator of a forced kill. -/
def Reached (s : EventProcessor) (execTime : Nat) : Prop :=
  match s.loop, s.events with
  | .killing true _ _, current :: _ => current.1 ≤ execTime
  | _, _ => True

/-- The use that is made of the processor: only events that it does not have are added, and
the abort of an event is scheduled once, while it exists. -/
def Proper (s : EventProcessor) : HandlerAction → Prop
  | .create => True
  | .addEvent event offset =>
      s.Outside event ∧ s.time + offset < 2 ^ 64 ∧ s.Reached (s.time + offset)
  | .scheduleAbort event => s.states[event]? = some .running ∧ event ∉ s.deleted

/-- A handler does what is proper, and does not add the event that it is the handler of,
unless this event is kept. -/
def ProperAll (current : Option Nat) : EventProcessor → List HandlerAction → Prop
  | _, [] => True
  | s, action :: actions =>
      s.Proper action ∧ (∀ event offset, action = .addEvent event offset → some event ≠ current) ∧
        ProperAll current (s.act action).2 actions

def ProperUpdate (s : EventProcessor) (event : Nat) (answer : Answer) : Prop :=
  match s.states[event]? with
  | some .running =>
      ProperAll (if answer.finished then some event else none) s answer.actions
  | some .abortScheduled =>
      ProperAll (some event) s answer.actions ∧ s.time + 1 < 2 ^ 64
  | _ => s.time + 1 < 2 ^ 64

def ProperStep (s : EventProcessor) (e : ProcessorEvent) : Prop :=
  match s.loop, e with
  | .idle, .act action => s.Proper action
  | .idle, .update pTime => s.time + pTime < 2 ^ 64
  | .updating, .round answer =>
      match s.events with
      | (execTime, event) :: rest =>
          execTime ≤ s.time → ProperUpdate { s with events := rest } event answer
      | [] => True
  | .killing _ _ _, .round answer =>
      match s.events with
      | (_, event) :: _ =>
          s.states[event]? ≠ some .aborted → ProperAll (some event)
            { s.setState event .aborted with aborted := s.aborted ++ [event] } answer.actions
      | [] => True
  | _, _ => True

structure Account (s : EventProcessor) : Prop where
  nodup : (s.queued ++ s.deleted).Nodup
  known : ∀ event ∈ s.queued ++ s.deleted, event < s.states.length
  sorted : s.entries.Pairwise (·.1 ≤ ·.1)
  forced : ∀ final passed, s.loop = .killing true final passed →
    ∀ entry ∈ passed, entry.2 ∈ s.deleted
  aborted : s.aborted.Nodup
  states : ∀ event, event ∈ s.aborted ↔ s.states[event]? = some .aborted
  finished : ∀ x ∈ s.executed, x.finished = true → x.event ∈ s.deleted ∧ x.event ∉ s.aborted
  reason : ∀ event ∈ s.deleted, event ∈ s.aborted ∨
    ∃ x ∈ s.executed, x.event = event ∧ x.finished = true
  order : s.executed.Pairwise (·.execTime ≤ ·.execTime)
  due : ∀ x ∈ s.executed, x.execTime ≤ x.time ∧ x.execTime ≤ s.time ∧
    ∀ entry ∈ s.entries, x.execTime ≤ entry.1

section Actions

variable {s : EventProcessor} {event execTime : Nat}

def AtEntry (s : EventProcessor) : Prop :=
  ∀ force final passed, s.loop = .killing force final passed → s.events ≠ []

theorem entries_addEvent (h : s.AtEntry) (event execTime : Nat) :
    (s.addEvent event execTime).entries.Perm ((execTime, event) :: s.entries) := by
  cases hloop : s.loop with
  | idle | updating | destroyed =>
      simp only [addEvent, entries, hloop]
      exact Lib.MultiMap.emplaceEntries_perm _ _ _
  | killing force final passed =>
      cases hevents : s.events with
      | nil => exact absurd hevents (h force final passed hloop)
      | cons current rest =>
          simp only [addEvent, hloop, hevents]
          split
          · simp only [entries, hloop, hevents]
            exact (Lib.MultiMap.emplaceEntries_perm _ _ _).append_right _
          · simp only [entries, hloop, hevents]
            refine (((Lib.MultiMap.emplaceEntries_perm execTime event rest).cons
              current).append_left
              passed).trans ?_
            exact ((List.Perm.swap _ _ _).append_left passed).trans List.perm_middle

theorem addEvent_killing {force final : Bool} {passed : List (Nat × Nat)}
    (hloop : s.loop = .killing force final passed) (h : s.AtEntry) (event execTime : Nat) :
    ∃ passed', (s.addEvent event execTime).loop = .killing force final passed' ∧
      (s.addEvent event execTime).events.head? = s.events.head? ∧
      (force = true → s.Reached execTime → passed' = passed) := by
  cases hevents : s.events with
  | nil => exact absurd hevents (h force final passed hloop)
  | cons current rest =>
      simp only [addEvent, hloop, hevents]
      split
      · rename_i hlt
        refine ⟨_, rfl, ?_, fun hforce hreached => ?_⟩
        · simp
        · rw [hforce] at hloop
          simp only [Reached, hloop, hevents] at hreached
          omega
      · exact ⟨passed, rfl, rfl, fun _ _ => rfl⟩

theorem addEvent_loop (hloop : ∀ force final passed, s.loop ≠ .killing force final passed)
    (event execTime : Nat) :
    s.addEvent event execTime =
      { s with events := Lib.MultiMap.emplaceEntries execTime event s.events } := by
  cases hkind : s.loop with
  | idle | updating | destroyed => simp only [addEvent, hkind]
  | killing force final passed => exact absurd hkind (hloop force final passed)

theorem queue_addEvent (h : s.AtEntry) (hreached : s.Reached execTime) :
    (s.addEvent event execTime).queue.Perm ((execTime, event) :: s.queue) := by
  have hentries := entries_addEvent h event execTime
  cases hloop : s.loop with
  | idle | updating | destroyed =>
      rw [addEvent_loop (by simp [hloop])] at hentries ⊢
      simpa only [queue, entries, hloop] using hentries
  | killing force final passed =>
      obtain ⟨passed', hloop', -, hsame⟩ := addEvent_killing hloop h event execTime
      cases force with
      | false => simpa only [queue, entries, hloop, hloop'] using hentries
      | true =>
          rw [hsame rfl hreached] at hloop'
          simp only [queue, entries, hloop, hloop'] at hentries ⊢
          have hmiddle : (passed ++ (execTime, event) :: s.events).Perm
              ((execTime, event) :: (passed ++ s.events)) := List.perm_middle
          exact (List.perm_append_left_iff passed).mp (hentries.trans hmiddle.symm)

theorem sorted_addEvent (h : s.AtEntry) (hsorted : s.entries.Pairwise (·.1 ≤ ·.1)) :
    (s.addEvent event execTime).entries.Pairwise (·.1 ≤ ·.1) := by
  cases hloop : s.loop with
  | idle | updating | destroyed =>
      rw [addEvent_loop (by simp [hloop])]
      simp only [entries, hloop] at hsorted ⊢
      exact Lib.MultiMap.emplaceEntries_sorted execTime event hsorted
  | killing force final passed =>
      cases hevents : s.events with
      | nil => exact absurd hevents (h force final passed hloop)
      | cons current rest =>
          simp only [entries, hloop, hevents, List.pairwise_append, List.pairwise_cons] at hsorted
          obtain ⟨hpassed, ⟨hcurrent, hrest⟩, hbetween⟩ := hsorted
          simp only [addEvent, hloop, hevents]
          split
          · rename_i hlt
            simp only [entries, List.pairwise_append, List.pairwise_cons]
            refine ⟨Lib.MultiMap.emplaceEntries_sorted _ _ hpassed, ⟨hcurrent, hrest⟩, ?_⟩
            intro a ha b hb
            rcases List.mem_cons.mp ((Lib.MultiMap.emplaceEntries_perm _ _ _).mem_iff.mp ha)
              with rfl | ha
            · rcases List.mem_cons.mp hb with rfl | hb
              · exact Nat.le_of_lt hlt
              · exact Nat.le_trans (Nat.le_of_lt hlt) (hcurrent b hb)
            · exact hbetween a ha b hb
          · rename_i hle
            simp only [entries, List.pairwise_append, List.pairwise_cons]
            have hmem : ∀ b ∈ Lib.MultiMap.emplaceEntries execTime event rest,
                b = (execTime, event) ∨ b ∈ rest := fun b hb =>
              List.mem_cons.mp ((Lib.MultiMap.emplaceEntries_perm _ _ _).mem_iff.mp hb)
            refine ⟨hpassed, ⟨fun b hb => ?_, Lib.MultiMap.emplaceEntries_sorted _ _ hrest⟩, ?_⟩
            · rcases hmem b hb with rfl | hb
              · exact Nat.le_of_not_lt hle
              · exact hcurrent b hb
            · intro a ha b hb
              rcases List.mem_cons.mp hb with rfl | hb
              · exact hbetween a ha b (List.mem_cons_self ..)
              · rcases hmem b hb with rfl | hb
                · exact Nat.le_trans (hbetween a ha current (List.mem_cons_self ..))
                    (Nat.le_of_not_lt hle)
                · exact hbetween a ha b (List.mem_cons_of_mem _ hb)

theorem addEvent_frame (s : EventProcessor) (event execTime : Nat) :
    (s.addEvent event execTime).time = s.time ∧ (s.addEvent event execTime).states = s.states ∧
      (s.addEvent event execTime).executed = s.executed ∧
      (s.addEvent event execTime).aborted = s.aborted ∧
      (s.addEvent event execTime).deleted = s.deleted := by
  unfold addEvent
  split
  · split <;> exact ⟨rfl, rfl, rfl, rfl, rfl⟩
  · exact ⟨rfl, rfl, rfl, rfl, rfl⟩

theorem Account.addEvent (h : s.Account) (hat : s.AtEntry) (houtside : s.Outside event)
    (htime : s.time ≤ execTime) (hreached : s.Reached execTime) :
    (s.addEvent event execTime).Account := by
  obtain ⟨hsametime, hstates, hexecuted, haborted, hdeleted⟩ := addEvent_frame s event execTime
  have hentries := entries_addEvent hat event execTime
  have hqueued : ((s.addEvent event execTime).queued ++ s.deleted).Perm
      (event :: (s.queued ++ s.deleted)) :=
    ((queue_addEvent hat hreached).map Prod.snd).append_right _
  refine ⟨?_, ?_, sorted_addEvent hat h.sorted, ?_, ?_, ?_, ?_, ?_, ?_, ?_⟩
  · rw [hdeleted, hqueued.nodup_iff, List.nodup_cons]
    refine ⟨fun hmem => ?_, h.nodup⟩
    rcases List.mem_append.mp hmem with hmem | hmem
    · exact houtside.2.2 hmem
    · exact houtside.2.1 hmem
  · rw [hdeleted, hstates]
    intro e hmem
    rcases List.mem_cons.mp (hqueued.mem_iff.mp hmem) with rfl | hmem
    · exact houtside.1
    · exact h.known e hmem
  · intro final passed hloop entry hmem
    rw [hdeleted]
    cases hkind : s.loop with
    | idle | updating | destroyed =>
        rw [addEvent_loop (by simp [hkind])] at hloop
        rw [hkind] at hloop
        cases hloop
    | killing force final' passed' =>
        obtain ⟨passed'', hloop', -, hsame⟩ := addEvent_killing hkind hat event execTime
        rw [hloop'] at hloop
        cases hloop
        rw [hsame rfl hreached] at hmem
        exact h.forced final passed' hkind entry hmem
  · rw [haborted]
    exact h.aborted
  · rw [haborted, hstates]
    exact h.states
  · rw [hexecuted, hdeleted, haborted]
    exact h.finished
  · rw [hexecuted, hdeleted, haborted]
    exact h.reason
  · rw [hexecuted]
    exact h.order
  · rw [hexecuted, hsametime]
    intro x hmem
    obtain ⟨hdue, hpast, hahead⟩ := h.due x hmem
    refine ⟨hdue, hpast, fun entry hentry => ?_⟩
    rcases List.mem_cons.mp (hentries.mem_iff.mp hentry) with rfl | hentry
    · exact Nat.le_trans hpast htime
    · exact hahead entry hentry

/-- The states of the events change as the processor says, the rest stays. -/
theorem Account.setStates (h : s.Account) {states : List AbortState}
    (hlength : s.states.length ≤ states.length)
    (hsame : ∀ e : Nat, states[e]? = some AbortState.aborted ↔
      s.states[e]? = some AbortState.aborted) :
    { s with states }.Account where
  nodup := h.nodup
  known := fun e hmem => Nat.lt_of_lt_of_le (h.known e hmem) hlength
  sorted := h.sorted
  forced := h.forced
  aborted := h.aborted
  states := fun e => (h.states e).trans (hsame e).symm
  finished := h.finished
  reason := h.reason
  order := h.order
  due := h.due

theorem getElem?_append_running (states : List AbortState) (e : Nat) :
    (states ++ [.running])[e]? = states[e]? ∨
      states[e]? = none ∧ (states ++ [.running])[e]? = some .running ∨
      states[e]? = none ∧ (states ++ [.running])[e]? = none := by
  rcases Nat.lt_trichotomy e states.length with hlt | heq | hgt
  · exact Or.inl (List.getElem?_append_left hlt)
  · subst heq
    exact Or.inr (Or.inl ⟨by simp, by simp⟩)
  · refine Or.inr (Or.inr ⟨List.getElem?_eq_none (by omega), List.getElem?_eq_none ?_⟩)
    simpa using hgt

structure Acted (current : Option Nat) (s s' : EventProcessor) : Prop where
  time : s'.time = s.time
  executed : s'.executed = s.executed
  aborted : s'.aborted = s.aborted
  deleted : s'.deleted = s.deleted
  states : ∀ (e : Nat) (state : AbortState), s.states[e]? = some state →
    s'.states[e]? = some state ∨
      state = .running ∧ s'.states[e]? = some AbortState.abortScheduled
  queued : ∀ e ∈ s.queued, e ∈ s'.queued
  added : ∀ entry ∈ s'.entries, entry ∈ s.entries ∨ s.time ≤ entry.1
  current : ∀ e ∈ s'.queued, some e = current → e ∈ s.queued
  still : (∀ force final passed, s.loop ≠ .killing force final passed) → s'.loop = s.loop
  killing : ∀ force final passed, s.loop = .killing force final passed →
    ∃ passed', s'.loop = .killing force final passed' ∧ s'.events.head? = s.events.head?

theorem Acted.refl (current : Option Nat) (s : EventProcessor) : Acted current s s where
  time := rfl
  executed := rfl
  aborted := rfl
  deleted := rfl
  states := fun _ _ hstate => Or.inl hstate
  queued := fun _ hmem => hmem
  added := fun _ hmem => Or.inl hmem
  current := fun _ hmem _ => hmem
  still := fun _ => rfl
  killing := fun _ _ passed hloop => ⟨passed, hloop, rfl⟩

theorem Acted.trans {current : Option Nat} {s₁ s₂ s₃ : EventProcessor}
    (h : Acted current s₁ s₂) (h' : Acted current s₂ s₃) : Acted current s₁ s₃ where
  time := h'.time.trans h.time
  executed := h'.executed.trans h.executed
  aborted := h'.aborted.trans h.aborted
  deleted := h'.deleted.trans h.deleted
  states := by
    intro e state hstate
    rcases h.states e state hstate with hsame | ⟨hrunning, hscheduled⟩
    · exact h'.states e state hsame
    · rcases h'.states e _ hscheduled with hsame | ⟨habsurd, -⟩
      · exact Or.inr ⟨hrunning, hsame⟩
      · cases habsurd
  queued := fun e hmem => h'.queued e (h.queued e hmem)
  added := by
    intro entry hmem
    rcases h'.added entry hmem with hmem | hlate
    · exact h.added entry hmem
    · rw [h.time] at hlate
      exact Or.inr hlate
  current := fun e hmem hcurrent => h.current e (h'.current e hmem hcurrent) hcurrent
  still := by
    intro hloop
    have hsame := h.still hloop
    exact (h'.still (by rw [hsame]; exact hloop)).trans hsame
  killing := by
    intro force final passed hloop
    obtain ⟨passed', hloop', hhead⟩ := h.killing force final passed hloop
    obtain ⟨passed'', hloop'', hhead'⟩ := h'.killing force final passed' hloop'
    exact ⟨passed'', hloop'', hhead'.trans hhead⟩

theorem Acted.atEntry {current : Option Nat} {s s' : EventProcessor} (h : Acted current s s')
    (hat : s.AtEntry) : s'.AtEntry := by
  intro force final passed hloop hnil
  cases hkind : s.loop with
  | idle | updating | destroyed =>
      rw [h.still (by simp [hkind]), hkind] at hloop
      cases hloop
  | killing force' final' passed' =>
      obtain ⟨-, -, hhead⟩ := h.killing force' final' passed' hkind
      rw [hnil] at hhead
      exact hat force' final' passed' hkind (List.head?_eq_none_iff.mp hhead.symm)

theorem act_proper (h : s.Account) (hat : s.AtEntry) {current : Option Nat}
    {action : HandlerAction} (hproper : s.Proper action)
    (hcurrent : ∀ event offset, action = .addEvent event offset → some event ≠ current) :
    (s.act action).1 = true ∧ (s.act action).2.Account ∧ Acted current s (s.act action).2 := by
  cases action with
  | create =>
      have hgrown := getElem?_append_running s.states
      refine ⟨rfl, h.setStates (by simp) fun e => ?_, ?_⟩
      · rcases hgrown e with heq | ⟨hnone, hrunning⟩ | ⟨hnone, hnone'⟩
        · rw [heq]
        · simp [hnone, hrunning]
        · simp [hnone, hnone']
      · refine { Acted.refl current s with states := fun e state hstate => Or.inl ?_ }
        rcases hgrown e with heq | ⟨hnone, -⟩ | ⟨hnone, -⟩
        · exact heq.trans hstate
        · rw [hnone] at hstate
          cases hstate
        · rw [hnone] at hstate
          cases hstate
  | addEvent event offset =>
      obtain ⟨houtside, hsmall, hreached⟩ := hproper
      have htime : s.calculateTime offset = s.time + offset := Nat.mod_eq_of_lt hsmall
      have hact : s.act (.addEvent event offset) =
          (true, s.addEvent event (s.time + offset)) := by
        simp only [act, htime]
      rw [hact]
      refine ⟨rfl, h.addEvent hat houtside (Nat.le_add_right _ _) hreached, ?_⟩
      obtain ⟨hsametime, hstates, hexecuted, haborted, hdeleted⟩ :=
        addEvent_frame s event (s.time + offset)
      have hqueued : (s.addEvent event (s.time + offset)).queued.Perm (event :: s.queued) :=
        (queue_addEvent hat hreached).map Prod.snd
      refine ⟨hsametime, hexecuted, haborted, hdeleted, ?_, ?_, ?_, ?_, ?_, ?_⟩
      · intro e state hstate
        rw [hstates]
        exact Or.inl hstate
      · intro e hmem
        exact hqueued.mem_iff.mpr (List.mem_cons_of_mem _ hmem)
      · intro entry hmem
        rcases List.mem_cons.mp ((entries_addEvent hat event _).mem_iff.mp hmem) with rfl | hmem
        · exact Or.inr (Nat.le_add_right _ _)
        · exact Or.inl hmem
      · intro e hmem heq
        rcases List.mem_cons.mp (hqueued.mem_iff.mp hmem) with rfl | hmem
        · exact absurd heq (hcurrent e offset rfl)
        · exact hmem
      · intro hloop
        rw [addEvent_loop hloop]
      · intro force final passed hloop
        obtain ⟨passed', hloop', hhead, -⟩ :=
          addEvent_killing hloop hat event (s.time + offset)
        exact ⟨passed', hloop', hhead⟩
  | scheduleAbort event =>
      obtain ⟨hrunning, -⟩ := hproper
      have hlt := (List.getElem?_eq_some_iff.mp hrunning).1
      have hact : s.act (.scheduleAbort event) = (true, s.setState event .abortScheduled) := by
        simp only [act, if_pos hrunning]
      rw [hact]
      refine ⟨rfl, h.setStates (by simp) fun e => ?_, ?_⟩
      · by_cases heq : event = e
        · subst heq
          rw [List.getElem?_set_self hlt, hrunning]
          simp
        · rw [List.getElem?_set_ne heq]
      · refine { Acted.refl current s with states := fun e state hstate => ?_ }
        by_cases heq : event = e
        · subst heq
          rw [hrunning] at hstate
          cases hstate
          exact Or.inr ⟨rfl, List.getElem?_set_self hlt⟩
        · exact Or.inl ((List.getElem?_set_ne heq).trans hstate)

theorem actAll_proper {current : Option Nat} {actions : List HandlerAction} :
    ∀ {s : EventProcessor}, s.Account → s.AtEntry → ProperAll current s actions →
      (s.actAll actions).1 = true ∧ (s.actAll actions).2.Account ∧
        Acted current s (s.actAll actions).2 := by
  induction actions with
  | nil => exact fun h _ _ => ⟨rfl, h, Acted.refl current _⟩
  | cons action actions ih =>
      intro s h hat hproper
      obtain ⟨hfirst, hcurrent, hrest⟩ := hproper
      obtain ⟨hreturned, haccount, hacted⟩ := act_proper h hat hfirst hcurrent
      obtain ⟨hreturned', haccount', hacted'⟩ := ih haccount (hacted.atEntry hat) hrest
      have hsplit : s.actAll (action :: actions) = (s.act action).2.actAll actions := by
        simp only [actAll, hreturned, if_true]
      rw [hsplit]
      exact ⟨hreturned', haccount', hacted.trans hacted'⟩

/-- The event will not be executed again. -/
def Stopped (s : EventProcessor) (event : Nat) : Prop :=
  ∃ state, s.states[event]? = some state ∧ state ≠ AbortState.running

theorem Acted.stopped {current : Option Nat} {s s' : EventProcessor} (h : Acted current s s')
    {event : Nat} (hstopped : s.Stopped event) : s'.Stopped event := by
  obtain ⟨state, hstate, hrunning⟩ := hstopped
  rcases h.states event state hstate with hsame | ⟨habsurd, -⟩
  · exact ⟨state, hsame, hrunning⟩
  · exact absurd habsurd hrunning

theorem actAll_stops {current : Option Nat} {actions : List HandlerAction} :
    ∀ {s : EventProcessor}, s.Account → s.AtEntry → ProperAll current s actions →
      ∀ event, HandlerAction.scheduleAbort event ∈ actions →
        (s.actAll actions).2.Stopped event := by
  induction actions with
  | nil => exact fun _ _ _ _ hmem => absurd hmem List.not_mem_nil
  | cons action actions ih =>
      intro s h hat hproper event hmem
      obtain ⟨hfirst, hcurrent, hrest⟩ := hproper
      obtain ⟨hreturned, haccount, hacted⟩ := act_proper h hat hfirst hcurrent
      have hat' := hacted.atEntry hat
      have hsplit : s.actAll (action :: actions) = (s.act action).2.actAll actions := by
        simp only [actAll, hreturned, if_true]
      rw [hsplit]
      rcases List.mem_cons.mp hmem with rfl | hmem
      · obtain ⟨-, -, hacted'⟩ := actAll_proper haccount hat' hrest
        refine hacted'.stopped ⟨.abortScheduled, ?_, by simp⟩
        have hlt := (List.getElem?_eq_some_iff.mp hfirst.1).1
        simp only [act, if_pos hfirst.1, setState]
        exact List.getElem?_set_self hlt
      · exact ih haccount hat' hrest event hmem

end Actions

section Rounds

variable {s : EventProcessor} {event execTime : Nat} {rest : List (Nat × Nat)}

theorem Acted.lt_length {current : Option Nat} {s s' : EventProcessor}
    (h : Acted current s s') (hlt : event < s.states.length) : event < s'.states.length := by
  obtain ⟨state, hstate⟩ : ∃ state, s.states[event]? = some state :=
    ⟨_, List.getElem?_eq_getElem hlt⟩
  rcases h.states event state hstate with hsame | ⟨-, hscheduled⟩
  · exact (List.getElem?_eq_some_iff.mp hsame).1
  · exact (List.getElem?_eq_some_iff.mp hscheduled).1

/-- The first entry is taken out. -/
theorem Account.pop (h : s.Account) (hloop : s.loop = .updating)
    (hevents : s.events = (execTime, event) :: rest) :
    { s with events := rest }.Account ∧ { s with events := rest }.Outside event ∧
      (∀ entry ∈ rest, execTime ≤ entry.1) ∧ ∀ x ∈ s.executed, x.execTime ≤ execTime := by
  have hnodup := h.nodup
  have hknown := h.known
  have hsorted := h.sorted
  have hdue := h.due
  simp only [queued, queue, entries, hloop, hevents, List.map_cons, List.cons_append,
    List.nodup_cons, List.pairwise_cons] at hnodup hknown hsorted hdue
  refine ⟨⟨?_, ?_, ?_, ?_, h.aborted, h.states, h.finished, h.reason, h.order, ?_⟩, ?_,
    hsorted.1, fun x hmem => (hdue x hmem).2.2 _ (List.mem_cons_self ..)⟩
  · simp only [queued, queue, hloop]
    exact hnodup.2
  · simp only [queued, queue, hloop]
    exact fun e hmem => hknown e (List.mem_cons_of_mem _ hmem)
  · simp only [entries, hloop]
    exact hsorted.2
  · intro final passed heq
    rw [hloop] at heq
    cases heq
  · intro x hmem
    obtain ⟨hx, hpast, hahead⟩ := hdue x hmem
    refine ⟨hx, hpast, fun entry hentry => ?_⟩
    simp only [entries, hloop] at hentry
    exact hahead entry (List.mem_cons_of_mem _ hentry)
  · refine ⟨hknown event (List.mem_cons_self ..), fun hmem => ?_, fun hmem => ?_⟩
    · exact hnodup.1 (List.mem_append_right _ hmem)
    · simp only [queued, queue, hloop] at hmem
      exact hnodup.1 (List.mem_append_left _ hmem)

theorem Account.execute (h : s.Account) {x : Execution} (htime : x.execTime ≤ x.time)
    (hpast : x.execTime ≤ s.time) (hahead : ∀ entry ∈ s.entries, x.execTime ≤ entry.1)
    (hbefore : ∀ y ∈ s.executed, y.execTime ≤ x.execTime) (hlt : x.event < s.states.length)
    (hdeleted : x.event ∉ s.deleted) (haborted : x.event ∉ s.aborted)
    (hqueued : x.finished = true → x.event ∉ s.queued) :
    { s with
      executed := s.executed ++ [x]
      deleted := if x.finished then s.deleted ++ [x.event] else s.deleted }.Account := by
  have hkept : ∀ e ∈ s.deleted,
      e ∈ (if x.finished then s.deleted ++ [x.event] else s.deleted) := by
    intro e hmem
    split
    · exact List.mem_append_left _ hmem
    · exact hmem
  refine ⟨?_, ?_, h.sorted, ?_, h.aborted, h.states, ?_, ?_, ?_, ?_⟩
  · change (s.queued ++ if x.finished then s.deleted ++ [x.event] else s.deleted).Nodup
    split
    · rename_i hfinished
      rw [← List.append_assoc, List.nodup_append]
      refine ⟨h.nodup, by simp, fun a ha b hb heq => ?_⟩
      rw [List.mem_singleton.mp hb] at heq
      subst heq
      rcases List.mem_append.mp ha with ha | ha
      · exact hqueued hfinished ha
      · exact hdeleted ha
    · exact h.nodup
  · change ∀ e ∈ s.queued ++ (if x.finished then s.deleted ++ [x.event] else s.deleted), _
    intro e hmem
    rcases List.mem_append.mp hmem with hmem | hmem
    · exact h.known e (List.mem_append_left _ hmem)
    · split at hmem
      · rcases List.mem_append.mp hmem with hmem | hmem
        · exact h.known e (List.mem_append_right _ hmem)
        · rw [List.mem_singleton.mp hmem]
          exact hlt
      · exact h.known e (List.mem_append_right _ hmem)
  · intro final passed hloop entry hmem
    exact hkept _ (h.forced final passed hloop entry hmem)
  · intro y hmem hfinished
    rcases List.mem_append.mp hmem with hmem | hmem
    · obtain ⟨hgone, hnot⟩ := h.finished y hmem hfinished
      exact ⟨hkept _ hgone, hnot⟩
    · rw [List.mem_singleton.mp hmem] at hfinished ⊢
      refine ⟨?_, haborted⟩
      rw [if_pos hfinished]
      simp
  · intro e hmem
    have hold : ∀ e ∈ s.deleted, e ∈ s.aborted ∨
        ∃ y ∈ s.executed ++ [x], y.event = e ∧ y.finished = true := by
      intro e hmem
      refine (h.reason e hmem).imp_right ?_
      rintro ⟨y, hy, hevent, hfinished⟩
      exact ⟨y, List.mem_append_left _ hy, hevent, hfinished⟩
    change e ∈ (if x.finished then s.deleted ++ [x.event] else s.deleted) at hmem
    split at hmem
    · rename_i hfinished
      rcases List.mem_append.mp hmem with hmem | hmem
      · exact hold e hmem
      · exact Or.inr ⟨x, by simp, (List.mem_singleton.mp hmem).symm, hfinished⟩
    · exact hold e hmem
  · refine List.pairwise_append.mpr ⟨h.order, by simp, fun y hy z hz => ?_⟩
    rw [List.mem_singleton.mp hz]
    exact hbefore y hy
  · intro y hmem
    rcases List.mem_append.mp hmem with hmem | hmem
    · exact h.due y hmem
    · rw [List.mem_singleton.mp hmem]
      exact ⟨htime, hpast, hahead⟩

theorem Account.abort (h : s.Account) (hlt : event < s.states.length)
    (hstate : s.states[event]? ≠ some AbortState.aborted) (hdeleted : event ∉ s.deleted) :
    { s.setState event .aborted with aborted := s.aborted ++ [event] }.Account := by
  have hnot : event ∉ s.aborted := fun hmem => hstate ((h.states event).mp hmem)
  refine ⟨h.nodup, ?_, h.sorted, h.forced, ?_, ?_, ?_, ?_, h.order, h.due⟩
  · intro e hmem
    change e < (s.states.set event .aborted).length
    rw [List.length_set]
    exact h.known e hmem
  · refine List.nodup_append.mpr ⟨h.aborted, by simp, fun a ha b hb heq => ?_⟩
    rw [List.mem_singleton.mp hb] at heq
    exact hnot (heq ▸ ha)
  · intro e
    change e ∈ s.aborted ++ [event] ↔ (s.states.set event .aborted)[e]? = _
    rw [List.mem_append, List.mem_singleton]
    by_cases heq : event = e
    · subst heq
      simp [List.getElem?_set_self hlt]
    · rw [List.getElem?_set_ne heq, ← h.states e]
      constructor
      · rintro (hmem | rfl)
        · exact hmem
        · exact absurd rfl heq
      · exact Or.inl
  · intro x hmem hfinished
    obtain ⟨hgone, habort⟩ := h.finished x hmem hfinished
    refine ⟨hgone, fun hmem => ?_⟩
    rcases List.mem_append.mp hmem with hmem | hmem
    · exact habort hmem
    · rw [List.mem_singleton.mp hmem] at hgone
      exact hdeleted hgone
  · intro e hmem
    exact (h.reason e hmem).imp_left (List.mem_append_left _)

theorem Account.delete (h : s.Account) (houtside : s.Outside event) (haborted : event ∈ s.aborted) :
    (s.delete event).Account := by
  refine ⟨?_, ?_, h.sorted, ?_, h.aborted, h.states, ?_, ?_, h.order, h.due⟩
  · change (s.queued ++ (s.deleted ++ [event])).Nodup
    rw [← List.append_assoc, List.nodup_append]
    refine ⟨h.nodup, by simp, fun a ha b hb heq => ?_⟩
    rw [List.mem_singleton.mp hb] at heq
    subst heq
    rcases List.mem_append.mp ha with ha | ha
    · exact houtside.2.2 ha
    · exact houtside.2.1 ha
  · change ∀ e ∈ s.queued ++ (s.deleted ++ [event]), _
    intro e hmem
    rw [← List.append_assoc] at hmem
    rcases List.mem_append.mp hmem with hmem | hmem
    · exact h.known e hmem
    · rw [List.mem_singleton.mp hmem]
      exact houtside.1
  · intro final passed hloop entry hmem
    exact List.mem_append_left _ (h.forced final passed hloop entry hmem)
  · intro x hmem hfinished
    obtain ⟨hgone, hnot⟩ := h.finished x hmem hfinished
    exact ⟨List.mem_append_left _ hgone, hnot⟩
  · intro e hmem
    rcases List.mem_append.mp hmem with hmem | hmem
    · exact h.reason e hmem
    · rw [List.mem_singleton.mp hmem]
      exact Or.inl haborted

theorem Account.discard (h : s.Account) (hloop : s.loop = .updating) (houtside : s.Outside event)
    (haborted : event ∈ s.aborted) (htime : s.time + 1 < 2 ^ 64) (deletable : Bool) :
    (s.discard event deletable).Account := by
  simp only [EventProcessor.discard]
  split
  · exact h.delete houtside haborted
  · have hcalculated : s.calculateTime 1 = s.time + 1 := Nat.mod_eq_of_lt htime
    rw [hcalculated]
    refine h.addEvent ?_ houtside (Nat.le_succ _) ?_
    · intro force final passed heq
      rw [hloop] at heq
      cases heq
    · simp only [Reached, hloop]

theorem Account.setLoop (h : s.Account) {time : Nat} {events : List (Nat × Nat)} {loop : Loop}
    (htime : s.time ≤ time) (hqueue : { s with time, events, loop }.queue = s.queue)
    (hentries : { s with time, events, loop }.entries.Sublist s.entries)
    (hforced : ∀ final passed, loop = .killing true final passed → passed = []) :
    { s with time, events, loop }.Account := by
  have hqueued : { s with time, events, loop }.queued = s.queued := by
    simp only [queued, hqueue]
  refine ⟨?_, ?_, h.sorted.sublist hentries, ?_, h.aborted, h.states, h.finished, h.reason,
    h.order, ?_⟩
  · rw [hqueued]
    exact h.nodup
  · rw [hqueued]
    exact h.known
  · intro final passed hloop entry hmem
    rw [hforced final passed hloop] at hmem
    cases hmem
  · intro x hmem
    obtain ⟨hdue, hpast, hahead⟩ := h.due x hmem
    exact ⟨hdue, Nat.le_trans hpast htime, fun entry hentry =>
      hahead entry (hentries.subset hentry)⟩

inductive UpdateRound (s : EventProcessor) (answer : Answer) : EventProcessor → Prop where
  | leave (hlate : ∀ execTime event rest, s.events = (execTime, event) :: rest →
        ¬execTime ≤ s.time) :
      UpdateRound s answer { s with loop := .idle }
  | execute {execTime event : Nat} {rest : List (Nat × Nat)} {acted : EventProcessor}
      (hevents : s.events = (execTime, event) :: rest) (hdue : execTime ≤ s.time)
      (hstate : s.states[event]? = some .running)
      (haccount : acted.Account)
      (hacted : Acted (if answer.finished then some event else none)
        { s with events := rest } acted)
      (hstops : ∀ e, HandlerAction.scheduleAbort e ∈ answer.actions → acted.Stopped e) :
      UpdateRound s answer { acted with
        executed := acted.executed ++
          [{ event, execTime, time := acted.time, finished := answer.finished }]
        deleted := if answer.finished then acted.deleted ++ [event] else acted.deleted }
  | abort {execTime event : Nat} {rest : List (Nat × Nat)} {acted : EventProcessor}
      (hevents : s.events = (execTime, event) :: rest)
      (hstate : s.states[event]? = some .abortScheduled)
      (haccount : acted.Account)
      (hacted : Acted (some event) { s with events := rest } acted)
      (hstops : ∀ e, HandlerAction.scheduleAbort e ∈ answer.actions → acted.Stopped e)
      (htime : s.time + 1 < 2 ^ 64) :
      UpdateRound s answer (({ acted with aborted := acted.aborted ++ [event] }.setState event
        .aborted).discard event answer.deletable)
  | again {execTime event : Nat} {rest : List (Nat × Nat)}
      (hevents : s.events = (execTime, event) :: rest)
      (hstate : s.states[event]? = some .aborted)
      (htime : s.time + 1 < 2 ^ 64) :
      UpdateRound s answer ({ s with events := rest }.discard event answer.deletable)

theorem updateRound_cases (h : s.Account) (hloop : s.loop = .updating) {answer : Answer}
    (hproper : s.ProperStep (.round answer)) : UpdateRound s answer (s.updateRound answer) := by
  cases hevents : s.events with
  | nil =>
      simp only [updateRound, hevents]
      exact hevents ▸ UpdateRound.leave (by simp [hevents])
  | cons entry rest =>
      obtain ⟨execTime, event⟩ := entry
      simp only [ProperStep, hloop, hevents] at hproper
      simp only [updateRound, hevents]
      split
      · rename_i hdue
        have hround := hproper hdue
        rw [← hloop] at hround
        obtain ⟨hpopped, houtside, -, -⟩ := h.pop hloop hevents
        have hat : { s with events := rest }.AtEntry := by
          intro force final passed heq
          rw [hloop] at heq
          cases heq
        split
        · rename_i hstate
          simp only [ProperUpdate, hstate] at hround
          obtain ⟨hreturned, haccount, hacted⟩ := actAll_proper hpopped hat hround
          have hstops := actAll_stops hpopped hat hround
          have hround : UpdateRound s answer _ :=
            UpdateRound.execute hevents hdue hstate haccount hacted hstops
          simp only [hreturned, Bool.true_and, Bool.not_true, Bool.false_eq_true, if_false]
          cases hfinished : answer.finished with
          | true => simpa only [hfinished, if_true, EventProcessor.delete] using hround
          | false =>
              simpa only [hfinished, Bool.false_eq_true, if_false] using hround
        · rename_i hstate
          simp only [ProperUpdate, hstate] at hround
          obtain ⟨hreturned, haccount, hacted⟩ := actAll_proper hpopped hat hround.1
          have hstops := actAll_stops hpopped hat hround.1
          simp only [hreturned, Bool.not_true, Bool.false_eq_true, if_false]
          exact UpdateRound.abort hevents hstate haccount hacted hstops hround.2
        · rename_i hrunning hscheduled
          obtain ⟨state, hstate⟩ : ∃ state, s.states[event]? = some state :=
            ⟨_, List.getElem?_eq_getElem houtside.1⟩
          cases state with
          | running => exact absurd hstate hrunning
          | abortScheduled => exact absurd hstate hscheduled
          | aborted =>
              simp only [ProperUpdate, hstate] at hround
              exact UpdateRound.again hevents hstate hround
      · rename_i hlate
        refine hevents ▸ UpdateRound.leave fun execTime' event' rest' heq => ?_
        rw [hevents] at heq
        cases heq
        exact hlate

theorem Account.updateRound (h : s.Account) (hloop : s.loop = .updating) {answer : Answer}
    (hproper : s.ProperStep (.round answer)) : (s.updateRound answer).Account := by
  have hround := updateRound_cases h hloop hproper
  generalize s.updateRound answer = s' at hround ⊢
  cases hround with
  | leave _ =>
      refine h.setLoop (Nat.le_refl _) ?_ ?_ (by simp)
      · simp only [queue, hloop]
      · simp only [entries, hloop]
        exact List.Sublist.refl _
  | @execute execTime event rest acted hevents hdue hstate haccount hacted _ =>
      obtain ⟨-, houtside, hfirst, hbefore⟩ := h.pop hloop hevents
      have hpast : execTime ≤ acted.time := by
        rw [hacted.time]
        exact hdue
      have hahead : ∀ entry ∈ acted.entries, execTime ≤ entry.1 := by
        intro entry hmem
        rcases hacted.added entry hmem with hmem | hlate
        · simp only [entries, hloop] at hmem
          exact hfirst entry hmem
        · exact Nat.le_trans hdue hlate
      refine haccount.execute (x := ⟨event, execTime, acted.time, answer.finished⟩) hpast hpast
        hahead ?_ (hacted.lt_length houtside.1) ?_ ?_ ?_
      · rw [hacted.executed]
        exact hbefore
      · rw [hacted.deleted]
        exact houtside.2.1
      · rw [hacted.aborted]
        intro hmem
        rw [(h.states event).mp hmem] at hstate
        cases hstate
      · intro hfinished hmem
        exact houtside.2.2 (hacted.current event hmem (if_pos hfinished).symm)
  | @abort execTime event rest acted hevents hstate haccount hacted _ htime =>
      obtain ⟨-, houtside, -, -⟩ := h.pop hloop hevents
      have hlt := hacted.lt_length houtside.1
      have hscheduled : acted.states[event]? = some .abortScheduled := by
        rcases hacted.states event _ hstate with hsame | ⟨habsurd, -⟩
        · exact hsame
        · cases habsurd
      have hdeleted : event ∉ acted.deleted := by
        rw [hacted.deleted]
        exact houtside.2.1
      have haborted := haccount.abort hlt (by simp [hscheduled]) hdeleted
      refine haborted.discard ?_ ⟨?_, hdeleted, fun hmem => ?_⟩ ?_ ?_ answer.deletable
      · refine (hacted.still ?_).trans hloop
        simp [hloop]
      · simpa [setState] using hlt
      · exact houtside.2.2 (hacted.current event hmem rfl)
      · exact List.mem_append_right _ (List.mem_singleton_self _)
      · change acted.time + 1 < 2 ^ 64
        rw [hacted.time]
        exact htime
  | again hevents hstate htime =>
      obtain ⟨hpopped, houtside, -, -⟩ := h.pop hloop hevents
      exact hpopped.discard hloop houtside ((h.states _).mpr hstate) htime answer.deletable

theorem Account.deleteQueued (h : s.Account) (haborted : event ∈ s.aborted)
    (execTime : Nat) {events : List (Nat × Nat)} {loop : Loop}
    (hqueue : s.queue.Perm ((execTime, event) :: { s with events, loop }.queue))
    (hentries : { s with events, loop }.entries.Sublist s.entries)
    (hforced : ∀ final passed, loop = .killing true final passed →
      ∀ entry ∈ passed, entry.2 ∈ s.deleted ++ [event]) :
    { s.delete event with events, loop }.Account := by
  have hqueued : (s.queued ++ s.deleted).Perm
      ({ s with events, loop }.queued ++ (s.deleted ++ [event])) := by
    refine ((hqueue.map Prod.snd).append_right s.deleted).trans ?_
    refine List.perm_middle.symm.trans (List.Perm.append_left _ ?_)
    exact (List.perm_append_singleton event s.deleted).symm
  refine ⟨?_, ?_, h.sorted.sublist hentries, hforced, h.aborted, h.states, ?_, ?_, h.order, ?_⟩
  · exact hqueued.nodup_iff.mp h.nodup
  · exact fun e hmem => h.known e (hqueued.mem_iff.mpr hmem)
  · intro x hmem hfinished
    obtain ⟨hgone, hnot⟩ := h.finished x hmem hfinished
    exact ⟨List.mem_append_left _ hgone, hnot⟩
  · intro e hmem
    rcases List.mem_append.mp hmem with hmem | hmem
    · exact h.reason e hmem
    · rw [List.mem_singleton.mp hmem]
      exact Or.inl haborted
  · intro x hmem
    obtain ⟨hdue, hpast, hahead⟩ := h.due x hmem
    exact ⟨hdue, hpast, fun entry hentry => hahead entry (hentries.subset hentry)⟩

theorem Account.pass (h : s.Account) {force final : Bool} {passed : List (Nat × Nat)}
    (hloop : s.loop = .killing force final passed) (hevents : s.events = (execTime, event) :: rest)
    (haborted : event ∈ s.aborted) (deletable : Bool) : (s.pass deletable).Account := by
  simp only [EventProcessor.pass, hloop, hevents]
  cases force with
  | true =>
      simp only [Bool.not_true, Bool.false_and, Bool.false_eq_true, if_false, if_true]
      refine h.deleteQueued haborted execTime ?_ ?_ ?_
      · simp only [queue, hloop, hevents]
        exact List.Perm.refl _
      · simp only [entries, hloop, hevents, List.append_assoc]
        exact List.Sublist.refl _
      · rintro final' passed' heq entry hmem
        cases heq
        rcases List.mem_append.mp hmem with hmem | hmem
        · exact List.mem_append_left _ (h.forced final passed hloop entry hmem)
        · rw [List.mem_singleton.mp hmem]
          exact List.mem_append_right _ (List.mem_singleton_self _)
  | false =>
      cases deletable with
      | true =>
          simp only [Bool.not_true, Bool.and_false, Bool.false_eq_true, if_false]
          have hsame : (s.delete event).loop = .killing false final passed := hloop
          refine h.deleteQueued haborted execTime ?_ ?_ (by simp [hsame])
          · simp only [queue, hloop, hevents, hsame]
            exact List.perm_middle
          · simp only [entries, hloop, hevents, hsame]
            exact (List.sublist_cons_self _ _).append_left _
      | false =>
          simp only [Bool.not_false, Bool.and_self, if_true]
          refine h.setLoop (Nat.le_refl _) ?_ ?_ (by simp)
          · simp only [queue, hloop, hevents, List.append_assoc, List.cons_append, List.nil_append]
          · simp only [entries, hloop, hevents, List.append_assoc, List.cons_append,
              List.nil_append]
            exact List.Sublist.refl _

inductive KillRound (s : EventProcessor) (answer : Answer) : EventProcessor → Prop where
  | leave {force final : Bool} {passed : List (Nat × Nat)} (hevents : s.events = [])
      (hloop : s.loop = .killing force final passed) :
      KillRound s answer (s.leaveKilling force final passed)
  | again {execTime event : Nat} {rest : List (Nat × Nat)}
      (hevents : s.events = (execTime, event) :: rest) (haborted : event ∈ s.aborted) :
      KillRound s answer (s.pass answer.deletable)
  | abort {execTime event : Nat} {rest rest' : List (Nat × Nat)} {acted : EventProcessor}
      (hevents : s.events = (execTime, event) :: rest)
      (hstate : s.states[event]? ≠ some .aborted)
      (haccount : acted.Account)
      (hacted : Acted (some event)
        { s.setState event .aborted with aborted := s.aborted ++ [event] } acted)
      (hstops : ∀ e, HandlerAction.scheduleAbort e ∈ answer.actions → acted.Stopped e)
      (hevents' : acted.events = (execTime, event) :: rest') :
      KillRound s answer (acted.pass answer.deletable)

theorem killRound_cases (h : s.Account) {force final : Bool} {passed : List (Nat × Nat)}
    (hloop : s.loop = .killing force final passed) {answer : Answer}
    (hproper : s.ProperStep (.round answer)) :
    KillRound s answer (s.killRound force final passed answer) := by
  cases hevents : s.events with
  | nil =>
      simp only [killRound, hevents]
      exact KillRound.leave hevents hloop
  | cons entry rest =>
      obtain ⟨execTime, event⟩ := entry
      simp only [ProperStep, hloop, hevents] at hproper
      simp only [killRound, hevents]
      split
      · rename_i hstate
        exact KillRound.again hevents ((h.states event).mpr hstate)
      · rename_i hstate
        have hround := hproper hstate
        have hqueued : event ∈ s.queued := by
          cases force <;> simp [queued, queue, hloop, hevents]
        have hdeleted : event ∉ s.deleted := fun hmem =>
          (List.nodup_append.mp h.nodup).2.2 event hqueued event hmem rfl
        have haborted := h.abort (h.known event (List.mem_append_left _ hqueued)) hstate hdeleted
        have hat : { s.setState event .aborted with aborted := s.aborted ++ [event] }.AtEntry := by
          intro _ _ _ _ hnil
          change s.events = [] at hnil
          rw [hevents] at hnil
          cases hnil
        obtain ⟨hreturned, haccount, hacted⟩ := actAll_proper haborted hat hround
        have hstops := actAll_stops haborted hat hround
        obtain ⟨passed', -, hhead⟩ := hacted.killing force final passed hloop
        obtain ⟨rest', hevents'⟩ : ∃ rest', (EventProcessor.actAll
            { s.setState event .aborted with aborted := s.aborted ++ [event] }
            answer.actions).2.events = (execTime, event) :: rest' := by
          change _ = s.events.head? at hhead
          rw [hevents] at hhead
          exact List.head?_eq_some_iff.mp hhead
        simp only [hreturned, if_true]
        exact KillRound.abort hevents hstate haccount hacted hstops hevents'

theorem Account.killRound (h : s.Account) {force final : Bool} {passed : List (Nat × Nat)}
    (hloop : s.loop = .killing force final passed) {answer : Answer}
    (hproper : s.ProperStep (.round answer)) : (s.killRound force final passed answer).Account := by
  have hround := killRound_cases h hloop hproper
  generalize s.killRound force final passed answer = s' at hround ⊢
  cases hround with
  | @leave force final passed hevents hloop =>
      refine h.setLoop (Nat.le_refl _) ?_ ?_ ?_
      · cases force <;> cases final <;> simp [queue, hloop, hevents]
      · cases force <;> cases final <;> simp [entries, hloop, hevents]
      · cases final <;> simp
  | again hevents haborted => exact h.pass hloop hevents haborted answer.deletable
  | abort hevents hstate haccount hacted _ hevents' =>
      obtain ⟨passed', hloop', -⟩ := hacted.killing force final passed hloop
      refine haccount.pass hloop' hevents' ?_ answer.deletable
      rw [hacted.aborted]
      exact List.mem_append_right _ (List.mem_singleton_self _)

end Rounds

section Run

variable {s : EventProcessor}

theorem Account.step (h : s.Account) {e : ProcessorEvent} (hproper : s.ProperStep e) :
    (s.step e).Account := by
  cases hloop : s.loop with
  | idle =>
      cases e with
      | act action =>
          simp only [ProperStep, hloop] at hproper
          simp only [EventProcessor.step, hloop]
          have hat : s.AtEntry := by simp [AtEntry, hloop]
          exact (act_proper h hat hproper (fun event offset _ => Option.some_ne_none event)).2.1
      | update pTime =>
          simp only [ProperStep, hloop] at hproper
          simp only [EventProcessor.step, hloop]
          refine h.setLoop ?_ ?_ ?_ (by simp)
          · rw [Nat.mod_eq_of_lt hproper]
            exact Nat.le_add_right _ _
          · simp only [queue, hloop]
          · simp only [entries, hloop]
            exact List.Sublist.refl _
      | killAllEvents force =>
          simp only [EventProcessor.step, hloop]
          refine h.setLoop (Nat.le_refl _) ?_ ?_ (by simp)
          · cases force <;> simp only [queue, hloop, List.nil_append]
          · simp only [entries, hloop, List.nil_append]
            exact List.Sublist.refl _
      | destroy =>
          simp only [EventProcessor.step, hloop]
          refine h.setLoop (Nat.le_refl _) ?_ ?_ (by simp)
          · simp only [queue, hloop]
          · simp only [entries, hloop, List.nil_append]
            exact List.Sublist.refl _
      | round answer => simpa only [EventProcessor.step, hloop] using h
  | updating =>
      cases e with
      | round answer =>
          simp only [EventProcessor.step, hloop]
          exact h.updateRound hloop hproper
      | act | update | killAllEvents | destroy =>
          simpa only [EventProcessor.step, hloop] using h
  | killing force final passed =>
      cases e with
      | round answer =>
          simp only [EventProcessor.step, hloop]
          exact h.killRound hloop hproper
      | act | update | killAllEvents | destroy =>
          simpa only [EventProcessor.step, hloop] using h
  | destroyed => simpa only [EventProcessor.step, hloop] using h

theorem Account.init : ({} : EventProcessor).Account := by
  refine ⟨?_, ?_, ?_, ?_, ?_, ?_, ?_, ?_, ?_, ?_⟩ <;> simp [queued, queue, entries]

end Run

end EventProcessor

end TortoiseWow.Utilities
