import TortoiseWow.Lib.Run

/-!
The generator of the counters of one type of objects. Freed counters are given out
again first; else counters are drawn from the next one on, singly or a hundred at
once. When they run out the world is told to stop, but the call still returns one.
-/

namespace TortoiseWow.Object

inductive HighGuid where
  | item
  | player
  | gameobject
  | transport
  | unit
  | pet
  | dynamicobject
  | corpse
  | moTransport
  deriving Repr, DecidableEq

namespace HighGuid

def hasEntry : HighGuid → Bool
  | item | player | dynamicobject | corpse | moTransport => false
  | gameobject | transport | unit | pet => true

def getMaxCounter (high : HighGuid) : UInt32 :=
  if high.hasEntry then 0x00FFFFFF else 0xFFFFFFFF

end HighGuid

structure ObjectGuidGenerator where
  nextGuid : UInt32 := 1
  freedGuids : List UInt32 := []
  deriving Repr, DecidableEq

namespace ObjectGuidGenerator

def generateRangeSize : UInt32 := 100

/-- The counter, the generator afterwards, and whether World::StopNow was called. -/
def generate (high : HighGuid) (gen : ObjectGuidGenerator) :
    UInt32 × ObjectGuidGenerator × Bool :=
  match gen.freedGuids with
  | guid :: rest => (guid, { gen with freedGuids := rest }, false)
  | [] =>
      (gen.nextGuid, { gen with nextGuid := gen.nextGuid + 1 },
        decide (high.getMaxCounter - 1 ≤ gen.nextGuid))

/-- `first` and `last`, the generator afterwards, and whether World::StopNow was called. -/
def generateRange (high : HighGuid) (gen : ObjectGuidGenerator) :
    (UInt32 × UInt32) × ObjectGuidGenerator × Bool :=
  let last := gen.nextGuid + generateRangeSize
  ((gen.nextGuid, last), { gen with nextGuid := last },
    decide (high.getMaxCounter - generateRangeSize ≤ gen.nextGuid))

def freeGuid (gen : ObjectGuidGenerator) (guid : UInt32) : ObjectGuidGenerator :=
  { gen with freedGuids := gen.freedGuids ++ [guid] }

end ObjectGuidGenerator

inductive GuidEvent where
  | generate
  | generateRange
  | freeGuid (guid : UInt32)
  deriving Repr, DecidableEq

/-- A generator in use. `live` are the counters handed out and not freed since, `fresh`
counts those drawn from the next guid, and `stopped` says that the stop of the world
is requested. -/
structure Guids where
  generator : ObjectGuidGenerator
  stopped : Bool := false
  live : List UInt32 := []
  fresh : Nat := 0
  deriving Repr, DecidableEq

def countersFrom (first : UInt32) (count : Nat) : List UInt32 :=
  (List.range count).map fun k => first + UInt32.ofNat k

namespace Guids

def start (first : UInt32) : Guids := { generator := { nextGuid := first } }

def handedOut (high : HighGuid) (s : Guids) : GuidEvent → List UInt32
  | .generate => [(s.generator.generate high).1]
  | .generateRange => countersFrom (s.generator.generateRange high).1.1
      ObjectGuidGenerator.generateRangeSize.toNat
  | .freeGuid _ => []

def drawn (s : Guids) : GuidEvent → Nat
  | .generate => if s.generator.freedGuids = [] then 1 else 0
  | .generateRange => ObjectGuidGenerator.generateRangeSize.toNat
  | .freeGuid _ => 0

def step (high : HighGuid) (s : Guids) (event : GuidEvent) : Guids :=
  let s' : Guids := { s with
    live := s.live ++ s.handedOut high event
    fresh := s.fresh + s.drawn event }
  match event with
  | .generate =>
      let (_, generator, stop) := s.generator.generate high
      { s' with generator, stopped := s.stopped || stop }
  | .generateRange =>
      let (_, generator, stop) := s.generator.generateRange high
      { s' with generator, stopped := s.stopped || stop }
  | .freeGuid guid =>
      { s' with generator := s.generator.freeGuid guid, live := s.live.erase guid }

def run (high : HighGuid) (s : Guids) (events : List GuidEvent) : Guids :=
  Lib.run (step high) s events

def Frees (s : Guids) : GuidEvent → Prop
  | .freeGuid guid => guid ∈ s.live
  | .generate | .generateRange => True

def Unused (high : HighGuid) (s : Guids) (event : GuidEvent) : Prop :=
  (s.handedOut high event).Nodup ∧ ∀ guid ∈ s.handedOut high event, guid ∉ s.live

def Fits (high : HighGuid) (s : Guids) (event : GuidEvent) : Prop :=
  ∀ guid ∈ s.handedOut high event, guid ≤ high.getMaxCounter

end Guids

theorem countersFrom_add (first : UInt32) (m n : Nat) :
    countersFrom first (m + n) =
      countersFrom first m ++ countersFrom (first + UInt32.ofNat m) n := by
  simp only [countersFrom, List.range_add, List.map_append, List.map_map]
  congr 1
  apply List.map_congr_left
  intro k _
  simp only [Function.comp_apply, UInt32.ofNat_add]
  ac_rfl

theorem nodup_countersFrom (first : UInt32) {count : Nat} (h : count ≤ 2 ^ 32) :
    (countersFrom first count).Nodup := by
  refine List.Nodup.map_on ?_ List.nodup_range
  intro j hj k hk heq
  have hj' := List.mem_range.mp hj
  have hk' := List.mem_range.mp hk
  have hofNat : UInt32.ofNat j = UInt32.ofNat k := by
    have hsub := congrArg (· - first) heq
    simpa using hsub
  have hsize : UInt32.size = 2 ^ 32 := rfl
  have htoNat := congrArg UInt32.toNat hofNat
  rw [UInt32.toNat_ofNat_of_lt' (by omega), UInt32.toNat_ofNat_of_lt' (by omega)] at htoNat
  exact htoNat

namespace Guids

structure Accounted (first : UInt32) (s : Guids) : Prop where
  next : s.generator.nextGuid = first + UInt32.ofNat s.fresh
  drawn : (s.live ++ s.generator.freedGuids).Perm (countersFrom first s.fresh)

section Step

variable {high : HighGuid} {first : UInt32} {s : Guids}

theorem Accounted.step (h : s.Accounted first) (event : GuidEvent) (hfrees : s.Frees event) :
    (s.step high event).Accounted first := by
  obtain ⟨hnext, hdrawn⟩ := h
  cases event with
  | generate =>
      cases hfreed : s.generator.freedGuids with
      | cons guid rest =>
          refine ⟨?_, ?_⟩
          · simpa [Guids.step, ObjectGuidGenerator.generate, Guids.drawn, hfreed] using hnext
          · simpa [Guids.step, ObjectGuidGenerator.generate, Guids.drawn, Guids.handedOut,
              hfreed] using hdrawn
      | nil =>
          rw [hfreed, List.append_nil] at hdrawn
          refine ⟨?_, ?_⟩
          · simp only [Guids.step, ObjectGuidGenerator.generate, Guids.drawn, hfreed, if_true,
              hnext, UInt32.ofNat_add]
            ac_rfl
          · simp only [Guids.step, ObjectGuidGenerator.generate, Guids.drawn, Guids.handedOut,
              hfreed, if_true, List.append_nil, countersFrom_add]
            refine hdrawn.append ?_
            simp [countersFrom, hnext]
  | generateRange =>
      refine ⟨?_, ?_⟩
      · simp only [Guids.step, ObjectGuidGenerator.generateRange, Guids.drawn, hnext,
          UInt32.ofNat_add, UInt32.ofNat_toNat]
        ac_rfl
      · simp only [Guids.step, ObjectGuidGenerator.generateRange, Guids.drawn, Guids.handedOut,
          countersFrom_add, ← hnext]
        have hmoved := hdrawn.append_right (countersFrom s.generator.nextGuid
          ObjectGuidGenerator.generateRangeSize.toNat)
        refine List.Perm.trans ?_ hmoved
        simp only [List.append_assoc]
        exact List.Perm.append_left _ List.perm_append_comm
  | freeGuid guid =>
      refine ⟨by simpa [Guids.step, Guids.drawn, ObjectGuidGenerator.freeGuid] using hnext, ?_⟩
      have herase : (guid :: s.live.erase guid).Perm s.live :=
        (List.perm_cons_erase hfrees).symm
      have hmoved := (herase.append_right s.generator.freedGuids).trans hdrawn
      simp only [Guids.step, ObjectGuidGenerator.freeGuid, Guids.drawn, Nat.add_zero]
      refine List.Perm.trans ?_ hmoved
      simp only [← List.append_assoc]
      exact List.perm_append_singleton _ _

/-- As long as the fresh counters have not gone round, nothing live is handed out. -/
theorem Accounted.unused (h : s.Accounted first) {event : GuidEvent} (hfrees : s.Frees event)
    (hround : (s.step high event).fresh ≤ 2 ^ 32) : s.Unused high event := by
  have hstep : (s.step high event).Accounted first := h.step event hfrees
  have hnodup := (hstep.drawn.nodup_iff.mpr (nodup_countersFrom first hround)).of_append_left
  cases event with
  | freeGuid guid => exact ⟨List.nodup_nil, by simp [handedOut]⟩
  | generate | generateRange =>
      have hsplit := List.nodup_append.mp hnodup
      refine ⟨hsplit.2.1, fun guid hguid hlive => ?_⟩
      exact hsplit.2.2 guid hlive guid hguid rfl

/-- Before the stop is requested the fresh counters have not gone round, and all
counters fit. -/
structure Low (high : HighGuid) (first : UInt32) (s : Guids) : Prop where
  round : first.toNat + s.fresh < 2 ^ 32
  fits : ∀ guid ∈ s.live ++ s.generator.freedGuids, guid ≤ high.getMaxCounter

theorem mem_countersFrom {first : UInt32} {count : Nat} (h : first.toNat + count ≤ 2 ^ 32)
    {guid : UInt32} (hguid : guid ∈ countersFrom first count) :
    guid.toNat < first.toNat + count := by
  obtain ⟨k, hk, rfl⟩ := List.mem_map.mp hguid
  have hk' := List.mem_range.mp hk
  have hsize : UInt32.size = 2 ^ 32 := rfl
  have hpos := first.toNat_lt
  rw [UInt32.toNat_add, UInt32.toNat_ofNat_of_lt' (by omega), Nat.mod_eq_of_lt (by omega)]
  omega

theorem Accounted.nextGuid_toNat (h : s.Accounted first)
    (hround : first.toNat + s.fresh < 2 ^ 32) :
    s.generator.nextGuid.toNat = first.toNat + s.fresh := by
  have hsize : UInt32.size = 2 ^ 32 := rfl
  rw [h.next, UInt32.toNat_add, UInt32.toNat_ofNat_of_lt' (by omega), Nat.mod_eq_of_lt hround]

/-- A call that does not request the stop hands out counters that fit. -/
theorem Low.step (h : s.Low high first) (haccounted : s.Accounted first) (event : GuidEvent)
    (hfrees : s.Frees event) (hrunning : (s.step high event).stopped = false) :
    (s.step high event).Low high first ∧ s.Fits high event := by
  obtain ⟨hround, hfits⟩ := h
  have hnext := haccounted.nextGuid_toNat hround
  have hmax := high.getMaxCounter.toNat_lt
  cases event with
  | generate =>
      cases hfreed : s.generator.freedGuids with
      | cons guid rest =>
          have hguid : guid ≤ high.getMaxCounter := hfits guid (by simp [hfreed])
          refine ⟨⟨?_, ?_⟩, ?_⟩
          · simpa [Guids.step, Guids.drawn, hfreed] using hround
          · intro g hg
            refine hfits g ?_
            simpa [Guids.step, ObjectGuidGenerator.generate, Guids.handedOut, hfreed] using hg
          · intro g hg
            simp only [handedOut, ObjectGuidGenerator.generate, hfreed, List.mem_singleton] at hg
            exact hg ▸ hguid
      | nil =>
          have hlow : s.generator.nextGuid < high.getMaxCounter - 1 := by
            simp only [Guids.step, ObjectGuidGenerator.generate, hfreed, Bool.or_eq_false_iff,
              decide_eq_false_iff_not, UInt32.not_le] at hrunning
            exact hrunning.2
          have hone : (1 : UInt32) ≤ high.getMaxCounter := by cases high <;> decide
          rw [UInt32.lt_iff_toNat_lt, UInt32.toNat_sub_of_le _ _ hone] at hlow
          have hsmall : s.generator.nextGuid ≤ high.getMaxCounter := by
            rw [UInt32.le_iff_toNat_le]
            omega
          refine ⟨⟨?_, ?_⟩, ?_⟩
          · simp only [Guids.step, Guids.drawn, hfreed, if_true]
            omega
          · intro g hg
            simp only [Guids.step, ObjectGuidGenerator.generate, Guids.handedOut, hfreed,
              List.append_nil, List.mem_append, List.mem_singleton] at hg
            rcases hg with hg | rfl
            · exact hfits g (by simp [hg])
            · exact hsmall
          · intro g hg
            simp only [handedOut, ObjectGuidGenerator.generate, hfreed, List.mem_singleton] at hg
            exact hg ▸ hsmall
  | generateRange =>
      have hlow : s.generator.nextGuid <
          high.getMaxCounter - ObjectGuidGenerator.generateRangeSize := by
        simp only [Guids.step, ObjectGuidGenerator.generateRange, Bool.or_eq_false_iff,
          decide_eq_false_iff_not, UInt32.not_le] at hrunning
        exact hrunning.2
      have hsize : ObjectGuidGenerator.generateRangeSize ≤ high.getMaxCounter := by
        cases high <;> decide
      have hcount : ObjectGuidGenerator.generateRangeSize.toNat = 100 := rfl
      rw [UInt32.lt_iff_toNat_lt, UInt32.toNat_sub_of_le _ _ hsize] at hlow
      have hrange : ∀ g ∈ s.handedOut high .generateRange, g ≤ high.getMaxCounter := by
        intro g hg
        have hlt := mem_countersFrom (by simp only [ObjectGuidGenerator.generateRange]; omega) hg
        simp only [ObjectGuidGenerator.generateRange] at hlt
        rw [UInt32.le_iff_toNat_le]
        omega
      refine ⟨⟨?_, ?_⟩, hrange⟩
      · simp only [Guids.step, Guids.drawn]
        omega
      · intro g hg
        simp only [Guids.step, ObjectGuidGenerator.generateRange, List.mem_append] at hg
        rcases hg with (hg | hg) | hg
        · exact hfits g (by simp [hg])
        · exact hrange g hg
        · exact hfits g (by simp [hg])
  | freeGuid guid =>
      refine ⟨⟨hround, ?_⟩, by simp [Fits, handedOut]⟩
      intro g hg
      simp only [Guids.step, ObjectGuidGenerator.freeGuid, List.mem_append,
        List.mem_singleton] at hg
      rcases hg with hg | hg | rfl
      · exact hfits g (by simp [List.mem_of_mem_erase hg])
      · exact hfits g (by simp [hg])
      · exact hfits g (by simp [show g ∈ s.live from hfrees])

theorem step_stopped (high : HighGuid) (s : Guids) (event : GuidEvent)
    (h : (s.step high event).stopped = false) : s.stopped = false := by
  cases event with
  | generate | generateRange =>
      simp only [step, Bool.or_eq_false_iff] at h
      exact h.1
  | freeGuid guid => exact h

/-- What a run keeps: the account, and the bounds until the stop is requested. -/
structure Sound (high : HighGuid) (first : UInt32) (s : Guids) : Prop where
  accounted : s.Accounted first
  low : s.stopped = false → s.Low high first

theorem Sound.step (h : s.Sound high first) (event : GuidEvent) (hfrees : s.Frees event) :
    (s.step high event).Sound high first where
  accounted := h.accounted.step event hfrees
  low := fun hrunning =>
    ((h.low (step_stopped high s event hrunning)).step h.accounted event hfrees hrunning).1

theorem sound_start (high : HighGuid) (first : UInt32) : (start first).Sound high first where
  accounted := ⟨by simp [start], by simp [start, countersFrom]⟩
  low := fun _ => ⟨by simpa [start] using first.toNat_lt, by simp [start]⟩

/-- A call hands out no live counter unless the stop is requested and more than
2 ^ 32 counters were drawn, and before the stop is requested all counters fit. -/
def Correct (high : HighGuid) (s : Guids) (event : GuidEvent) : Prop :=
  ((s.step high event).stopped = false ∨ (s.step high event).fresh ≤ 2 ^ 32 →
      s.Unused high event) ∧
    ((s.step high event).stopped = false → s.Fits high event)

theorem Sound.correct (h : s.Sound high first) (event : GuidEvent) (hfrees : s.Frees event) :
    s.Correct high event := by
  refine ⟨fun hcase => h.accounted.unused hfrees ?_, fun hrunning => ?_⟩
  · rcases hcase with hrunning | hround
    · have hafter := ((h.step event hfrees).low hrunning).round
      omega
    · exact hround
  · exact ((h.low (step_stopped high s event hrunning)).step h.accounted event hfrees hrunning).2

end Step

theorem guids_unique (high : HighGuid) (first : UInt32) (events : List GuidEvent)
    (hfrees : Lib.Along (step high) Frees (start first) events) :
    Lib.Along (step high) (Correct high) (start first) events :=
  Lib.along_of_invariant (I := Sound high first) (fun _ event h hfree => h.step event hfree)
    (fun _ event h hfree => h.correct event hfree) (sound_start high first) hfrees

/-- A counter of a range is freed and given out again, and then the next one. -/
theorem guids_unique_after_free :
    Lib.Along (step .item) (Correct .item) (start 1)
      [.generateRange, .freeGuid 7, .generate, .generate] :=
  guids_unique .item 1 _ (by simp [Frees]; decide)

theorem frees_generates (high : HighGuid) (s : Guids) (count : Nat) :
    Lib.Along (step high) Frees s (List.replicate count .generate) := by
  induction count generalizing s with
  | zero => trivial
  | succ count ih => exact ⟨trivial, ih _⟩

theorem fresh_generates (high : HighGuid) (count : Nat) {s : Guids}
    (h : s.generator.freedGuids = []) :
    (s.run high (List.replicate count .generate)).generator.freedGuids = [] ∧
      (s.run high (List.replicate count .generate)).fresh = s.fresh + count := by
  induction count generalizing s with
  | zero => exact ⟨h, rfl⟩
  | succ count ih =>
      have hnone : (s.step high .generate).generator.freedGuids = [] := by
        simp [step, ObjectGuidGenerator.generate, h]
      have hone : (s.step high .generate).fresh = s.fresh + 1 := by simp [step, drawn, h]
      obtain ⟨hfreed, hfresh⟩ := ih hnone
      refine ⟨hfreed, ?_⟩
      change ((s.step high .generate).run high _).fresh = _
      rw [hfresh, hone]
      omega

theorem start_handed_out_again (high : HighGuid) (first : UInt32) {count : Nat}
    (hpos : 0 < count) (hround : UInt32.ofNat count = 0) :
    Lib.Along (step high) Frees (start first) (List.replicate count .generate ++ [.generate]) ∧
      ¬ Lib.Along (step high) (Unused high) (start first)
        (List.replicate count .generate ++ [.generate]) := by
  have hfrees := frees_generates high (start first) count
  simp only [Lib.along_append]
  refine ⟨⟨hfrees, trivial, trivial⟩, ?_⟩
  rintro ⟨-, hunused, -⟩
  obtain ⟨hfreed, hfresh⟩ := fresh_generates high count (s := start first) rfl
  have hsound : ((start first).run high (List.replicate count .generate)).Sound high first :=
    Lib.run_invariant (I := Sound high first) (fun _ event h hfree => h.step event hfree)
      (sound_start high first) hfrees
  have hnext := hsound.accounted.next
  have hdrawn := hsound.accounted.drawn
  have hzero : (start first).fresh = 0 := rfl
  rw [hfresh, hzero, Nat.zero_add] at hnext hdrawn
  rw [hround, UInt32.add_zero] at hnext
  rw [hfreed, List.append_nil] at hdrawn
  refine hunused.2 first ?_ (hdrawn.mem_iff.mpr ?_)
  · change first ∈ ((start first).run high (List.replicate count .generate)).handedOut
      high .generate
    simp [handedOut, ObjectGuidGenerator.generate, hfreed, hnext]
  · exact List.mem_map.mpr ⟨0, List.mem_range.mpr hpos, by simp⟩

/-- After 2 ^ 32 calls the counter 1 is handed out again although nothing was freed. -/
theorem counter_handed_out_again :
    ∃ events : List GuidEvent, Lib.Along (step .player) Frees (start 1) events ∧
      ¬ Lib.Along (step .player) (Unused .player) (start 1) events :=
  ⟨_, start_handed_out_again .player 1 (Nat.two_pow_pos 32) (by decide)⟩

end Guids

end TortoiseWow.Object
