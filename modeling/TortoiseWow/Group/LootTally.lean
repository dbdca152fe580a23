import TortoiseWow.Group.LootRoll
import TortoiseWow.Group.Subgroups

/-!
The totals of a roll are the numbers of its votes, and it is decided when everybody has voted
or the timer runs out, as long as nobody votes twice and nobody leaves a roll in which all the
others have voted.
-/

namespace TortoiseWow.LootRolls

def countVotes (kind : RollVote) (entries : List (UInt64 × RollVote)) : Nat :=
  entries.countP (·.2 = kind)

structure Tallied (r : Roll) : Prop where
  need : r.totalNeed.toNat = countVotes .need r.playerVote.entries
  greed : r.totalGreed.toNat = countVotes .greed r.playerVote.entries
  pass : r.totalPass.toNat = countVotes .pass r.playerVote.entries
  rolling : r.totalPlayersRolling.toNat = r.playerVote.entries.length
  size : r.playerVote.entries.length ≤ 40
  eligible : ∀ entry ∈ r.playerVote.entries, entry.2 ≠ .notValid

def AllVoted (r : Roll) : Prop := ∀ entry ∈ r.playerVote.entries, entry.2 ≠ .notEmitedYet

/-- The winner is one of those who needed, or who were greedy when nobody needed. -/
def Fair (r : Roll) : Outcome → Prop
  | .won guid _ kind => (guid, kind) ∈ r.playerVote.entries ∧
      (kind = .need ∨ kind = .greed ∧ countVotes .need r.playerVote.entries = 0)
  | .allPassed => countVotes .need r.playerVote.entries = 0 ∧
      countVotes .greed r.playerVote.entries = 0
  | .gone | .nobody => False

section Votes

variable {r : Roll} {guid : UInt64} {entries : List (UInt64 × RollVote)} {kind : RollVote}

theorem countVotes_split (before after : List (UInt64 × RollVote)) (entry : UInt64 × RollVote) :
    countVotes kind (before ++ entry :: after) =
      countVotes kind (before ++ after) + if entry.2 = kind then 1 else 0 := by
  simp only [countVotes, List.countP_append, List.countP_cons, decide_eq_true_eq]
  omega

theorem countVotes_le (kind : RollVote) (entries : List (UInt64 × RollVote)) :
    countVotes kind entries ≤ entries.length := List.countP_le_length

theorem countVotes_eq_zero : countVotes kind entries = 0 ↔ ∀ entry ∈ entries, entry.2 ≠ kind := by
  simp [countVotes, List.countP_eq_zero]

theorem length_eq_votes (entries : List (UInt64 × RollVote)) :
    entries.length = countVotes .pass entries + countVotes .need entries +
      countVotes .greed entries + countVotes .notEmitedYet entries +
        countVotes .notValid entries := by
  induction entries with
  | nil => rfl
  | cons entry entries ih =>
      obtain ⟨guid, vote⟩ := entry
      simp only [countVotes, List.length_cons, List.countP_cons] at ih ⊢
      cases vote with
      | pass | need | greed | notEmitedYet | notValid => simp; omega

/-- The totals reach the number of players when everybody has voted. -/
theorem isComplete_iff (h : Tallied r) : r.isComplete = true ↔ AllVoted r := by
  have hlength := length_eq_votes r.playerVote.entries
  have hvalid := countVotes_eq_zero.mpr h.eligible
  have hvoted : AllVoted r ↔ countVotes .notEmitedYet r.playerVote.entries = 0 :=
    countVotes_eq_zero.symm
  rw [hvoted, Roll.isComplete, decide_eq_true_eq, h.rolling, h.pass, h.need, h.greed]
  omega

theorem tallied_startOf (target : UInt64) (itemSlot : UInt8) (loot : Nat) (eligible : Eligible) :
    Tallied (.startOf target itemSlot loot eligible) := by
  have hvotes : ∀ entry ∈ (Roll.startOf target itemSlot loot eligible).playerVote.entries,
      entry.2 = .notEmitedYet := by
    intro entry hentry
    obtain ⟨guid, -, rfl⟩ := List.mem_map.mp hentry
    rfl
  have hnone : ∀ kind, kind ≠ .notEmitedYet →
      countVotes kind (Roll.startOf target itemSlot loot eligible).playerVote.entries = 0 := by
    intro kind hne
    refine countVotes_eq_zero.mpr fun entry hentry heq => hne ?_
    exact heq.symm.trans (hvotes entry hentry)
  have hlength : (Roll.startOf target itemSlot loot eligible).playerVote.entries.length =
      eligible.guids.length := List.length_map _
  refine { need := ?_, greed := ?_, pass := ?_, rolling := ?_, size := ?_, eligible := ?_ }
  · exact (hnone .need nofun).symm
  · exact (hnone .greed nofun).symm
  · exact (hnone .pass nofun).symm
  · rw [hlength]
    refine UInt8.toNat_ofNat'.trans (Nat.mod_eq_of_lt ?_)
    exact Nat.lt_of_le_of_lt eligible.size (by decide)
  · rw [hlength]
    exact eligible.size
  · intro entry hentry
    rw [hvotes entry hentry]
    exact nofun

/-- A first vote moves one player from those who have not voted to those who voted that way. -/
theorem Tallied.register (h : Tallied r) (hfind : r.playerVote.find? guid = some .notEmitedYet)
    {vote : RollVote} (hvote : vote = .pass ∨ vote = .need ∨ vote = .greed) :
    Tallied (r.register guid vote) := by
  obtain ⟨before, after, hentries, -, hassign⟩ := Lib.UnorderedMap.split_of_find? hfind
  have hcount : ∀ kind, countVotes kind (r.playerVote.assign guid vote).entries =
      countVotes kind (before ++ after) + if vote = kind then 1 else 0 := by
    intro kind
    rw [hassign, countVotes_split]
  have hlength : (r.playerVote.assign guid vote).entries.length =
      r.playerVote.entries.length := by
    rw [hassign, hentries, List.length_append, List.length_append]
    rfl
  have heligible : ∀ entry ∈ (r.playerVote.assign guid vote).entries, entry.2 ≠ .notValid := by
    intro entry hentry
    rw [hassign] at hentry
    cases List.mem_append.mp hentry with
    | inl hbefore => exact h.eligible entry (hentries ▸ List.mem_append_left _ hbefore)
    | inr hrest =>
        cases List.mem_cons.mp hrest with
        | inl hsame =>
            subst hsame
            rintro rfl
            simp at hvote
        | inr hafter =>
            exact h.eligible entry
              (hentries ▸ List.mem_append_right _ (List.mem_cons_of_mem _ hafter))
  have hneed := h.need
  have hgreed := h.greed
  have hpass := h.pass
  have hsmall : ∀ kind, countVotes kind (before ++ after) ≤ 40 := by
    intro kind
    refine (countVotes_le kind _).trans (le_trans ?_ h.size)
    rw [hentries, List.length_append, List.length_append, List.length_cons]
    omega
  rw [hentries, countVotes_split] at hneed hgreed hpass
  simp only [reduceCtorEq, if_false, Nat.add_zero] at hneed hgreed hpass
  have hrolling := h.rolling.trans hlength.symm
  have hsize := hlength.trans_le h.size
  obtain rfl | rfl | rfl := hvote
  · refine { need := ?_, greed := ?_, pass := ?_, rolling := hrolling, size := hsize,
             eligible := heligible }
    · exact hneed.trans (hcount .need).symm
    · exact hgreed.trans (hcount .greed).symm
    · have hbound := hsmall .pass
      refine (Groups.toNat_add_one (by omega)).trans ?_
      rw [hpass]
      exact (hcount .pass).symm
  · refine { need := ?_, greed := ?_, pass := ?_, rolling := hrolling, size := hsize,
             eligible := heligible }
    · have hbound := hsmall .need
      refine (Groups.toNat_add_one (by omega)).trans ?_
      rw [hneed]
      exact (hcount .need).symm
    · exact hgreed.trans (hcount .greed).symm
    · exact hpass.trans (hcount .pass).symm
  · refine { need := ?_, greed := ?_, pass := ?_, rolling := hrolling, size := hsize,
             eligible := heligible }
    · exact hneed.trans (hcount .need).symm
    · have hbound := hsmall .greed
      refine (Groups.toNat_add_one (by omega)).trans ?_
      rw [hgreed]
      exact (hcount .greed).symm
    · exact hpass.trans (hcount .pass).symm

theorem toNat_countDown {total : UInt8} {vote : RollVote} {n : Nat}
    (h : total.toNat = n + if vote = kind then 1 else 0) :
    (if vote = kind then total - 1 else total).toNat = n := by
  split
  · rename_i hsame
    rw [if_pos hsame] at h
    rw [Groups.toNat_sub_one (by omega)]
    omega
  · rename_i hne
    rw [if_neg hne] at h
    exact h

theorem Tallied.drop (h : Tallied r) {vote : RollVote}
    (hfind : r.playerVote.find? guid = some vote) : Tallied (r.drop guid vote) := by
  obtain ⟨before, after, hentries, herase, -⟩ := Lib.UnorderedMap.split_of_find? hfind
  have hvalid : vote ≠ .notValid :=
    h.eligible (guid, vote) (Lib.UnorderedMap.find?_eq_some_iff.mp hfind)
  have hrolling := h.rolling
  have hsize := h.size
  rw [hentries, List.length_append, List.length_cons] at hrolling hsize
  have hcount : ∀ kind, countVotes kind r.playerVote.entries =
      countVotes kind (r.playerVote.erase guid).entries + if vote = kind then 1 else 0 := by
    intro kind
    rw [hentries, herase, countVotes_split]
  refine { need := ?_, greed := ?_, pass := ?_, rolling := ?_, size := ?_, eligible := ?_ }
  · exact toNat_countDown (h.need.trans (hcount .need))
  · exact toNat_countDown (h.greed.trans (hcount .greed))
  · exact toNat_countDown (h.pass.trans (hcount .pass))
  · simp only [Roll.drop, if_pos hvalid, herase]
    rw [Groups.toNat_sub_one (by omega), List.length_append]
    omega
  · simp only [Roll.drop, herase]
    rw [List.length_append]
    omega
  · intro entry hentry
    exact h.eligible entry (List.mem_of_mem_filter hentry)

end Votes

section Winners

variable (dice : Nat → Die) {r : Roll} {kind : RollVote}

/-- A number thrown is the number of one who voted that way. -/
theorem throwDie_spec (kind : RollVote) (all : List (UInt64 × RollVote))
    (rest : List (UInt64 × RollVote))
    (hrest : ∀ entry ∈ rest, entry ∈ all) (t : Throw)
    (h : 0 < t.maxresul → (t.maxguid, kind) ∈ all) :
    (0 < (rest.foldl (throwDie dice kind) t).maxresul →
        ((rest.foldl (throwDie dice kind) t).maxguid, kind) ∈ all) ∧
      (0 < t.maxresul ∨ (∃ entry ∈ rest, entry.2 = kind) →
        0 < (rest.foldl (throwDie dice kind) t).maxresul) := by
  induction rest generalizing t with
  | nil => exact ⟨h, fun hpos => hpos.elim id fun ⟨_, hmem, _⟩ => absurd hmem List.not_mem_nil⟩
  | cons entry rest ih =>
      have hstep : (0 < (throwDie dice kind t entry).maxresul →
            ((throwDie dice kind t entry).maxguid, kind) ∈ all) ∧
          (0 < t.maxresul ∨ entry.2 = kind → 0 < (throwDie dice kind t entry).maxresul) := by
        simp only [throwDie]
        split
        · rename_i hne
          exact ⟨h, fun hpos => hpos.resolve_right hne⟩
        · rename_i hkind
          have hkind : entry.2 = kind := Decidable.not_not.mp hkind
          have hdie : 0 < (dice t.rolled).val :=
            UInt8.lt_of_lt_of_le (by decide) (dice t.rolled).2.1
          split
          · exact ⟨fun _ => hkind ▸ hrest entry List.mem_cons_self, fun _ => hdie⟩
          · rename_i hle
            exact ⟨h, fun _ => UInt8.lt_of_lt_of_le hdie (UInt8.not_lt.mp hle)⟩
      obtain ⟨hfrom, hpos⟩ := ih (fun other hother => hrest other (List.mem_cons_of_mem _ hother))
        (throwDie dice kind t entry) hstep.1
      refine ⟨hfrom, fun h => hpos ?_⟩
      cases h with
      | inl hbefore => exact Or.inl (hstep.2 (Or.inl hbefore))
      | inr hsome =>
          obtain ⟨other, hother, hother2⟩ := hsome
          cases List.mem_cons.mp hother with
          | inl hsame => exact Or.inl (hstep.2 (Or.inr (hsame ▸ hother2)))
          | inr hmem => exact Or.inr ⟨other, hmem, hother2⟩

/-- If somebody voted that way, one of those wins. -/
theorem throwDice_winner (rolled : Nat) (h : ∃ entry ∈ r.playerVote.entries, entry.2 = kind) :
    ∃ guid number, (throwDice dice kind rolled r).1 = .won guid number kind ∧
      (guid, kind) ∈ r.playerVote.entries := by
  simp only [throwDice]
  cases hentries : r.playerVote.entries with
  | nil =>
      rw [hentries] at h
      obtain ⟨_, hmem, _⟩ := h
      exact absurd hmem List.not_mem_nil
  | cons first rest =>
      rw [hentries] at h
      obtain ⟨hfrom, hpos⟩ := throwDie_spec dice kind (first :: rest) (first :: rest)
        (fun _ hmem => hmem) ⟨first.1, 0, rolled⟩ (fun hlt => absurd hlt (UInt8.lt_irrefl 0))
      exact ⟨_, _, rfl, hfrom (hpos (Or.inr h))⟩

theorem exists_of_countVotes_pos {entries : List (UInt64 × RollVote)}
    (h : 0 < countVotes kind entries) : ∃ entry ∈ entries, entry.2 = kind := by
  simpa [countVotes] using List.countP_pos_iff.mp h

theorem fair_outcomeOf (h : Tallied r) (hvalid : r.valid = true) (rolled : Nat) :
    Fair r (outcomeOf dice rolled r).1 := by
  have hzero : ∀ total : UInt8, ¬ 0 < total → total.toNat = 0 := by
    intro total hle
    exact Nat.eq_zero_of_not_pos fun hpos => hle (UInt8.lt_iff_toNat_lt.mpr hpos)
  simp only [outcomeOf]
  split
  · rename_i hinvalid
    exact absurd (hvalid.symm.trans hinvalid) nofun
  · split
    · rename_i hneed
      have hpos : 0 < countVotes .need r.playerVote.entries := by
        rw [← h.need]
        exact UInt8.lt_iff_toNat_lt.mp hneed
      obtain ⟨guid, number, houtcome, hmem⟩ :=
        throwDice_winner dice rolled (exists_of_countVotes_pos hpos)
      rw [houtcome]
      exact ⟨hmem, Or.inl rfl⟩
    · rename_i hneed
      have hnone := h.need.symm.trans (hzero _ hneed)
      split
      · rename_i hgreed
        have hpos : 0 < countVotes .greed r.playerVote.entries := by
          rw [← h.greed]
          exact UInt8.lt_iff_toNat_lt.mp hgreed
        obtain ⟨guid, number, houtcome, hmem⟩ :=
          throwDice_winner dice rolled (exists_of_countVotes_pos hpos)
        rw [houtcome]
        exact ⟨hmem, Or.inr ⟨rfl, hnone⟩⟩
      · rename_i hgreed
        exact ⟨hnone, h.greed.symm.trans (hzero _ hgreed)⟩

end Winners

section Steps

variable {dice : Nat → Die} {s : Rolls} {left : Nat}

structure Pending (items : Nat → Nat) (r : Roll) : Prop where
  tallied : Tallied r
  waits : r.valid = true → ¬ AllVoted r
  filled : r.valid = true → items r.loot ≠ 0

structure Settled (d : Decision) : Prop where
  tallied : Tallied d.roll
  voted : d.expired = false → AllVoted d.roll
  fair : Fair d.roll d.outcome

/-- `left` rolls are taken out of the list, to be put back or decided. -/
structure Good (left : Nat) (s : Rolls) : Prop where
  pending : ∀ r ∈ s.rolls, Pending s.items r
  settled : ∀ d ∈ s.decided, Settled d
  accounted : s.rolls.length + s.decided.length + left = s.started

theorem Good.putBack (h : Good (left + 1) s) {r : Roll} (hr : Pending s.items r) :
    Good left { s with rolls := s.rolls ++ [r] } where
  pending := by
    intro other hother
    cases List.mem_append.mp hother with
    | inl hold => exact h.pending other hold
    | inr hnew => exact List.mem_singleton.mp hnew ▸ hr
  settled := h.settled
  accounted := by
    have haccounted := h.accounted
    simp only [List.length_append, List.length_singleton]
    omega

theorem Good.countTheRoll (h : Good (left + 1) s) {r : Roll} (hr : Tallied r)
    (hvalid : r.valid = true) {expired : Bool} (hvoted : expired = false → AllVoted r) :
    Good left (s.countTheRoll dice expired r) where
  pending := h.pending
  settled := by
    intro d hd
    cases List.mem_append.mp hd with
    | inl hold => exact h.settled d hold
    | inr hnew =>
        rw [List.mem_singleton.mp hnew]
        exact ⟨hr, hvoted, fair_outcomeOf dice hr hvalid s.rolled⟩
  accounted := by
    have haccounted := h.accounted
    simp only [Rolls.countTheRoll, List.length_append, List.length_singleton]
    omega

theorem Good.loop {f : Rolls → Roll → Rolls} {P : Roll → Prop}
    (hf : ∀ left s r, Good (left + 1) s → Pending s.items r → P r →
      Good left (f s r) ∧ (f s r).items = s.items)
    (h : Good 0 s) (hP : ∀ r ∈ s.rolls, P r) : Good 0 (s.rolls.foldl f { s with rolls := [] }) := by
  have hloop : ∀ (rest : List Roll) (s : Rolls), Good rest.length s →
    (∀ r ∈ rest, Pending s.items r ∧ P r) →
      Good 0 (rest.foldl f s) := by
    intro rest
    induction rest with
    | nil => intro s h _; exact h
    | cons r rest ih =>
        intro s h hall
        obtain ⟨hpending, hr⟩ := hall r List.mem_cons_self
        obtain ⟨hgood, hitems⟩ := hf rest.length s r h hpending hr
        refine ih _ hgood fun other hother => ?_
        rw [hitems]
        exact hall other (List.mem_cons_of_mem _ hother)
  refine hloop s.rolls _ ?_ fun r hr => ⟨h.pending r hr, hP r hr⟩
  have haccounted := h.accounted
  exact { pending := fun r hr => absurd hr List.not_mem_nil, settled := h.settled,
          accounted := by simp only [List.length_nil]; omega }

theorem good_startLootRoll (h : Good 0 s) (target : UInt64) (loot : Nat) (itemSlot : UInt8)
    (eligible : Eligible) : Good 0 (s.startLootRoll target loot itemSlot eligible) := by
  simp only [Rolls.startLootRoll]
  split
  · exact h
  · rename_i hitems
    split
    · exact h
    · rename_i hsome
      have hnew : Pending s.items (.startOf target itemSlot loot eligible) := by
        refine ⟨tallied_startOf target itemSlot loot eligible, fun _ hall => ?_, fun _ hnone => ?_⟩
        · obtain ⟨guid, rest, hguids⟩ := List.exists_cons_of_ne_nil hsome
          refine hall (guid, .notEmitedYet) (List.mem_map.mpr ⟨guid, ?_, rfl⟩) rfl
          rw [hguids]
          exact List.mem_cons_self
        · exact hitems (hnone ▸ Nat.zero_le _)
      have hcounted : Good 1 { s with started := s.started + 1 } :=
        { pending := h.pending, settled := h.settled,
          accounted := congrArg (· + 1) h.accounted }
      exact hcounted.putBack hnew

theorem good_addItem (h : Good 0 s) (loot : Nat) : Good 0 (s.addItem loot) := by
  refine { pending := fun r hr => ?_, settled := h.settled, accounted := h.accounted }
  obtain ⟨htallied, hwaits, hfilled⟩ := h.pending r hr
  refine ⟨htallied, hwaits, fun hvalid => ?_⟩
  simp only [Rolls.addItem]
  split
  · exact Nat.succ_ne_zero _
  · exact hfilled hvalid

theorem good_clearLoot (h : Good 0 s) (loot : Nat) : Good 0 (s.clearLoot loot) := by
  refine { pending := fun r hr => ?_, settled := h.settled, accounted := ?_ }
  · obtain ⟨old, hold, rfl⟩ := List.mem_map.mp hr
    obtain ⟨htallied, hwaits, hfilled⟩ := h.pending old hold
    split
    · exact ⟨⟨htallied.1, htallied.2, htallied.3, htallied.4, htallied.5, htallied.6⟩, nofun, nofun⟩
    · rename_i hne
      refine ⟨htallied, hwaits, fun hvalid => ?_⟩
      simp only [Rolls.clearLoot, if_neg hne]
      exact hfilled hvalid
  · simp only [Rolls.clearLoot, List.length_map]
    exact h.accounted

theorem good_endRoll (h : Good 0 s) (loot : Nat) : Good 0 (s.endRoll dice loot) := by
  refine h.loop (P := fun _ => True) ?_ (fun _ _ => trivial)
  intro left s r hgood hpending _
  simp only [Rolls.endOne]
  split
  · rename_i hloot
    have hvalid : r.valid = true := by
      simp only [Roll.getLoot] at hloot
      split at hloot
      · assumption
      · exact nomatch hloot
    exact ⟨hgood.countTheRoll hpending.tallied hvalid nofun, rfl⟩
  · exact ⟨hgood.putBack hpending, rfl⟩

/-- Nothing is decided when a vote leaves: its voter is not found any more. -/
theorem countVote_drop (items : Nat → Nat) (r : Roll) (guid : UInt64) (vote : RollVote) :
    countVote items guid .notEmitedYet (r.drop guid vote) = .pending (r.drop guid vote) := by
  have hnone : (r.drop guid vote).playerVote.find? guid = none :=
    r.playerVote.find?_erase_self guid
  simp only [countVote, hnone]

def OthersWait (guid : UInt64) (r : Roll) : Prop :=
  r.valid = true → guid ∈ r.playerVote.keys →
    ∃ entry ∈ r.playerVote.entries, entry.1 ≠ guid ∧ entry.2 = .notEmitedYet

theorem good_removeRolls (h : Good 0 s) (guid : UInt64)
    (hothers : ∀ r ∈ s.rolls, OthersWait guid r) : Good 0 (s.removeRolls dice guid) := by
  refine h.loop (P := OthersWait guid) ?_ hothers
  intro left s r hgood hpending hother
  simp only [Rolls.removeRoll]
  split
  · exact ⟨hgood.putBack hpending, rfl⟩
  · rename_i vote hfind
    rw [countVote_drop]
    refine ⟨hgood.putBack ⟨hpending.tallied.drop hfind, fun hvalid hall => ?_, hpending.filled⟩,
      rfl⟩
    have hkey : guid ∈ r.playerVote.keys :=
      List.mem_map_of_mem (Lib.UnorderedMap.find?_eq_some_iff.mp hfind)
    obtain ⟨entry, hentry, hne, hwaits⟩ := hother hvalid hkey
    exact hall entry (List.mem_filter.mpr ⟨hentry, decide_eq_true hne⟩) hwaits

theorem rollVoteOf_client {rollType : UInt8} (h : ¬ maxRollFromClient ≤ rollType) :
    rollVoteOf rollType = .pass ∨ rollVoteOf rollType = .need ∨ rollVoteOf rollType = .greed := by
  have hlt : rollType.toNat < 3 := UInt8.lt_iff_toNat_lt.mp (UInt8.not_le.mp h)
  have hcases : rollType = 0 ∨ rollType = 1 ∨ rollType = 2 := by
    rw [← UInt8.toNat_inj, ← UInt8.toNat_inj, ← UInt8.toNat_inj]
    change rollType.toNat = 0 ∨ rollType.toNat = 1 ∨ rollType.toNat = 2
    omega
  obtain rfl | rfl | rfl := hcases
  · exact Or.inl rfl
  · exact Or.inr (Or.inl rfl)
  · exact Or.inr (Or.inr rfl)

def FirstVote (s : Rolls) (guid target : UInt64) (itemSlot : UInt32) : Prop :=
  ∀ i r, s.rolls.findIdx? (Rolls.isRollOf target itemSlot) = some i → s.rolls[i]? = some r →
    ∀ vote, r.playerVote.find? guid = some vote → vote = .notEmitedYet

theorem good_handleLootRoll (h : Good 0 s) {guid target : UInt64} {itemSlot : UInt32}
    (rollType : UInt8) (hfirst : FirstVote s guid target itemSlot) :
    Good 0 (s.handleLootRoll dice guid target itemSlot rollType) := by
  simp only [Rolls.handleLootRoll]
  split
  · exact h
  · rename_i hclient
    simp only [Rolls.countRollVote]
    split
    · exact h
    · rename_i i hi
      split
      · exact h
      · rename_i r hr
        obtain ⟨hlt, hget⟩ := List.getElem?_eq_some_iff.mp hr
        have hpending := h.pending r (hget ▸ List.getElem_mem hlt)
        have hvalid : r.valid = true := by
          obtain ⟨_, hroll, -⟩ := List.findIdx?_eq_some_iff_getElem.mp hi
          rw [hget] at hroll
          exact (of_decide_eq_true hroll).1
        have hset : ∀ r', Pending s.items r' → Good 0 { s with rolls := s.rolls.set i r' } := by
          intro r' hr'
          refine { pending := fun other hother => ?_, settled := h.settled, accounted := ?_ }
          · cases List.mem_or_eq_of_mem_set hother with
            | inl hold => exact h.pending other hold
            | inr hnew => exact hnew ▸ hr'
          · simp only [List.length_set]
            exact h.accounted
        have herased : Good 1 { s with rolls := s.rolls.eraseIdx i } := by
          refine { pending := fun other hother => ?_, settled := h.settled, accounted := ?_ }
          · exact h.pending other (List.mem_of_mem_eraseIdx hother)
          · have haccounted := h.accounted
            simp only [List.length_eraseIdx, if_pos hlt]
            omega
        cases hfind : r.playerVote.find? guid with
        | none =>
            simp only [countVote, hfind]
            exact hset r hpending
        | some vote =>
            have hnew := hfirst i r hi hr vote hfind
            subst hnew
            have htallied := hpending.tallied.register hfind (rollVoteOf_client hclient)
            have hframe : (r.register guid (rollVoteOf rollType)).valid = true ∧
                (r.register guid (rollVoteOf rollType)).loot = r.loot := by
              cases rollVoteOf rollType with
              | pass | need | greed | notEmitedYet | notValid => exact ⟨hvalid, rfl⟩
            have hnone : ¬ (r.valid = true ∧ s.items r.loot = 0) :=
              fun hempty => hpending.filled hvalid hempty.2
            simp only [countVote, hfind, if_neg hnone]
            by_cases hcomplete : (r.register guid (rollVoteOf rollType)).isComplete = true
            · simp only [if_pos hcomplete]
              exact herased.countTheRoll htallied hframe.1
                fun _ => (isComplete_iff htallied).mp hcomplete
            · simp only [if_neg hcomplete]
              refine hset _ ⟨htallied, fun _ hall => ?_, fun _ => hframe.2 ▸ hpending.filled hvalid⟩
              exact hcomplete ((isComplete_iff htallied).mpr hall)

end Steps

section Runs

variable (dice : Nat → Die)

def InTurn (s : Rolls) : RollEvent → Prop
  | .lootRoll guid target itemSlot rollType =>
      rollType < maxRollFromClient → FirstVote s guid target itemSlot
  | .removeMember guid => ∀ r ∈ s.rolls, OthersWait guid r
  | _ => True

theorem good_step {s : Rolls} (h : Good 0 s) (e : RollEvent) (hturn : InTurn s e) :
    Good 0 (s.step dice e) := by
  cases e with
  | addItem loot => exact good_addItem h loot
  | clearLoot loot => exact good_clearLoot h loot
  | startLootRoll target loot itemSlot eligible =>
      exact good_startLootRoll h target loot itemSlot eligible
  | lootRoll guid target itemSlot rollType =>
      by_cases hclient : maxRollFromClient ≤ rollType
      · simpa only [Rolls.step, Rolls.handleLootRoll, if_pos hclient] using h
      · exact good_handleLootRoll h rollType (hturn (UInt8.not_le.mp hclient))
  | removeMember guid => exact good_removeRolls h guid hturn
  | timer loot => exact good_endRoll h loot

theorem endRoll_rolls (s : Rolls) (loot : Nat) :
    (s.endRoll dice loot).rolls = s.rolls.filter fun r => r.getLoot ≠ some loot := by
  have hloop : ∀ (rest : List Roll) (s : Rolls), (rest.foldl (Rolls.endOne dice loot) s).rolls =
      s.rolls ++ rest.filter fun r => r.getLoot ≠ some loot := by
    intro rest
    induction rest with
    | nil => intro s; exact (List.append_nil _).symm
    | cons r rest ih =>
        intro s
        rw [List.foldl_cons, ih]
        simp only [Rolls.endOne]
        split
        · rename_i hloot
          rw [List.filter_cons_of_neg (by simpa using hloot)]
          rfl
        · rename_i hother
          rw [List.filter_cons_of_pos (by simpa using hother), List.append_assoc]
          rfl
  exact hloop s.rolls _

/-- Rolls are tallied, and decided when everybody has voted or the timer has run out. -/
theorem rolls_tallied (events : List RollEvent)
    (h : Lib.Along (Rolls.step dice) InTurn {} events) :
    let s := Lib.run (Rolls.step dice) {} events
    (∀ r ∈ s.rolls, Tallied r ∧ (r.valid = true → ¬ AllVoted r)) ∧
      (∀ d ∈ s.decided, Tallied d.roll ∧ (d.expired = true ∨ AllVoted d.roll) ∧
        Fair d.roll d.outcome) ∧
      s.rolls.length + s.decided.length = s.started ∧
      ∀ loot, ∀ r ∈ (s.step dice (.timer loot)).rolls, r.getLoot ≠ some loot := by
  intro s
  have hgood : Good 0 s := by
    refine Lib.run_invariant (I := Good 0) (fun s e hs he => good_step dice hs e he) ?_ h
    exact ⟨fun _ hr => absurd hr List.not_mem_nil, fun _ hd => absurd hd List.not_mem_nil, rfl⟩
  refine ⟨fun r hr => ?_, fun d hd => ?_, hgood.accounted, fun loot r hr => ?_⟩
  · exact ⟨(hgood.pending r hr).tallied, (hgood.pending r hr).waits⟩
  · obtain ⟨htallied, hvoted, hfair⟩ := hgood.settled d hd
    refine ⟨htallied, ?_, hfair⟩
    cases hexpired : d.expired with
    | true => exact Or.inl rfl
    | false => exact Or.inr (hvoted hexpired)
  · rw [Rolls.step, endRoll_rolls] at hr
    exact of_decide_eq_true (List.mem_filter.mp hr).2

def twoRoll : Eligible := ⟨[2, 1], by decide, by decide⟩

def fifty : Nat → Die := fun _ => ⟨50, by decide⟩

/-- Player 2 needs, player 1 is greedy. -/
def votedEvents : List RollEvent :=
  [.addItem 0, .startLootRoll 9 0 0 twoRoll, .lootRoll 2 9 0 1, .lootRoll 1 9 0 2]

theorem rolls_tallied_voted :
    (Lib.run (Rolls.step fifty) {} votedEvents).decided.map (·.outcome) = [.won 2 50 .need] ∧
      ∀ d ∈ (Lib.run (Rolls.step fifty) {} votedEvents).decided, Fair d.roll d.outcome := by
  have hturn : Lib.Along (Rolls.step fifty) InTurn {} votedEvents := by
    have hfirst : ∀ (s : Rolls) (guid : UInt64),
        ((s.rolls.findIdx? (Rolls.isRollOf 9 0)).bind (s.rolls[·]?)).all
          (fun r => (r.playerVote.find? guid).all (· = .notEmitedYet)) = true →
        FirstVote s guid 9 0 := by
      intro s guid hall i r hi hr vote hvote
      simpa [hi, hr, hvote] using hall
    refine ⟨trivial, trivial, fun _ => hfirst _ _ ?_, fun _ => hfirst _ _ ?_, trivial⟩
    · decide +kernel
    · decide +kernel
  refine ⟨by decide +kernel, fun d hd => ?_⟩
  exact ((rolls_tallied fifty votedEvents hturn).2.1 d hd).2.2

/-- Player 1 needs and then passes; in another roll both pass, but player 1 by leaving. -/
def changedEvents : List RollEvent :=
  [.addItem 0, .startLootRoll 9 0 0 twoRoll, .lootRoll 1 9 0 1, .lootRoll 1 9 0 0]

def leftEvents : List RollEvent :=
  [.addItem 0, .startLootRoll 9 0 0 twoRoll, .lootRoll 2 9 0 0, .removeMember 1]

/-- The changed vote counts twice, so the roll is decided before player 2 votes, and he wins
it with a need he never had. The roll that player 1 leaves stays open though player 2, the
only one left in it, has voted. -/
theorem changed_vote_counted_twice :
    (∃ d ∈ (Lib.run (Rolls.step fifty) {} changedEvents).decided, d.expired = false ∧
      d.roll.playerVote.find? 2 = some .notEmitedYet ∧ d.outcome = .won 2 0 .need ∧
        d.roll.totalNeed = 1 ∧ countVotes .need d.roll.playerVote.entries = 0) ∧
    ∃ r ∈ (Lib.run (Rolls.step fifty) {} leftEvents).rolls, r.valid = true ∧ AllVoted r := by
  constructor
  · refine ⟨(Lib.run (Rolls.step fifty) {} changedEvents).decided[0], List.getElem_mem _, ?_⟩
    decide +kernel
  · refine ⟨(Lib.run (Rolls.step fifty) {} leftEvents).rolls[0], List.getElem_mem _, ?_⟩
    simp only [AllVoted]
    decide +kernel

end Runs

end TortoiseWow.LootRolls
