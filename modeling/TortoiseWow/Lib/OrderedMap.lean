import Mathlib

/-!
Ordered maps and multimaps as lists of entries in the order of their keys, with
assignment, erasure, ranges and the entries beyond a key. The order is part of
the type, so every map is one that insertions and erasures can build.
-/

namespace Lib

universe u v

variable {κ : Type u} {α : Type v} [LinearOrder κ]

structure OrderedMap (κ : Type u) (α : Type v) [LinearOrder κ] where
  entries : List (κ × α)
  sorted : entries.Pairwise (·.1 < ·.1)

namespace OrderedMap

def assignEntries (key : κ) (value : α) : List (κ × α) → List (κ × α)
  | [] => [(key, value)]
  | entry :: rest =>
      if key < entry.1 then (key, value) :: entry :: rest
      else if key = entry.1 then (key, value) :: rest
      else entry :: assignEntries key value rest

theorem mem_assignEntries_of_mem {key : κ} {value : α} {entries : List (κ × α)} {entry : κ × α}
    (h : entry ∈ assignEntries key value entries) : entry = (key, value) ∨ entry ∈ entries := by
  induction entries with
  | nil => exact Or.inl (List.mem_singleton.mp h)
  | cons first rest ih =>
      simp only [assignEntries] at h
      split at h
      · rcases List.mem_cons.mp h with h | h
        · exact Or.inl h
        · exact Or.inr h
      · split at h
        · rcases List.mem_cons.mp h with h | h
          · exact Or.inl h
          · exact Or.inr (List.mem_cons_of_mem _ h)
        · rcases List.mem_cons.mp h with h | h
          · exact Or.inr (by simp [h])
          · exact (ih h).imp_right (List.mem_cons_of_mem _)

theorem assignEntries_sorted {entries : List (κ × α)} (key : κ) (value : α)
    (h : entries.Pairwise (·.1 < ·.1)) :
    (assignEntries key value entries).Pairwise (·.1 < ·.1) := by
  induction entries with
  | nil => exact List.pairwise_singleton _ _
  | cons first rest ih =>
      have hfirst : ∀ entry ∈ rest, first.1 < entry.1 :=
        fun entry hentry => List.rel_of_pairwise_cons h hentry
      simp only [assignEntries]
      split
      · rename_i hlt
        refine List.pairwise_cons.mpr ⟨?_, h⟩
        intro entry hentry
        rcases List.mem_cons.mp hentry with rfl | hentry
        · exact hlt
        · exact lt_trans hlt (hfirst entry hentry)
      · split
        · rename_i heq
          refine List.pairwise_cons.mpr ⟨?_, h.of_cons⟩
          intro entry hentry
          exact heq ▸ hfirst entry hentry
        · rename_i hle hne
          refine List.pairwise_cons.mpr ⟨?_, ih h.of_cons⟩
          intro entry hentry
          rcases mem_assignEntries_of_mem hentry with rfl | hentry
          · exact lt_of_le_of_ne (not_lt.mp hle) (Ne.symm hne)
          · exact hfirst entry hentry

theorem assignEntries_perm {entries : List (κ × α)} {key : κ} (value : α)
    (h : ∀ entry ∈ entries, entry.1 ≠ key) :
    (assignEntries key value entries).Perm ((key, value) :: entries) := by
  induction entries with
  | nil => exact List.Perm.refl _
  | cons first rest ih =>
      simp only [assignEntries]
      split
      · exact List.Perm.refl _
      · rw [if_neg (h first (by simp)).symm]
        have hrest := ih (fun entry hentry => h entry (List.mem_cons_of_mem _ hentry))
        exact (hrest.cons first).trans (List.Perm.swap _ _ _)

def empty : OrderedMap κ α := ⟨[], List.Pairwise.nil⟩

def assign (map : OrderedMap κ α) (key : κ) (value : α) : OrderedMap κ α :=
  ⟨assignEntries key value map.entries, assignEntries_sorted key value map.sorted⟩

def erase (map : OrderedMap κ α) (key : κ) : OrderedMap κ α :=
  ⟨map.entries.filter (·.1 ≠ key), map.sorted.filter _⟩

def find? (map : OrderedMap κ α) (key : κ) : Option α :=
  (map.entries.find? (·.1 = key)).map (·.2)

def after (map : OrderedMap κ α) (key : κ) : List (κ × α) :=
  map.entries.dropWhile (·.1 ≤ key)

@[simp] theorem find?_empty (key : κ) : (empty : OrderedMap κ α).find? key = none := rfl

theorem find?_eq_some {map : OrderedMap κ α} {key : κ} {value : α}
    (h : map.find? key = some value) : (key, value) ∈ map.entries := by
  simp only [find?, Option.map_eq_some_iff] at h
  obtain ⟨entry, hentry, rfl⟩ := h
  have hkey : entry.1 = key := by simpa using List.find?_some hentry
  rw [← hkey]
  exact List.mem_of_find?_eq_some hentry

theorem find?_eq_none {map : OrderedMap κ α} {key : κ} :
    map.find? key = none ↔ ∀ entry ∈ map.entries, entry.1 ≠ key := by
  simp [find?]

theorem keys_nodup (map : OrderedMap κ α) : (map.entries.map (·.1)).Nodup :=
  List.pairwise_map.mpr (map.sorted.imp fun hlt => hlt.ne)

theorem find?_of_mem {map : OrderedMap κ α} {entry : κ × α} (h : entry ∈ map.entries) :
    map.find? entry.1 = some entry.2 := by
  cases hfind : map.find? entry.1 with
  | none => exact absurd rfl (find?_eq_none.mp hfind entry h)
  | some value =>
      have hsame : (entry.1, value) = entry :=
        List.inj_on_of_nodup_map map.keys_nodup (find?_eq_some hfind) h rfl
      rw [← hsame]

theorem find?_eq_some_iff {map : OrderedMap κ α} {key : κ} {value : α} :
    map.find? key = some value ↔ (key, value) ∈ map.entries :=
  ⟨find?_eq_some, fun h => find?_of_mem h⟩

theorem mem_assignEntries {entries : List (κ × α)} {key : κ} {value : α}
    (h : entries.Pairwise (·.1 < ·.1)) {entry : κ × α} :
    entry ∈ assignEntries key value entries ↔
      entry = (key, value) ∨ entry ∈ entries ∧ entry.1 ≠ key := by
  induction entries with
  | nil => simp [assignEntries]
  | cons first rest ih =>
      have hfirst : ∀ entry ∈ rest, first.1 < entry.1 :=
        fun entry hentry => List.rel_of_pairwise_cons h hentry
      simp only [assignEntries]
      split
      · rename_i hlt
        have hne : ∀ entry ∈ first :: rest, entry.1 ≠ key := by
          intro entry hentry
          rcases List.mem_cons.mp hentry with rfl | hentry
          · exact hlt.ne'
          · exact (hlt.trans (hfirst entry hentry)).ne'
        rw [List.mem_cons]
        exact or_congr_right ⟨fun hmem => ⟨hmem, hne entry hmem⟩, fun hmem => hmem.1⟩
      · split
        · rename_i heq
          rw [List.mem_cons, List.mem_cons]
          refine or_congr_right ⟨fun hmem => ⟨Or.inr hmem, ?_⟩, ?_⟩
          · exact heq ▸ (hfirst entry hmem).ne'
          · rintro ⟨rfl | hmem, hne⟩
            · exact absurd heq.symm hne
            · exact hmem
        · rename_i hne
          rw [List.mem_cons, List.mem_cons, ih h.of_cons]
          constructor
          · rintro (rfl | rfl | ⟨hmem, hkey⟩)
            · exact Or.inr ⟨Or.inl rfl, Ne.symm hne⟩
            · exact Or.inl rfl
            · exact Or.inr ⟨Or.inr hmem, hkey⟩
          · rintro (rfl | ⟨rfl | hmem, hkey⟩)
            · exact Or.inr (Or.inl rfl)
            · exact Or.inl rfl
            · exact Or.inr (Or.inr ⟨hmem, hkey⟩)

theorem find?_assign_self (map : OrderedMap κ α) (key : κ) (value : α) :
    (map.assign key value).find? key = some value :=
  find?_eq_some_iff.mpr ((mem_assignEntries map.sorted).mpr (Or.inl rfl))

theorem find?_assign_of_ne (map : OrderedMap κ α) {key other : κ} (h : other ≠ key) (value : α) :
    (map.assign key value).find? other = map.find? other := by
  refine Option.ext fun found => ?_
  rw [find?_eq_some_iff, find?_eq_some_iff]
  refine (mem_assignEntries map.sorted).trans ⟨?_, fun hmem => Or.inr ⟨hmem, h⟩⟩
  rintro (heq | ⟨hmem, -⟩)
  · exact absurd (congrArg Prod.fst heq) h
  · exact hmem

theorem mem_erase {map : OrderedMap κ α} {key : κ} {entry : κ × α} :
    entry ∈ (map.erase key).entries ↔ entry ∈ map.entries ∧ entry.1 ≠ key := by
  simp [erase]

theorem find?_erase_self (map : OrderedMap κ α) (key : κ) : (map.erase key).find? key = none :=
  find?_eq_none.mpr fun _ hentry => (mem_erase.mp hentry).2

theorem find?_erase_of_ne (map : OrderedMap κ α) {key other : κ} (h : other ≠ key) :
    (map.erase key).find? other = map.find? other := by
  refine Option.ext fun found => ?_
  rw [find?_eq_some_iff, find?_eq_some_iff, mem_erase]
  exact and_iff_left h

theorem perm_erase {map : OrderedMap κ α} {entry : κ × α} (h : entry ∈ map.entries) :
    map.entries.Perm (entry :: (map.erase entry.1).entries) := by
  have hnodup : map.entries.Nodup := List.Nodup.of_map _ map.keys_nodup
  refine (List.perm_ext_iff_of_nodup hnodup ?_).mpr ?_
  · refine List.nodup_cons.mpr ⟨fun hmem => ?_, hnodup.filter _⟩
    exact (mem_erase.mp hmem).2 rfl
  · intro other
    rw [List.mem_cons, mem_erase]
    constructor
    · intro hother
      by_cases hkey : other.1 = entry.1
      · exact Or.inl (List.inj_on_of_nodup_map map.keys_nodup hother h hkey)
      · exact Or.inr ⟨hother, hkey⟩
    · rintro (rfl | hother)
      · exact h
      · exact hother.1

theorem perm_assign (map : OrderedMap κ α) (key : κ) (value : α) :
    (map.assign key value).entries.Perm ((key, value) :: (map.erase key).entries) := by
  refine (List.perm_ext_iff_of_nodup (List.Nodup.of_map _ (map.assign key value).keys_nodup)
    ?_).mpr ?_
  · refine List.nodup_cons.mpr ⟨fun hmem => (mem_erase.mp hmem).2 rfl, ?_⟩
    exact List.Nodup.of_map _ (map.erase key).keys_nodup
  · intro entry
    rw [List.mem_cons, mem_erase]
    exact mem_assignEntries map.sorted

theorem erase_of_none {map : OrderedMap κ α} {key : κ} (h : map.find? key = none) :
    (map.erase key).entries = map.entries := by
  refine List.filter_eq_self.mpr fun entry hentry => ?_
  exact decide_eq_true (find?_eq_none.mp h entry hentry)

theorem after_eq_filter (map : OrderedMap κ α) (key : κ) :
    map.after key = map.entries.filter (key < ·.1) := by
  obtain ⟨entries, hsorted⟩ := map
  simp only [after]
  induction entries with
  | nil => rfl
  | cons first rest ih =>
      by_cases hle : first.1 ≤ key
      · rw [List.dropWhile_cons_of_pos (by simpa using hle),
          List.filter_cons_of_neg (by simpa using hle)]
        exact ih hsorted.of_cons
      · have hall : ∀ entry ∈ first :: rest, key < entry.1 := by
          intro entry hentry
          rcases List.mem_cons.mp hentry with rfl | hentry
          · exact not_le.mp hle
          · exact lt_trans (not_le.mp hle) (List.rel_of_pairwise_cons hsorted hentry)
        rw [List.dropWhile_cons_of_neg (by simpa using hle),
          List.filter_eq_self.mpr (by simpa using hall)]

theorem ext_find? {map other : OrderedMap κ α} (h : ∀ key, map.find? key = other.find? key) :
    map = other := by
  have hmem : ∀ entry, entry ∈ map.entries ↔ entry ∈ other.entries := by
    intro entry
    rw [← find?_eq_some_iff, ← find?_eq_some_iff, h]
  have hperm : map.entries.Perm other.entries :=
    (List.perm_ext_iff_of_nodup (List.Nodup.of_map _ map.keys_nodup)
      (List.Nodup.of_map _ other.keys_nodup)).mpr hmem
  have hentries : map.entries = other.entries := by
    refine hperm.eq_of_pairwise ?_ map.sorted other.sorted
    intro _ _ _ _ hlt hgt
    exact absurd hgt (not_lt.mpr hlt.le)
  cases map
  cases other
  exact (mk.injEq ..).mpr hentries

section FilterMap

universe w

variable {β : Type w} (f : α → Option β)

/-- The values that `f` keeps, under their keys. -/
def filterMap (map : OrderedMap κ α) : OrderedMap κ β where
  entries := map.entries.filterMap fun entry => (f entry.2).map (entry.1, ·)
  sorted := by
    refine List.Pairwise.filterMap _ ?_ map.sorted
    intro entry other hlt kept hkept kept' hkept'
    obtain ⟨_, _, rfl⟩ := Option.map_eq_some_iff.mp hkept
    obtain ⟨_, _, rfl⟩ := Option.map_eq_some_iff.mp hkept'
    exact hlt

theorem find?_filterMap (map : OrderedMap κ α) (key : κ) :
    (map.filterMap f).find? key = (map.find? key).bind f := by
  refine Option.ext fun value => ?_
  rw [find?_eq_some_iff, Option.bind_eq_some_iff]
  simp only [filterMap, List.mem_filterMap, Option.map_eq_some_iff, Prod.mk.injEq]
  constructor
  · rintro ⟨entry, hentry, kept, hkept, rfl, rfl⟩
    exact ⟨entry.2, find?_of_mem hentry, hkept⟩
  · rintro ⟨found, hfound, hkept⟩
    exact ⟨(key, found), find?_eq_some hfound, value, hkept, rfl, rfl⟩

end FilterMap

end OrderedMap

/-- Keys in ascending order, equal keys in the order of insertion. -/
structure MultiMap (κ : Type u) (α : Type v) [LinearOrder κ] where
  entries : List (κ × α)
  sorted : entries.Pairwise (·.1 ≤ ·.1)

namespace MultiMap

def emplaceEntries (key : κ) (value : α) : List (κ × α) → List (κ × α)
  | [] => [(key, value)]
  | entry :: rest =>
      if key < entry.1 then (key, value) :: entry :: rest
      else entry :: emplaceEntries key value rest

theorem emplaceEntries_perm (key : κ) (value : α) (entries : List (κ × α)) :
    (emplaceEntries key value entries).Perm ((key, value) :: entries) := by
  induction entries with
  | nil => exact List.Perm.refl _
  | cons first rest ih =>
      simp only [emplaceEntries]
      split
      · exact List.Perm.refl _
      · exact (ih.cons first).trans (List.Perm.swap _ _ _)

theorem emplaceEntries_sorted {entries : List (κ × α)} (key : κ) (value : α)
    (h : entries.Pairwise (·.1 ≤ ·.1)) :
    (emplaceEntries key value entries).Pairwise (·.1 ≤ ·.1) := by
  induction entries with
  | nil => exact List.pairwise_singleton _ _
  | cons first rest ih =>
      simp only [emplaceEntries]
      split
      · rename_i hlt
        refine List.pairwise_cons.mpr ⟨?_, h⟩
        intro entry hentry
        rcases List.mem_cons.mp hentry with rfl | hentry
        · exact hlt.le
        · exact hlt.le.trans (List.rel_of_pairwise_cons h hentry)
      · rename_i hle
        refine List.pairwise_cons.mpr ⟨?_, ih h.of_cons⟩
        intro entry hentry
        rcases List.mem_cons.mp ((emplaceEntries_perm key value rest).mem_iff.mp hentry)
          with rfl | hentry
        · exact not_lt.mp hle
        · exact List.rel_of_pairwise_cons h hentry

def empty : MultiMap κ α := ⟨[], List.Pairwise.nil⟩

def emplace (map : MultiMap κ α) (key : κ) (value : α) : MultiMap κ α :=
  ⟨emplaceEntries key value map.entries, emplaceEntries_sorted key value map.sorted⟩

def equalRange (map : MultiMap κ α) (key : κ) : List (κ × α) :=
  map.entries.filter (·.1 = key)

def eraseFirst (map : MultiMap κ α) (key : κ) (p : α → Bool) : MultiMap κ α :=
  ⟨map.entries.eraseP fun entry => decide (entry.1 = key) && p entry.2,
    map.sorted.sublist List.eraseP_sublist⟩

def count (map : MultiMap κ α) (key : κ) : Nat := map.entries.countP (·.1 = key)

theorem eraseFirst_perm {map : MultiMap κ α} {key : κ} {value : α} {rest : List (κ × α)}
    {p : α → Bool} (h : map.entries.Perm ((key, value) :: rest)) (hp : p value = true)
    (honly : ∀ entry ∈ rest, entry.1 = key → p entry.2 = false) :
    (map.eraseFirst key p).entries.Perm rest := by
  have hone : ((key, value) :: rest).Pairwise fun a b =>
      (decide (a.1 = key) && p a.2) = true → (decide (b.1 = key) && p b.2) = true → False := by
    have hrest : ∀ entry ∈ rest, ¬ (decide (entry.1 = key) && p entry.2) = true := by
      intro entry hentry hboth
      simp only [Bool.and_eq_true, decide_eq_true_eq] at hboth
      rw [honly entry hentry hboth.1] at hboth
      exact Bool.false_ne_true hboth.2
    refine List.pairwise_cons.mpr ⟨fun entry hentry _ hboth => hrest entry hentry hboth, ?_⟩
    refine List.Pairwise.imp_of_mem (R := fun _ _ => True) ?_
      (List.pairwise_of_forall fun _ _ => trivial)
    intro a b ha _ _ hboth
    exact absurd hboth (hrest a ha)
  have hperm := List.Perm.eraseP (fun entry => decide (entry.1 = key) && p entry.2) ?_ h
  · rwa [List.eraseP_cons_of_pos (by simp [hp])] at hperm
  · exact (h.pairwise_iff fun hab hb ha => hab ha hb).mpr hone

end MultiMap

end Lib
