import Mathlib

/-!
Unordered maps as lists of entries with distinct keys. The order of the list is the order of
an iteration: assigning to a present key and erasing keep it, a new key goes to the end.
-/

namespace Lib

universe u v

variable {κ : Type u} {α : Type v} [DecidableEq κ]

structure UnorderedMap (κ : Type u) (α : Type v) where
  entries : List (κ × α)
  nodup : (entries.map (·.1)).Nodup

namespace UnorderedMap

def assignEntries (key : κ) (value : α) : List (κ × α) → List (κ × α)
  | [] => [(key, value)]
  | entry :: rest =>
      if entry.1 = key then (key, value) :: rest else entry :: assignEntries key value rest

theorem keys_assignEntries (key : κ) (value : α) (entries : List (κ × α)) :
    (key ∈ entries.map (·.1) ∧
      (assignEntries key value entries).map (·.1) = entries.map (·.1)) ∨
    (key ∉ entries.map (·.1) ∧
      (assignEntries key value entries).map (·.1) = entries.map (·.1) ++ [key]) := by
  induction entries with
  | nil => exact Or.inr ⟨List.not_mem_nil, rfl⟩
  | cons entry rest ih =>
      simp only [assignEntries, List.map_cons, List.mem_cons]
      by_cases hsame : entry.1 = key
      · rw [if_pos hsame]
        exact Or.inl ⟨Or.inl hsame.symm, by rw [List.map_cons, hsame]⟩
      · rw [if_neg hsame, List.map_cons]
        refine ih.imp ?_ ?_
        · rintro ⟨hmem, hkeys⟩
          exact ⟨Or.inr hmem, by rw [hkeys]⟩
        · rintro ⟨hmem, hkeys⟩
          refine ⟨fun h => h.elim (fun heq => hsame heq.symm) hmem, ?_⟩
          rw [hkeys, List.cons_append]

def empty : UnorderedMap κ α := ⟨[], List.nodup_nil⟩

def assign (map : UnorderedMap κ α) (key : κ) (value : α) : UnorderedMap κ α where
  entries := assignEntries key value map.entries
  nodup := by
    obtain ⟨-, hkeys⟩ | ⟨habsent, hkeys⟩ := keys_assignEntries key value map.entries
    · exact hkeys ▸ map.nodup
    · rw [hkeys]
      refine List.nodup_append.mpr ⟨map.nodup, List.nodup_singleton key, ?_⟩
      intro other hother new hnew heq
      exact habsent (List.mem_singleton.mp hnew ▸ heq ▸ hother)

def erase (map : UnorderedMap κ α) (key : κ) : UnorderedMap κ α where
  entries := map.entries.filter (·.1 ≠ key)
  nodup := map.nodup.sublist (List.filter_sublist.map _)

def find? (map : UnorderedMap κ α) (key : κ) : Option α :=
  (map.entries.find? (·.1 = key)).map (·.2)

def keys (map : UnorderedMap κ α) : List κ := map.entries.map (·.1)

theorem find?_eq_some_iff {map : UnorderedMap κ α} {key : κ} {value : α} :
    map.find? key = some value ↔ (key, value) ∈ map.entries := by
  simp only [find?, Option.map_eq_some_iff]
  constructor
  · rintro ⟨entry, hentry, rfl⟩
    have hkey : entry.1 = key := by simpa using List.find?_some hentry
    rw [← hkey]
    exact List.mem_of_find?_eq_some hentry
  · intro hmem
    cases hfind : map.entries.find? (·.1 = key) with
    | none => simpa using List.find?_eq_none.mp hfind _ hmem
    | some entry =>
        have hkey : entry.1 = key := by simpa using List.find?_some hfind
        have hsame := List.inj_on_of_nodup_map map.nodup (List.mem_of_find?_eq_some hfind) hmem hkey
        exact ⟨entry, rfl, congrArg Prod.snd hsame⟩

theorem find?_eq_none_iff {map : UnorderedMap κ α} {key : κ} :
    map.find? key = none ↔ key ∉ map.keys := by
  simp only [find?, keys, Option.map_eq_none_iff, List.find?_eq_none, decide_eq_true_eq,
    List.mem_map, not_exists, not_and]

theorem find?_erase_self (map : UnorderedMap κ α) (key : κ) : (map.erase key).find? key = none := by
  rw [find?_eq_none_iff]
  simp [keys, erase]

theorem find?_erase_of_ne (map : UnorderedMap κ α) {key other : κ} (h : other ≠ key) :
    (map.erase key).find? other = map.find? other := by
  refine Option.ext fun value => ?_
  rw [find?_eq_some_iff, find?_eq_some_iff]
  simp only [erase, List.mem_filter, decide_eq_true_eq]
  exact and_iff_left h

theorem mem_assignEntries {key : κ} {value : α} {entries : List (κ × α)}
    (h : (entries.map (·.1)).Nodup) {entry : κ × α} :
    entry ∈ assignEntries key value entries ↔
      entry = (key, value) ∨ entry ∈ entries ∧ entry.1 ≠ key := by
  induction entries with
  | nil => simp [assignEntries]
  | cons first rest ih =>
      obtain ⟨hfirst, hrest⟩ := List.nodup_cons.mp h
      simp only [assignEntries]
      split
      · rename_i hsame
        rw [List.mem_cons, List.mem_cons]
        refine or_congr_right ⟨fun hmem => ⟨Or.inr hmem, ?_⟩, ?_⟩
        · intro heq
          exact hfirst (List.mem_map.mpr ⟨entry, hmem, heq.trans hsame.symm⟩)
        · rintro ⟨rfl | hmem, hne⟩
          · exact absurd hsame hne
          · exact hmem
      · rename_i hne
        rw [List.mem_cons, List.mem_cons, ih hrest]
        constructor
        · rintro (rfl | rfl | ⟨hmem, hkey⟩)
          · exact Or.inr ⟨Or.inl rfl, hne⟩
          · exact Or.inl rfl
          · exact Or.inr ⟨Or.inr hmem, hkey⟩
        · rintro (rfl | ⟨rfl | hmem, hkey⟩)
          · exact Or.inr (Or.inl rfl)
          · exact Or.inl rfl
          · exact Or.inr (Or.inr ⟨hmem, hkey⟩)

theorem find?_assign_self (map : UnorderedMap κ α) (key : κ) (value : α) :
    (map.assign key value).find? key = some value :=
  find?_eq_some_iff.mpr ((mem_assignEntries map.nodup).mpr (Or.inl rfl))

theorem find?_assign_of_ne (map : UnorderedMap κ α) {key other : κ} (h : other ≠ key)
    (value : α) : (map.assign key value).find? other = map.find? other := by
  refine Option.ext fun found => ?_
  rw [find?_eq_some_iff, find?_eq_some_iff]
  refine (mem_assignEntries map.nodup).trans ⟨?_, fun hmem => Or.inr ⟨hmem, h⟩⟩
  rintro (heq | ⟨hmem, -⟩)
  · exact absurd (congrArg Prod.fst heq) h
  · exact hmem

theorem find?_assign (map : UnorderedMap κ α) (key other : κ) (value : α) :
    (map.assign key value).find? other = if other = key then some value else map.find? other := by
  by_cases same : other = key
  · rw [if_pos same, same, find?_assign_self]
  · rw [if_neg same, find?_assign_of_ne map same]

theorem find?_erase (map : UnorderedMap κ α) (key other : κ) :
    (map.erase key).find? other = if other = key then none else map.find? other := by
  by_cases same : other = key
  · rw [if_pos same, same, find?_erase_self]
  · rw [if_neg same, find?_erase_of_ne map same]

/-- A change of what is under a key, if there is something. -/
def modify (map : UnorderedMap κ α) (key : κ) (f : α → α) : UnorderedMap κ α :=
  match map.find? key with
  | some value => map.assign key (f value)
  | none => map

def emplace (map : UnorderedMap κ α) (key : κ) (value : α) : UnorderedMap κ α :=
  match map.find? key with
  | some _ => map
  | none => map.assign key value

theorem find?_emplace (map : UnorderedMap κ α) (key other : κ) (value : α) :
    (map.emplace key value).find? other =
      (map.find? other).or (if other = key then some value else none) := by
  rw [emplace]
  cases found : map.find? key with
  | some value' =>
      by_cases same : other = key
      · rw [same, found, Option.some_or]
      · rw [if_neg same, Option.or_none]
  | none =>
      simp only [find?_assign]
      by_cases same : other = key
      · rw [if_pos same, same, found, Option.none_or, if_pos rfl]
      · rw [if_neg same, if_neg same, Option.or_none]

/-- A present entry stands between the others; assigning puts the new one in its place. -/
theorem split_of_find? {map : UnorderedMap κ α} {key : κ} {value : α}
    (h : map.find? key = some value) :
    ∃ before after, map.entries = before ++ (key, value) :: after ∧
      (map.erase key).entries = before ++ after ∧
      ∀ new, (map.assign key new).entries = before ++ (key, new) :: after := by
  obtain ⟨before, after, hentries⟩ := List.append_of_mem (find?_eq_some_iff.mp h)
  have hnodup := map.nodup
  rw [hentries, List.map_append, List.map_cons] at hnodup
  have hothers : ∀ entry ∈ before ++ after, entry.1 ≠ key := by
    have hmiddle := (List.perm_middle.nodup_iff.mp hnodup)
    intro entry hentry heq
    refine (List.nodup_cons.mp hmiddle).1 ?_
    rw [← List.map_append]
    exact List.mem_map.mpr ⟨entry, hentry, heq⟩
  refine ⟨before, after, hentries, ?_, ?_⟩
  · simp only [erase, hentries]
    rw [List.filter_append, List.filter_cons_of_neg (by simp), ← List.filter_append]
    exact List.filter_eq_self.mpr (by simpa using hothers)
  · intro new
    simp only [assign, hentries]
    have hbefore : ∀ entry ∈ before, entry.1 ≠ key :=
      fun entry hentry => hothers entry (List.mem_append_left _ hentry)
    clear hothers hnodup hentries
    induction before with
    | nil => exact if_pos rfl
    | cons entry before ih =>
        rw [List.cons_append, List.cons_append, assignEntries,
          if_neg (hbefore entry List.mem_cons_self),
          ih fun other hother => hbefore other (List.mem_cons_of_mem _ hother)]

theorem perm_of_find? {map : UnorderedMap κ α} {key : κ} {value : α}
    (h : map.find? key = some value) :
    map.entries.Perm ((key, value) :: (map.erase key).entries) := by
  obtain ⟨before, after, hentries, herase, -⟩ := split_of_find? h
  rw [hentries, herase]
  exact List.perm_middle

theorem perm_assign (map : UnorderedMap κ α) (key : κ) (value : α) :
    (map.assign key value).entries.Perm ((key, value) :: (map.erase key).entries) := by
  have hself := perm_of_find? (map.find?_assign_self key value)
  refine hself.trans (List.Perm.cons _ (List.Perm.of_eq ?_))
  simp only [erase, assign]
  induction map.entries with
  | nil => simp [assignEntries]
  | cons entry rest ih =>
      simp only [assignEntries]
      split
      · rename_i heq
        rw [List.filter_cons_of_neg (by simp), List.filter_cons_of_neg (by simpa using heq)]
      · rename_i hne
        rw [List.filter_cons_of_pos (by simpa using hne),
          List.filter_cons_of_pos (by simpa using hne), ih]

/-- A new key goes to the end. -/
theorem assign_of_none {map : UnorderedMap κ α} {key : κ} (h : map.find? key = none) (value : α) :
    (map.assign key value).entries = map.entries ++ [(key, value)] := by
  have habsent : ∀ entry ∈ map.entries, entry.1 ≠ key := by
    intro entry hentry heq
    exact find?_eq_none_iff.mp h (List.mem_map.mpr ⟨entry, hentry, heq⟩)
  simp only [assign]
  generalize map.entries = entries at habsent
  induction entries with
  | nil => rfl
  | cons entry rest ih =>
      have hrest := ih fun other hother => habsent other (List.mem_cons_of_mem _ hother)
      rw [assignEntries, if_neg (habsent entry List.mem_cons_self), hrest, List.cons_append]

theorem find?_of_perm {map other : UnorderedMap κ α} (h : map.entries.Perm other.entries)
    (key : κ) : map.find? key = other.find? key := by
  refine Option.ext fun value => ?_
  rw [find?_eq_some_iff, find?_eq_some_iff, h.mem_iff]

end UnorderedMap

end Lib
