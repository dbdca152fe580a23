import Mathlib.Data.List.Basic
import Mathlib.Data.List.Pairwise

/-!
Reading a keyed collection page by page while it changes. Each call takes the
first entries beyond the last key received, from the collection as it is at that
call, and the reader stops at a page that is not full.
-/

namespace Lib

universe u

variable {α : Type u} (key : α → Nat)

/-- At most `limit` entries beyond `after`, in the order of the source. -/
def page (source : List α) (after limit : Nat) : List α :=
  (source.filter fun x => after < key x).take limit

/-- The pages a reader receives, `sources call` being the collection at a call.
None if the fuel ends before the reader has finished. -/
def scan (sources : Nat → List α) (limit : Nat) : Nat → Nat → Nat → Option (List (List α))
  | 0, _, _ => none
  | fuel + 1, call, after =>
      let received := page key (sources call) after limit
      if received.length < limit then some [received]
      else
        match received.getLast? with
        | some last => (scan sources limit fuel (call + 1) (key last)).map (received :: ·)
        | none => none

variable {key}

theorem page_sorted {source : List α} (h : source.Pairwise (key · < key ·)) (after limit : Nat) :
    (page key source after limit).Pairwise (key · < key ·) :=
  (h.filter _).sublist (List.take_sublist _ _)

theorem lt_key_of_mem_page {source : List α} {after limit : Nat} {x : α}
    (h : x ∈ page key source after limit) : x ∈ source ∧ after < key x := by
  simpa using List.mem_of_mem_take h

/-- A page that is not full holds everything beyond the cursor. -/
theorem page_eq_filter {source : List α} {after limit : Nat}
    (h : (page key source after limit).length < limit) :
    page key source after limit = source.filter fun x => after < key x := by
  unfold page at h ⊢
  refine List.take_of_length_le ?_
  rw [List.length_take] at h
  omega

/-- In a sorted list the entries beyond the last one of a nonempty initial part
are the rest. -/
theorem filter_beyond_take {l : List α} (h : l.Pairwise (key · < key ·)) {n : Nat} {last : α}
    (hlast : (l.take n).getLast? = some last) :
    (l.filter fun x => key last < key x) = l.drop n := by
  obtain ⟨init, hinit⟩ := List.getLast?_eq_some_iff.mp hlast
  have hsplit : l = l.take n ++ l.drop n := (List.take_append_drop n l).symm
  rw [hinit] at hsplit
  rw [hsplit] at h
  have hmem : last ∈ init ++ [last] := by simp
  have hbefore : ∀ x ∈ init ++ [last], ¬ key last < key x := by
    intro x hx
    rcases List.mem_append.mp hx with hx | hx
    · have := (List.pairwise_append.mp (List.pairwise_append.mp h).1).2.2 x hx last (by simp)
      omega
    · rw [List.mem_singleton.mp hx]
      omega
  have hafter : ∀ x ∈ l.drop n, key last < key x :=
    fun x hx => (List.pairwise_append.mp h).2.2 last hmem x hx
  conv_lhs => rw [hsplit]
  rw [List.filter_append, List.filter_eq_nil_iff.mpr (by simpa using hbefore),
    List.filter_eq_self.mpr (by simpa using hafter), List.nil_append]

/-- A full page holds everything up to its last key, and what lies beyond it is
what a reader with that key still has to receive. -/
theorem page_full {source : List α} (h : source.Pairwise (key · < key ·)) {after limit : Nat}
    {last : α} (hlast : (page key source after limit).getLast? = some last) :
    after < key last ∧
      (source.filter fun x => after < key x) =
        page key source after limit ++ source.filter fun x => key last < key x := by
  have hmem := lt_key_of_mem_page (List.mem_of_getLast? hlast)
  refine ⟨hmem.2, ?_⟩
  have hbeyond := filter_beyond_take (h.filter fun x => decide (after < key x)) hlast
  have hfilter : ((source.filter fun x => after < key x).filter fun x => key last < key x) =
      source.filter fun x => key last < key x := by
    rw [List.filter_filter]
    refine List.filter_congr ?_
    intro x _
    simp only [Bool.and_eq_left_iff_imp, decide_eq_true_eq]
    omega
  rw [hfilter] at hbeyond
  rw [hbeyond]
  exact (List.take_append_drop limit _).symm

/-- The reader finishes, receives strictly ascending keys, misses nothing that is
there at every call, and receives exactly the collection if it does not change. -/
theorem scan_spec {sources : Nat → List α} {limit bound : Nat}
    (hsorted : ∀ call, (sources call).Pairwise (key · < key ·))
    (hbound : ∀ call, ∀ x ∈ sources call, key x < bound) (hlimit : 0 < limit) :
    ∀ fuel call after, after < bound → bound ≤ after + fuel →
      ∃ pages, scan key sources limit fuel call after = some pages ∧
        pages.flatten.Pairwise (key · < key ·) ∧
        (∀ x ∈ pages.flatten, after < key x) ∧
        (∀ k, after < k → (∀ i < pages.length, ∃ x ∈ sources (call + i), key x = k) →
          ∃ i < pages.length, ∃ x ∈ sources (call + i), key x = k ∧ x ∈ pages.flatten) ∧
        ((∀ i, sources (call + i) = sources call) →
          pages.flatten = (sources call).filter fun x => after < key x) := by
  intro fuel
  induction fuel with
  | zero => intro call after hlt hle; omega
  | succ fuel ih =>
      intro call after hlt hle
      simp only [scan]
      split
      next hshort =>
        have hall := page_eq_filter hshort
        refine ⟨_, rfl, ?_, ?_, ?_, ?_⟩
        · simpa using page_sorted (hsorted call) after limit
        · intro x hx
          exact (lt_key_of_mem_page (by simpa using hx)).2
        · intro k hk hpresent
          obtain ⟨x, hx, rfl⟩ := hpresent 0 (by simp)
          refine ⟨0, by simp, x, hx, rfl, ?_⟩
          simpa [hall, hk] using hx
        · intro _
          simpa using hall
      next hfull =>
        cases hlast : (page key (sources call) after limit).getLast? with
        | none =>
            have hnil := List.getLast?_eq_none_iff.mp hlast
            rw [hnil] at hfull
            exact absurd hlimit hfull
        | some last =>
            obtain ⟨hgrow, hsplit⟩ := page_full (hsorted call) hlast
            have hlastMem := lt_key_of_mem_page (List.mem_of_getLast? hlast)
            obtain ⟨pages, hscan, hpairs, hbeyond, hpresent, hsame⟩ :=
              ih (call + 1) (key last) (hbound call last hlastMem.1) (by omega)
            refine ⟨page key (sources call) after limit :: pages, by simp [hscan], ?_, ?_, ?_, ?_⟩
            · rw [List.flatten_cons]
              refine List.pairwise_append.mpr ⟨page_sorted (hsorted call) after limit, hpairs, ?_⟩
              intro x hx y hy
              obtain ⟨init, hinit⟩ := List.getLast?_eq_some_iff.mp hlast
              have hle : key x ≤ key last := by
                have hpage := page_sorted (hsorted call) after limit
                rw [hinit] at hx hpage
                rcases List.mem_append.mp hx with hx | hx
                · exact Nat.le_of_lt ((List.pairwise_append.mp hpage).2.2 x hx last (by simp))
                · exact Nat.le_of_eq (congrArg key (List.mem_singleton.mp hx))
              exact Nat.lt_of_le_of_lt hle (hbeyond y hy)
            · intro x hx
              rw [List.flatten_cons] at hx
              rcases List.mem_append.mp hx with hx | hx
              · exact (lt_key_of_mem_page hx).2
              · exact Nat.lt_trans hgrow (hbeyond x hx)
            · intro k hk hthere
              by_cases hreached : k ≤ key last
              · -- the entry lies in this page
                obtain ⟨x, hx, rfl⟩ := hthere 0 (by simp)
                refine ⟨0, by simp, x, hx, rfl, ?_⟩
                have hmem : x ∈ (sources call).filter fun x => after < key x := by
                  simpa [hk] using hx
                rw [hsplit] at hmem
                rw [List.flatten_cons]
                rcases List.mem_append.mp hmem with hmem | hmem
                · exact List.mem_append_left _ hmem
                · simp only [List.mem_filter, decide_eq_true_eq] at hmem
                  omega
              · obtain ⟨i, hi, x, hx, hkey, hmem⟩ := hpresent k (by omega) (by
                  intro i hi
                  have hnext := hthere (i + 1) (by simpa using hi)
                  rwa [show call + (i + 1) = call + 1 + i by omega] at hnext)
                refine ⟨i + 1, by simpa using hi, x, ?_, hkey, ?_⟩
                · rwa [show call + (i + 1) = call + 1 + i by omega]
                · rw [List.flatten_cons]
                  exact List.mem_append_right _ hmem
            · intro hconst
              have hnext : sources (call + 1) = sources call := hconst 1
              have hrest := hsame (fun i => by
                rw [hnext, show call + 1 + i = call + (i + 1) by omega]
                exact hconst (i + 1))
              rw [List.flatten_cons, hrest, hnext, hsplit]

/-- Pages by position: one more entry goes to a page that has begun and has room. -/
theorem take_drop_concat (l : List α) (x : α) (start n : Nat) :
    ((l ++ [x]).drop start).take n =
      if ((l.drop start).take n).length < n ∧ start ≤ l.length then (l.drop start).take n ++ [x]
      else (l.drop start).take n := by
  simp only [List.length_take, List.length_drop]
  split
  case isTrue room =>
      have short : (l.drop start).length + 1 ≤ n := by
        rw [List.length_drop]
        omega
      rw [List.drop_append_of_le_length room.2, List.take_of_length_le (by simpa using short),
        List.take_of_length_le (by omega)]
  case isFalse full =>
      by_cases begun : start ≤ l.length
      · have long : n ≤ (l.drop start).length := by
          rw [List.length_drop]
          omega
        rw [List.drop_append_of_le_length begun, List.take_append_of_le_length long]
      · rw [List.drop_eq_nil_of_le (by simp; omega), List.drop_eq_nil_of_le (by omega)]

theorem flatMap_pages (l : List α) {n pages : Nat} (enough : l.length ≤ n * pages) :
    (List.range pages).flatMap (fun k => (l.drop (n * k)).take n) = l := by
  have upTo : ∀ pages, (List.range pages).flatMap (fun k => (l.drop (n * k)).take n) =
      l.take (n * pages) := by
    intro pages
    induction pages with
    | zero => simp
    | succ pages ih =>
        rw [List.range_succ, List.flatMap_append, ih, Nat.mul_succ, List.take_add]
        simp
  rw [upTo, List.take_of_length_le enough]

end Lib
