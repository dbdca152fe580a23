import Mathlib

/-!
Tables with one unique key and all-or-nothing transactions. A statement that
would leave two rows with one key is refused and changes nothing; a transaction
with a refused statement is rolled back. Rows keep their insertion order, which
is what a scan without an index returns.
-/

namespace Lib

universe u v

section Statements

variable {ρ : Type u} {κ : Type v} [DecidableEq κ] (key : ρ → κ)

def insertRow (r : ρ) (t : List ρ) : Option (List ρ) :=
  if key r ∈ t.map key then none else some (t ++ [r])

def updateRows (p : ρ → Bool) (f : ρ → ρ) (t : List ρ) : Option (List ρ) :=
  if ((t.map fun r => if p r then f r else r).map key).Nodup then
    some (t.map fun r => if p r then f r else r)
  else none

def deleteRows (p : ρ → Bool) (t : List ρ) : List ρ := t.filter fun r => !p r

theorem insertRow_eq_some {r : ρ} {t t' : List ρ} :
    insertRow key r t = some t' ↔ key r ∉ t.map key ∧ t' = t ++ [r] := by
  unfold insertRow
  split
  · simp_all
  · simp_all [eq_comm]

theorem updateRows_eq_some {p : ρ → Bool} {f : ρ → ρ} {t t' : List ρ} :
    updateRows key p f t = some t' ↔
      (t'.map key).Nodup ∧ t' = t.map fun r => if p r then f r else r := by
  unfold updateRows
  split
  · rename_i h
    constructor
    · intro he; cases he; exact ⟨h, rfl⟩
    · rintro ⟨-, rfl⟩; rfl
  · rename_i h
    constructor
    · intro he; cases he
    · rintro ⟨hn, rfl⟩; exact absurd hn h

theorem updateRows_of_key_eq {p : ρ → Bool} {f : ρ → ρ} {t : List ρ}
    (nodup : (t.map key).Nodup) (keep : ∀ r ∈ t, p r = true → key (f r) = key r) :
    updateRows key p f t = some (t.map fun r => if p r then f r else r) := by
  refine (updateRows_eq_some key).mpr ⟨?_, rfl⟩
  have same : (t.map fun r => if p r then f r else r).map key = t.map key := by
    rw [List.map_map]
    apply List.map_congr_left
    intro r hr
    by_cases hp : p r = true
    · simp [hp, keep r hr hp]
    · simp [hp]
  rwa [same]

theorem nodup_insertRow {r : ρ} {t t' : List ρ} (nodup : (t.map key).Nodup)
    (h : insertRow key r t = some t') : (t'.map key).Nodup := by
  obtain ⟨fresh, rfl⟩ := (insertRow_eq_some key).mp h
  simp only [List.map_append, List.map_cons, List.map_nil]
  exact List.nodup_append.mpr ⟨nodup, by simp, by
    intro a ha b hb hab
    simp only [List.mem_singleton] at hb
    subst hb hab
    exact fresh ha⟩

omit [DecidableEq κ] in
theorem nodup_deleteRows {p : ρ → Bool} {t : List ρ} (nodup : (t.map key).Nodup) :
    ((deleteRows p t).map key).Nodup :=
  nodup.sublist (List.Sublist.map key List.filter_sublist)

section Lookup

/-- `SELECT ... WHERE key = k`: the first row, and in a well keyed table the only one. -/
def rowAt (k : κ) (t : List ρ) : Option ρ := t.find? fun r => decide (key r = k)

theorem key_of_rowAt {k : κ} {t : List ρ} {r : ρ} (found : rowAt key k t = some r) : key r = k := by
  simpa using List.find?_some found

theorem mem_of_rowAt {k : κ} {t : List ρ} {r : ρ} (found : rowAt key k t = some r) : r ∈ t :=
  List.mem_of_find?_eq_some found

theorem rowAt_eq_none {k : κ} {t : List ρ} : rowAt key k t = none ↔ k ∉ t.map key := by
  rw [rowAt, List.find?_eq_none, List.mem_map]
  constructor
  · rintro none ⟨r, mem, same⟩
    exact none r mem (decide_eq_true same)
  · intro absent r mem same
    exact absent ⟨r, mem, of_decide_eq_true same⟩

theorem rowAt_of_mem {t : List ρ} (nodup : (t.map key).Nodup) {r : ρ} (mem : r ∈ t) :
    rowAt key (key r) t = some r := by
  induction t with
  | nil => exact absurd mem List.not_mem_nil
  | cons first rest ih =>
      rw [List.map_cons, List.nodup_cons] at nodup
      rcases List.mem_cons.mp mem with rfl | later
      · exact List.find?_cons_of_pos (decide_eq_true rfl)
      · have apart : key first ≠ key r :=
          fun same => nodup.1 (same ▸ List.mem_map.mpr ⟨r, later, rfl⟩)
        rw [rowAt, List.find?_cons_of_neg (by simpa using apart)]
        exact ih nodup.2 later

theorem rowAt_map {f : ρ → ρ} (keep : ∀ r, key (f r) = key r) (k : κ) (t : List ρ) :
    rowAt key k (t.map f) = (rowAt key k t).map f := by
  have same : (fun r => decide (key r = k)) ∘ f = fun r => decide (key r = k) :=
    funext fun r => congrArg (fun other => decide (other = k)) (keep r)
  rw [rowAt, List.find?_map, same, rowAt]

omit [DecidableEq κ] in
theorem map_key_map {f : ρ → ρ} (keep : ∀ r, key (f r) = key r) (t : List ρ) :
    (t.map f).map key = t.map key := by
  rw [List.map_map]
  exact List.map_congr_left fun r _ => keep r

end Lookup

/-- Rows that an update takes out of a selection. -/
theorem filter_update {ρ : Type u} {p q : ρ → Bool} {f : ρ → ρ} {t : List ρ}
    (leaves : ∀ r ∈ t, p r = true → q (f r) = false) :
    (t.map fun r => if p r then f r else r).filter q = (t.filter q).filter fun r => !p r := by
  induction t with
  | nil => rfl
  | cons r t ih =>
      have rest := ih fun r mem => leaves r (List.mem_cons_of_mem _ mem)
      rw [List.map_cons, List.filter_cons, rest, List.filter_cons]
      by_cases hp : p r = true
      · have gone := leaves r (by simp) hp
        by_cases hq : q r = true
        · simp [hp, hq, gone]
        · simp [hp, hq, gone]
      · by_cases hq : q r = true
        · simp [hp, hq]
        · simp [hp, hq]

/-- Rows that an update leaves in a selection. -/
theorem filter_update_of_keeps {ρ : Type u} {p q : ρ → Bool} {f : ρ → ρ} {t : List ρ}
    (keeps : ∀ r ∈ t, p r = true → q r = true ∧ q (f r) = true) :
    (t.map fun r => if p r then f r else r).filter q =
      (t.filter q).map fun r => if p r then f r else r := by
  induction t with
  | nil => rfl
  | cons r t ih =>
      have rest := ih fun r mem => keeps r (List.mem_cons_of_mem _ mem)
      rw [List.map_cons, List.filter_cons, rest, List.filter_cons]
      by_cases hp : p r = true
      · obtain ⟨before, after⟩ := keeps r (by simp) hp
        simp [hp, before, after]
      · by_cases hq : q r = true
        · simp [hp, hq]
        · simp [hp, hq]

end Statements

section Transactions

variable {δ : Type u}

/-- The statements in order; the first refusal stops the list. -/
def execute (stmts : List (δ → Option δ)) (d : δ) : Option δ :=
  stmts.foldlM (fun d stmt => stmt d) d

/-- `BEGIN; ...; COMMIT`, or `ROLLBACK` when a statement is refused. -/
def transaction (stmts : List (δ → Option δ)) (d : δ) : δ :=
  (execute stmts d).getD d

@[simp] theorem execute_nil (d : δ) : execute [] d = some d := rfl

@[simp] theorem execute_cons (stmt : δ → Option δ) (stmts : List (δ → Option δ)) (d : δ) :
    execute (stmt :: stmts) d = (stmt d).bind (execute stmts) := by
  simp [execute, List.foldlM_cons]
  rfl

theorem execute_append (stmts rest : List (δ → Option δ)) (d : δ) :
    execute (stmts ++ rest) d = (execute stmts d).bind (execute rest) := by
  induction stmts generalizing d with
  | nil => simp
  | cons stmt stmts ih =>
      simp only [List.cons_append, execute_cons]
      cases stmt d with
      | none => rfl
      | some d' => simpa using ih d'

/-- Statements that are never refused and leave a component alone. -/
theorem execute_of_keeps {ε : Type v} {get : δ → ε} {stmts : List (δ → Option δ)}
    (keeps : ∀ stmt ∈ stmts, ∀ d, ∃ d', stmt d = some d' ∧ get d' = get d) (d : δ) :
    ∃ d', execute stmts d = some d' ∧ get d' = get d := by
  induction stmts generalizing d with
  | nil => exact ⟨d, rfl, rfl⟩
  | cons stmt stmts ih =>
      obtain ⟨d₁, first, same⟩ := keeps stmt (by simp) d
      obtain ⟨d₂, rest, same'⟩ := ih (fun stmt mem => keeps stmt (by simp [mem])) d₁
      refine ⟨d₂, ?_, same'.trans same⟩
      rw [execute_cons, first, Option.bind_some, rest]

theorem execute_component {ε : Type v} {get : δ → ε} {put : δ → ε → δ}
    (get_put : ∀ d e, get (put d e) = e) (put_put : ∀ d e e', put (put d e) e' = put d e')
    (put_get : ∀ d, put d (get d) = d) (stmts : List (ε → Option ε)) (d : δ) :
    execute (stmts.map fun f d => (f (get d)).map (put d)) d =
      (execute stmts (get d)).map (put d) := by
  induction stmts generalizing d with
  | nil => simp [put_get]
  | cons f stmts ih =>
      rw [List.map_cons, execute_cons, execute_cons]
      cases f (get d) with
      | none => rfl
      | some e =>
          rw [Option.map_some, Option.bind_some, Option.bind_some, ih, get_put]
          exact congrArg (fun g => (execute stmts e).map g) (funext fun e' => put_put d e e')

end Transactions

end Lib
