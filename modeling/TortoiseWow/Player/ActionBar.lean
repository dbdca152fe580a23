import TortoiseWow.Lib.FixedWidth
import TortoiseWow.Lib.OrderedMap
import TortoiseWow.Lib.Table
import TortoiseWow.Lib.Run

/-!
The action bar of a character: the buttons in memory with their update states, the rows of
`character_action`, and saving and loading between the two. Each update state tells the
truth about the row of its button, which is why no statement of a save misses.
-/

namespace TortoiseWow

inductive ActionButtonUpdateState where
  | unchanged
  | changed
  | new
  | deleted
  deriving Repr, DecidableEq

def actionButtonSpell : UInt8 := 0x00

def actionButtonItem : UInt8 := 0x80

def maxActionButtonActionValue : UInt32 := 0x00FFFFFF + 1

def maxActionButtons : UInt8 := 120

def packAction (action : UInt32) (type : UInt8) : UInt32 := action ||| type.toUInt32 <<< 24

structure ActionButton where
  packedData : UInt32 := 0
  uState : ActionButtonUpdateState := .new
  deriving Repr, DecidableEq

namespace ActionButton

def getType (packedData : UInt32) : UInt8 := ((packedData &&& 0xFF000000) >>> 24).toUInt8

def getAction (packedData : UInt32) : UInt32 := packedData &&& 0x00FFFFFF

def setActionAndType (b : ActionButton) (action : UInt32) (type : UInt8) : ActionButton :=
  let newData := packAction action type
  if newData ≠ b.packedData ∨ b.uState = .deleted then
    { packedData := newData, uState := if b.uState ≠ .new then .changed else b.uState }
  else b

def shown (b : ActionButton) : Option UInt32 :=
  if b.uState ≠ .deleted then some b.packedData else none

end ActionButton

/-- The static data that a button may refer to. -/
structure Prototypes where
  spell : UInt32 → Bool
  item : UInt32 → Bool

def isActionButtonDataValid (p : Prototypes) (button : UInt8) (action : UInt32) (type : UInt8) :
    Bool :=
  if maxActionButtons ≤ button then false
  else if maxActionButtonActionValue ≤ action then false
  else if type = actionButtonSpell then p.spell action
  else if type = actionButtonItem then p.item action
  else true

abbrev ActionButtonList := Lib.OrderedMap UInt8 ActionButton

structure ActionRow where
  guid : UInt32
  button : UInt8
  action : UInt32
  type : UInt8
  deriving Repr, DecidableEq

def ActionRow.key (r : ActionRow) : UInt32 × UInt8 := (r.guid, r.button)

structure CharacterAction where
  rows : List ActionRow
  primaryKey : (rows.map ActionRow.key).Nodup

inductive ActionStatement where
  | insert (row : ActionRow)
  | update (row : ActionRow)
  | delete (guid : UInt32) (button : UInt8)
  deriving Repr, DecidableEq

namespace CharacterAction

def select (t : CharacterAction) (guid : UInt32) : List ActionRow :=
  (t.rows.filter (·.guid = guid)).mergeSort fun r other => r.button ≤ other.button

def execute (t : CharacterAction) : ActionStatement → CharacterAction
  | .insert row =>
      match h : Lib.insertRow ActionRow.key row t.rows with
      | none => t
      | some rows => ⟨rows, Lib.nodup_insertRow ActionRow.key t.primaryKey h⟩
  | .update row =>
      ⟨t.rows.map fun r => if r.key = row.key then row else r, by
        have hkeys : (t.rows.map fun r => if r.key = row.key then row else r).map ActionRow.key =
            t.rows.map ActionRow.key := by
          rw [List.map_map]
          refine List.map_congr_left fun r _ => ?_
          by_cases h : r.key = row.key
          · simp [h]
          · simp [h]
        exact hkeys ▸ t.primaryKey⟩
  | .delete guid button =>
      ⟨Lib.deleteRows (·.key = (guid, button)) t.rows,
        Lib.nodup_deleteRows ActionRow.key t.primaryKey⟩

/-- An insertion is of a new row, the other statements are about an existing one. -/
def Meets (t : CharacterAction) : ActionStatement → Prop
  | .insert row => row.key ∉ t.rows.map ActionRow.key
  | .update row => row.key ∈ t.rows.map ActionRow.key
  | .delete guid button => (guid, button) ∈ t.rows.map ActionRow.key

end CharacterAction

namespace MasterPlayer

variable (p : Prototypes) (guid : UInt32)

def addActionButton (m : ActionButtonList) (button : UInt8) (action : UInt32) (type : UInt8) :
    Option ActionButton × ActionButtonList :=
  if isActionButtonDataValid p button action type = false then (none, m)
  else
    let ab := ((m.find? button).getD {}).setActionAndType action type
    (some ab, m.assign button ab)

def removeActionButton (m : ActionButtonList) (button : UInt8) : ActionButtonList :=
  match m.find? button with
  | none => m
  | some b =>
      if b.uState = .new then m.erase button
      else m.assign button { b with uState := .deleted }

def loadAction (m : ActionButtonList) (row : ActionRow) : ActionButtonList :=
  match addActionButton p m row.button row.action row.type with
  | (some ab, m) => m.assign row.button { ab with uState := .unchanged }
  | (none, m) => m.assign row.button { (m.find? row.button).getD {} with uState := .deleted }

def loadActions (rows : List ActionRow) : ActionButtonList := rows.foldl (loadAction p) .empty

def actionRow (button : UInt8) (packedData : UInt32) : ActionRow :=
  ⟨guid, button, ActionButton.getAction packedData, ActionButton.getType packedData⟩

def saveAction (button : UInt8) (b : ActionButton) : Option ActionStatement × Option ActionButton :=
  match b.uState with
  | .new =>
      (some (.insert (actionRow guid button b.packedData)), some { b with uState := .unchanged })
  | .changed =>
      (some (.update (actionRow guid button b.packedData)), some { b with uState := .unchanged })
  | .deleted => (some (.delete guid button), none)
  | .unchanged => (none, some b)

def putAction (m : ActionButtonList) (button : UInt8) : Option ActionButton → ActionButtonList
  | none => m.erase button
  | some b => m.assign button b

def saveActions (m : ActionButtonList) : List ActionStatement × ActionButtonList :=
  m.entries.foldl (fun (acc : List ActionStatement × ActionButtonList) entry =>
    let (stmt, left) := saveAction guid entry.1 entry.2
    (acc.1 ++ stmt.toList, putAction acc.2 entry.1 left)) ([], m)

def visible (m : ActionButtonList) : Lib.OrderedMap UInt8 UInt32 := m.filterMap ActionButton.shown

def visibleRows (m : ActionButtonList) : List ActionRow :=
  (visible m).entries.map fun entry => actionRow guid entry.1 entry.2

structure ActionBar where
  actions : ActionButtonList
  table : CharacterAction

inductive ActionBarEvent where
  | add (button : UInt8) (action : UInt32) (type : UInt8)
  | remove (button : UInt8)
  | save
  | load
  deriving Repr, DecidableEq

def ActionBar.save (s : ActionBar) : ActionBar where
  actions := (saveActions guid s.actions).2
  table := (saveActions guid s.actions).1.foldl CharacterAction.execute s.table

def ActionBar.load (s : ActionBar) : ActionBar where
  actions := loadActions p (s.table.select guid)
  table := s.table

def ActionBar.step (s : ActionBar) : ActionBarEvent → ActionBar
  | .add button action type =>
      { s with actions := (addActionButton p s.actions button action type).2 }
  | .remove button => { s with actions := removeActionButton s.actions button }
  | .save => s.save guid
  | .load => s.load p guid

end MasterPlayer

section Packing

open ActionButton

theorem toNat_packAction {action : UInt32} (type : UInt8)
    (h : action < maxActionButtonActionValue) :
    (packAction action type).toNat = 2 ^ 24 * type.toNat + action.toNat := by
  have htype := type.toNat_lt
  have haction : action.toNat < 2 ^ 24 := UInt32.lt_iff_toNat_lt.mp h
  have hshift : (type.toUInt32 <<< 24).toNat = 2 ^ 24 * type.toNat := by
    rw [UInt32.toNat_shiftLeft, UInt8.toNat_toUInt32, Nat.shiftLeft_eq]
    change type.toNat * 16777216 % 4294967296 = 16777216 * type.toNat
    omega
  simp only [packAction]
  rw [UInt32.toNat_or, hshift, Nat.or_comm, ← Nat.two_pow_add_eq_or_of_lt haction]

theorem toNat_getAction (packedData : UInt32) :
    (getAction packedData).toNat = packedData.toNat % 2 ^ 24 := by
  simp only [getAction]
  rw [UInt32.toNat_and]
  exact Nat.and_two_pow_sub_one_eq_mod _ 24

theorem toNat_getType (packedData : UInt32) :
    (getType packedData).toNat = packedData.toNat / 2 ^ 24 := by
  have hbound := packedData.toNat_lt
  simp only [getType]
  rw [UInt32.toNat_toUInt8, UInt32.toNat_shiftRight, UInt32.toNat_and]
  change ((packedData.toNat &&& 0xFF000000) >>> 24) % 256 = _
  have hmask : 0xFF000000 >>> 24 = 2 ^ 8 - 1 := rfl
  rw [Nat.shiftRight_and_distrib, hmask, Nat.and_two_pow_sub_one_eq_mod,
    Nat.shiftRight_eq_div_pow]
  omega

theorem getAction_packAction {action : UInt32} (type : UInt8)
    (h : action < maxActionButtonActionValue) : getAction (packAction action type) = action := by
  have haction : action.toNat < 2 ^ 24 := UInt32.lt_iff_toNat_lt.mp h
  apply UInt32.toNat_inj.mp
  rw [toNat_getAction, toNat_packAction type h]
  omega

theorem getType_packAction {action : UInt32} (type : UInt8)
    (h : action < maxActionButtonActionValue) : getType (packAction action type) = type := by
  have haction : action.toNat < 2 ^ 24 := UInt32.lt_iff_toNat_lt.mp h
  apply UInt8.toNat_inj.mp
  rw [toNat_getType, toNat_packAction type h]
  omega

theorem packAction_get (packedData : UInt32) :
    packAction (getAction packedData) (getType packedData) = packedData := by
  have hbound : getAction packedData < maxActionButtonActionValue := by
    apply UInt32.lt_iff_toNat_lt.mpr
    rw [toNat_getAction]
    exact Nat.mod_lt _ (by decide)
  apply UInt32.toNat_inj.mp
  rw [toNat_packAction _ hbound, toNat_getAction, toNat_getType]
  omega

end Packing

namespace CharacterAction

variable (t : CharacterAction)

def row? (key : UInt32 × UInt8) : Option ActionRow := t.rows.find? (·.key = key)

theorem row?_eq_some_iff {key : UInt32 × UInt8} {row : ActionRow} :
    t.row? key = some row ↔ row ∈ t.rows ∧ row.key = key := by
  constructor
  · intro h
    exact ⟨List.mem_of_find?_eq_some h, by simpa using List.find?_some h⟩
  · rintro ⟨hmem, rfl⟩
    cases hfind : t.row? row.key with
    | none => simpa using List.find?_eq_none.mp hfind row hmem
    | some found =>
        have hfound : found.key = row.key := by simpa using List.find?_some hfind
        have hsame := List.inj_on_of_nodup_map t.primaryKey
          (List.mem_of_find?_eq_some hfind) hmem hfound
        rw [hsame]

theorem isSome_row? {key : UInt32 × UInt8} :
    (t.row? key).isSome ↔ key ∈ t.rows.map ActionRow.key := by
  rw [Option.isSome_iff_exists]
  simp only [t.row?_eq_some_iff, List.mem_map]

end CharacterAction

namespace ActionStatement

def key : ActionStatement → UInt32 × UInt8
  | .insert row | .update row => row.key
  | .delete guid button => (guid, button)

/-- What a statement leaves under its key. -/
def left : ActionStatement → Option ActionRow
  | .insert row | .update row => some row
  | .delete _ _ => none

end ActionStatement

namespace CharacterAction

variable {t : CharacterAction}

theorem mem_execute {stmt : ActionStatement} (h : t.Meets stmt) {row : ActionRow} :
    row ∈ (t.execute stmt).rows ↔ stmt.left = some row ∨ row ∈ t.rows ∧ row.key ≠ stmt.key := by
  cases stmt with
  | insert new =>
      have hrows : (t.execute (.insert new)).rows = t.rows ++ [new] := by
        simp only [execute]
        split
        · rename_i hnone
          exact absurd ((Lib.insertRow_eq_some _).mpr ⟨h, rfl⟩) (by simp [hnone])
        · rename_i rows hsome
          exact ((Lib.insertRow_eq_some _).mp hsome).2
      rw [hrows, List.mem_append, List.mem_singleton]
      simp only [ActionStatement.left, ActionStatement.key, Option.some.injEq]
      constructor
      · rintro (hold | hnew)
        · exact Or.inr ⟨hold, fun hkey => h (hkey ▸ List.mem_map_of_mem hold)⟩
        · exact Or.inl hnew.symm
      · rintro (hnew | ⟨hold, -⟩)
        · exact Or.inr hnew.symm
        · exact Or.inl hold
  | update new =>
      obtain ⟨old, hold, hkey⟩ := List.mem_map.mp h
      simp only [execute, ActionStatement.left, ActionStatement.key, List.mem_map,
        Option.some.injEq]
      constructor
      · rintro ⟨r, hr, rfl⟩
        split
        · exact Or.inl rfl
        · rename_i hne
          exact Or.inr ⟨hr, hne⟩
      · rintro (rfl | ⟨hr, hne⟩)
        · exact ⟨old, hold, if_pos hkey⟩
        · exact ⟨row, hr, if_neg hne⟩
  | delete guid button =>
      simp [execute, ActionStatement.left, ActionStatement.key, Lib.deleteRows]

theorem row?_execute {stmt : ActionStatement} (h : t.Meets stmt) (key : UInt32 × UInt8) :
    (t.execute stmt).row? key = if key = stmt.key then stmt.left else t.row? key := by
  have hleft : ∀ row, stmt.left = some row → row.key = stmt.key := by
    intro row hrow
    cases stmt with
    | insert _ | update _ => exact congrArg ActionRow.key (Option.some.inj hrow).symm
    | delete _ _ => exact nomatch hrow
  refine Option.ext fun row => ?_
  rw [row?_eq_some_iff, mem_execute h]
  split
  · rename_i hkey
    constructor
    · rintro ⟨hrow | ⟨-, hne⟩, hsame⟩
      · exact hrow
      · exact absurd (hsame.trans hkey) hne
    · intro hrow
      exact ⟨Or.inl hrow, (hleft row hrow).trans hkey.symm⟩
  · rename_i hkey
    rw [row?_eq_some_iff]
    constructor
    · rintro ⟨hrow | ⟨hmem, -⟩, hsame⟩
      · exact absurd (hsame.symm.trans (hleft row hrow)) hkey
      · exact ⟨hmem, hsame⟩
    · rintro ⟨hmem, hsame⟩
      exact ⟨Or.inr ⟨hmem, fun heq => hkey (hsame.symm.trans heq)⟩, hsame⟩

end CharacterAction

namespace MasterPlayer

variable (p : Prototypes) (guid : UInt32)

def Valid (button : UInt8) (packedData : UInt32) : Prop :=
  isActionButtonDataValid p button (ActionButton.getAction packedData)
    (ActionButton.getType packedData) = true

def Truthful (button : UInt8) (row : Option ActionRow) : Option ActionButton → Prop
  | none => row = none
  | some b =>
      match b.uState with
      | .new => row = none ∧ Valid p button b.packedData
      | .unchanged =>
          row = some (actionRow guid button b.packedData) ∧ Valid p button b.packedData
      | .changed => row.isSome ∧ Valid p button b.packedData
      | .deleted => row.isSome

def ActionBar.Truthful (s : ActionBar) : Prop :=
  ∀ button, MasterPlayer.Truthful p guid button (s.table.row? (guid, button))
    (s.actions.find? button)

/-- Nothing is left to be saved. -/
def Settled : Option ActionButton → Prop
  | none => True
  | some b => b.uState = .unchanged

variable {p guid}

theorem isActionButtonDataValid_bound {button : UInt8} {action : UInt32} {type : UInt8}
    (h : isActionButtonDataValid p button action type = true) :
    action < maxActionButtonActionValue := by
  simp only [isActionButtonDataValid] at h
  split at h
  · exact nomatch h
  · split at h
    · exact nomatch h
    · rename_i hle
      exact UInt32.not_le.mp hle

theorem valid_packAction {button : UInt8} {action : UInt32} {type : UInt8}
    (h : isActionButtonDataValid p button action type = true) :
    Valid p button (packAction action type) := by
  have hbound := isActionButtonDataValid_bound h
  simp only [Valid]
  rw [getAction_packAction type hbound, getType_packAction type hbound]
  exact h

section Edits

variable {m : ActionButtonList} {button : UInt8} {row : Option ActionRow}

theorem truthful_setActionAndType {found : Option ActionButton} {action : UInt32} {type : UInt8}
    (h : Truthful p guid button row found)
    (hvalid : isActionButtonDataValid p button action type = true) :
    Truthful p guid button row (some ((found.getD {}).setActionAndType action type)) := by
  have hpacked := valid_packAction hvalid
  cases found with
  | none =>
      simp only [Option.getD_none, ActionButton.setActionAndType]
      split
      · exact ⟨h, hpacked⟩
      · rename_i hsame
        have heq : packAction action type = 0 := Decidable.not_not.mp fun hne => hsame (Or.inl hne)
        exact ⟨h, heq ▸ hpacked⟩
  | some b =>
      obtain ⟨packedData, uState⟩ := b
      simp only [Option.getD_some, ActionButton.setActionAndType]
      split
      · cases uState with
        | new => exact ⟨h.1, hpacked⟩
        | unchanged => exact ⟨by simp [h.1], hpacked⟩
        | changed => exact ⟨h.1, hpacked⟩
        | deleted => exact ⟨h, hpacked⟩
      · exact h

theorem truthful_addActionButton {s : ActionBar} (h : s.Truthful p guid) (button : UInt8)
    (action : UInt32) (type : UInt8) :
    ActionBar.Truthful p guid
      { s with actions := (addActionButton p s.actions button action type).2 } := by
  intro other
  simp only [addActionButton]
  split
  · exact h other
  · rename_i hvalid
    by_cases hsame : other = button
    · subst hsame
      simp only [Lib.OrderedMap.find?_assign_self]
      exact truthful_setActionAndType (h other) (by simpa using hvalid)
    · simp only [Lib.OrderedMap.find?_assign_of_ne _ hsame]
      exact h other

theorem truthful_removeActionButton {s : ActionBar} (h : s.Truthful p guid) (button : UInt8) :
    ActionBar.Truthful p guid { s with actions := removeActionButton s.actions button } := by
  intro other
  have hother := h other
  simp only [removeActionButton]
  split
  · exact hother
  · rename_i b hfind
    by_cases hsame : other = button
    · subst hsame
      rw [hfind] at hother
      obtain ⟨packedData, uState⟩ := b
      cases uState with
      | new =>
          simp only [if_pos, Lib.OrderedMap.find?_erase_self]
          exact hother.1
      | unchanged =>
          simp only [reduceCtorEq, if_false, Lib.OrderedMap.find?_assign_self]
          exact Option.isSome_of_eq_some hother.1
      | changed =>
          simp only [reduceCtorEq, if_false, Lib.OrderedMap.find?_assign_self]
          exact hother.1
      | deleted =>
          simp only [reduceCtorEq, if_false, Lib.OrderedMap.find?_assign_self]
          exact hother
    · split
      · simp only [Lib.OrderedMap.find?_erase_of_ne _ hsame]
        exact hother
      · simp only [Lib.OrderedMap.find?_assign_of_ne _ hsame]
        exact hother

end Edits

section Saving

theorem find?_putAction (m : ActionButtonList) (button other : UInt8) (left : Option ActionButton) :
    (putAction m button left).find? other = if other = button then left else m.find? other := by
  cases left with
  | none =>
      simp only [putAction]
      split
      · rename_i hsame
        exact hsame ▸ m.find?_erase_self button
      · rename_i hne
        exact m.find?_erase_of_ne hne
  | some b =>
      simp only [putAction]
      split
      · rename_i hsame
        exact hsame ▸ m.find?_assign_self button b
      · rename_i hne
        exact m.find?_assign_of_ne hne b

theorem settled_saveAction (button : UInt8) (b : ActionButton) :
    Settled (saveAction guid button b).2 := by
  simp only [saveAction]
  split
  · rfl
  · rfl
  · trivial
  · rename_i hstate
    exact hstate

theorem shown_saveAction (button : UInt8) (b : ActionButton) :
    (saveAction guid button b).2.bind ActionButton.shown = b.shown := by
  obtain ⟨packedData, uState⟩ := b
  cases uState with
  | new | unchanged | changed | deleted => rfl

theorem saveAction_step {t : CharacterAction} {m : ActionButtonList} {button : UInt8}
    {b : ActionButton} (h : ActionBar.Truthful p guid ⟨m, t⟩) (hfind : m.find? button = some b) :
    (∀ stmt ∈ (saveAction guid button b).1, t.Meets stmt) ∧
      ActionBar.Truthful p guid
        ⟨putAction m button (saveAction guid button b).2,
          (saveAction guid button b).1.toList.foldl CharacterAction.execute t⟩ := by
  have hown := h button
  simp only [hfind] at hown
  -- the rows and buttons of the others stay, whatever the statement
  have hkeep : ∀ stmt left, t.Meets stmt → stmt.key = (guid, button) →
      Truthful p guid button stmt.left left →
      ActionBar.Truthful p guid ⟨putAction m button left, t.execute stmt⟩ := by
    intro stmt left hmeets hkey hleft other
    simp only [find?_putAction, t.row?_execute hmeets, hkey, Prod.mk.injEq, true_and]
    split
    · rename_i hsame
      exact hsame ▸ hleft
    · exact h other
  obtain ⟨packedData, uState⟩ := b
  cases uState with
  | new =>
      have hmeets : t.Meets (.insert (actionRow guid button packedData)) := by
        intro hmem
        have hrow := t.isSome_row?.mpr hmem
        exact absurd hown.1 (Option.isSome_iff_ne_none.mp hrow)
      refine ⟨?_, hkeep _ _ hmeets rfl ⟨rfl, hown.2⟩⟩
      intro stmt hstmt
      exact Option.mem_some.mp hstmt ▸ hmeets
  | changed =>
      have hmeets : t.Meets (.update (actionRow guid button packedData)) :=
        t.isSome_row?.mp hown.1
      refine ⟨?_, hkeep _ _ hmeets rfl ⟨rfl, hown.2⟩⟩
      intro stmt hstmt
      exact Option.mem_some.mp hstmt ▸ hmeets
  | deleted =>
      have hmeets : t.Meets (.delete guid button) := t.isSome_row?.mp hown
      refine ⟨?_, hkeep _ _ hmeets rfl rfl⟩
      intro stmt hstmt
      exact Option.mem_some.mp hstmt ▸ hmeets
  | unchanged =>
      refine ⟨fun _ hstmt => absurd hstmt (Option.not_mem_none _), ?_⟩
      intro other
      simp only [saveAction, find?_putAction]
      split
      · rename_i hsame
        exact hsame ▸ hown
      · exact h other

def statements (guid : UInt32) (entries : List (UInt8 × ActionButton)) : List ActionStatement :=
  entries.flatMap fun entry => (saveAction guid entry.1 entry.2).1.toList

def saved (guid : UInt32) (entries : List (UInt8 × ActionButton)) (m : ActionButtonList) :
    ActionButtonList :=
  entries.foldl (fun m entry => putAction m entry.1 (saveAction guid entry.1 entry.2).2) m

theorem saveActions_eq (guid : UInt32) (m : ActionButtonList) :
    saveActions guid m = (statements guid m.entries, saved guid m.entries m) := by
  have hfold : ∀ (entries : List (UInt8 × ActionButton)) (stmts : List ActionStatement)
      (left : ActionButtonList),
      entries.foldl (fun (acc : List ActionStatement × ActionButtonList) entry =>
        (acc.1 ++ (saveAction guid entry.1 entry.2).1.toList,
          putAction acc.2 entry.1 (saveAction guid entry.1 entry.2).2)) (stmts, left) =
        (stmts ++ statements guid entries, saved guid entries left) := by
    intro entries
    induction entries with
    | nil => intro stmts left; simp [statements, saved]
    | cons entry entries ih =>
        intro stmts left
        rw [List.foldl_cons, ih]
        simp [statements, saved]
  exact hfold m.entries [] m

theorem saved_run (entries : List (UInt8 × ActionButton)) {t : CharacterAction}
    {m : ActionButtonList} (h : ActionBar.Truthful p guid ⟨m, t⟩)
    (hfind : ∀ entry ∈ entries, m.find? entry.1 = some entry.2)
    (hnodup : (entries.map (·.1)).Nodup) :
    Lib.Along CharacterAction.execute CharacterAction.Meets t (statements guid entries) ∧
      ActionBar.Truthful p guid ⟨saved guid entries m,
        (statements guid entries).foldl CharacterAction.execute t⟩ := by
  induction entries generalizing t m with
  | nil => exact ⟨trivial, h⟩
  | cons entry entries ih =>
      obtain ⟨hfresh, hnodup⟩ := List.nodup_cons.mp hnodup
      obtain ⟨hmeets, htrue⟩ := saveAction_step h (hfind entry (List.mem_cons_self ..))
      have hrest : ∀ other ∈ entries,
          (putAction m entry.1 (saveAction guid entry.1 entry.2).2).find? other.1 =
            some other.2 := by
        intro other hother
        rw [find?_putAction, if_neg]
        · exact hfind other (List.mem_cons_of_mem _ hother)
        · intro hsame
          exact hfresh (List.mem_map.mpr ⟨other, hother, hsame⟩)
      obtain ⟨halong, hafter⟩ := ih htrue hrest hnodup
      have hstmts : statements guid (entry :: entries) =
          (saveAction guid entry.1 entry.2).1.toList ++ statements guid entries := rfl
      rw [hstmts, List.foldl_append]
      refine ⟨(Lib.along_append _ _ _ _ _).mpr ⟨?_, halong⟩, hafter⟩
      cases hone : (saveAction guid entry.1 entry.2).1 with
      | none => trivial
      | some stmt => exact ⟨hmeets stmt (Option.mem_def.mpr hone), trivial⟩

theorem find?_saved (guid : UInt32) (entries : List (UInt8 × ActionButton))
    (m : ActionButtonList) (hnodup : (entries.map (·.1)).Nodup) (button : UInt8) :
    (button ∉ entries.map (·.1) → (saved guid entries m).find? button = m.find? button) ∧
      ∀ b, (button, b) ∈ entries →
        (saved guid entries m).find? button = (saveAction guid button b).2 := by
  induction entries generalizing m with
  | nil => exact ⟨fun _ => rfl, fun _ hmem => absurd hmem List.not_mem_nil⟩
  | cons entry entries ih =>
      obtain ⟨hfresh, hnodup⟩ := List.nodup_cons.mp hnodup
      have hih := ih (putAction m entry.1 (saveAction guid entry.1 entry.2).2) hnodup
      constructor
      · intro habsent
        rw [List.map_cons, List.mem_cons, not_or] at habsent
        exact (hih.1 habsent.2).trans ((find?_putAction ..).trans (if_neg habsent.1))
      · intro b hmem
        cases List.mem_cons.mp hmem with
        | inl hsame =>
            subst hsame
            exact (hih.1 hfresh).trans ((find?_putAction ..).trans (if_pos rfl))
        | inr hmem => exact hih.2 b hmem

theorem find?_saveActions (m : ActionButtonList) (button : UInt8) :
    (saveActions guid m).2.find? button =
      (m.find? button).bind fun b => (saveAction guid button b).2 := by
  have hsaved := find?_saved guid m.entries m m.keys_nodup button
  rw [saveActions_eq]
  cases hfind : m.find? button with
  | none =>
      have habsent : button ∉ m.entries.map (·.1) := by
        intro hmem
        obtain ⟨entry, hentry, hkey⟩ := List.mem_map.mp hmem
        exact Lib.OrderedMap.find?_eq_none.mp hfind entry hentry hkey
      exact (hsaved.1 habsent).trans hfind
  | some b => exact hsaved.2 b (Lib.OrderedMap.find?_eq_some hfind)

theorem settled_saveActions (m : ActionButtonList) (button : UInt8) :
    Settled ((saveActions guid m).2.find? button) := by
  rw [find?_saveActions]
  cases m.find? button with
  | none => trivial
  | some b => exact settled_saveAction button b

/-- Saving shows the client nothing new. -/
theorem visible_saveActions (m : ActionButtonList) :
    visible (saveActions guid m).2 = visible m := by
  apply Lib.OrderedMap.ext_find?
  intro button
  rw [visible, visible, Lib.OrderedMap.find?_filterMap, Lib.OrderedMap.find?_filterMap,
    find?_saveActions]
  cases m.find? button with
  | none => rfl
  | some b => exact shown_saveAction button b

theorem save_spec {s : ActionBar} (h : s.Truthful p guid) :
    Lib.Along CharacterAction.execute CharacterAction.Meets s.table
        (saveActions guid s.actions).1 ∧ (s.save guid).Truthful p guid := by
  have hrun :=
    saved_run s.actions.entries h (fun entry hentry => Lib.OrderedMap.find?_of_mem hentry)
    s.actions.keys_nodup
  simp only [ActionBar.save]
  rw [saveActions_eq]
  exact hrun

end Saving

section Loading

def loaded (p : Prototypes) (row : ActionRow) : ActionButton :=
  if isActionButtonDataValid p row.button row.action row.type = true then
    { packedData := packAction row.action row.type, uState := .unchanged }
  else { packedData := 0, uState := .deleted }

theorem find?_loadAction {m : ActionButtonList} {row : ActionRow}
    (hfresh : m.find? row.button = none) (button : UInt8) :
    (loadAction p m row).find? button =
      if button = row.button then some (loaded p row) else m.find? button := by
  have hset : (({} : ActionButton).setActionAndType row.action row.type).packedData =
      packAction row.action row.type := by
    simp only [ActionButton.setActionAndType]
    split
    · rfl
    · rename_i hsame
      exact (Decidable.not_not.mp fun hne => hsame (Or.inl hne)).symm
  simp only [loadAction, addActionButton, loaded, hfresh, Option.getD_none]
  by_cases hvalid : isActionButtonDataValid p row.button row.action row.type = true
  · simp only [hvalid, Bool.true_eq_false, if_false, if_true, hset]
    split
    · rename_i hsame
      rw [hsame, Lib.OrderedMap.find?_assign_self]
    · rename_i hne
      rw [Lib.OrderedMap.find?_assign_of_ne _ hne, Lib.OrderedMap.find?_assign_of_ne _ hne]
  · simp only [Bool.not_eq_true] at hvalid
    simp only [hvalid, Bool.false_eq_true, if_false, if_true, hfresh, Option.getD_none]
    split
    · rename_i hsame
      rw [hsame, Lib.OrderedMap.find?_assign_self]
    · rename_i hne
      rw [Lib.OrderedMap.find?_assign_of_ne _ hne]

theorem find?_foldl_loadAction (rows : List ActionRow) {m : ActionButtonList}
    (hfresh : ∀ row ∈ rows, m.find? row.button = none)
    (hnodup : (rows.map (·.button)).Nodup) (button : UInt8) :
    (rows.foldl (loadAction p) m).find? button =
      ((rows.find? (·.button = button)).map (loaded p)).or (m.find? button) := by
  induction rows generalizing m with
  | nil => rfl
  | cons row rows ih =>
      obtain ⟨hnew, hnodup⟩ := List.nodup_cons.mp hnodup
      have hown := hfresh row (List.mem_cons_self ..)
      have hrest : ∀ other ∈ rows, (loadAction p m row).find? other.button = none := by
        intro other hother
        rw [find?_loadAction hown, if_neg]
        · exact hfresh other (List.mem_cons_of_mem _ hother)
        · intro hsame
          exact hnew (List.mem_map.mpr ⟨other, hother, hsame⟩)
      rw [List.foldl_cons, ih hrest hnodup, find?_loadAction hown]
      by_cases hsame : row.button = button
      · have hnone : rows.find? (·.button = button) = none := by
          refine List.find?_eq_none.mpr fun other hother => ?_
          intro heq
          have hkey : other.button = row.button := (of_decide_eq_true heq).trans hsame.symm
          exact hnew (List.mem_map.mpr ⟨other, hother, hkey⟩)
        simp [hsame, hnone]
      · simp [hsame, Ne.symm hsame]

theorem mem_select {t : CharacterAction} {row : ActionRow} :
    row ∈ t.select guid ↔ row ∈ t.rows ∧ row.guid = guid := by
  simp [CharacterAction.select]

theorem nodup_select (t : CharacterAction) : ((t.select guid).map (·.button)).Nodup := by
  refine List.pairwise_map.mpr ?_
  have hrows : (t.rows.filter (·.guid = guid)).Pairwise fun r other => r.button ≠ other.button := by
    have hkeys := (List.pairwise_map.mp t.primaryKey).filter (·.guid = guid)
    refine hkeys.imp_of_mem ?_
    intro r other hr hother hne hsame
    have hguid := (List.mem_filter.mp hr).2
    have hguid' := (List.mem_filter.mp hother).2
    simp only [decide_eq_true_eq] at hguid hguid'
    exact hne (Prod.ext (hguid.trans hguid'.symm) hsame)
  exact (List.mergeSort_perm ..).symm.pairwise hrows fun h => h.symm

theorem find?_select (t : CharacterAction) (button : UInt8) :
    (t.select guid).find? (·.button = button) = t.row? (guid, button) := by
  refine Option.ext fun row => ?_
  rw [t.row?_eq_some_iff]
  constructor
  · intro h
    have hmem := mem_select.mp (List.mem_of_find?_eq_some h)
    have hbutton := List.find?_some h
    simp only [decide_eq_true_eq] at hbutton
    exact ⟨hmem.1, Prod.ext hmem.2 hbutton⟩
  · rintro ⟨hmem, hkey⟩
    have hselect : row ∈ t.select guid := mem_select.mpr ⟨hmem, congrArg Prod.fst hkey⟩
    have hbutton : row.button = button := congrArg Prod.snd hkey
    cases hfind : (t.select guid).find? (·.button = button) with
    | none => simpa [hbutton] using List.find?_eq_none.mp hfind row hselect
    | some found =>
        have hfound := List.find?_some hfind
        simp only [decide_eq_true_eq] at hfound
        rw [List.inj_on_of_nodup_map (nodup_select t) (List.mem_of_find?_eq_some hfind) hselect
          (hfound.trans hbutton.symm)]

theorem find?_loadActions (t : CharacterAction) (button : UInt8) :
    (loadActions p (t.select guid)).find? button = (t.row? (guid, button)).map (loaded p) := by
  have hfold := find?_foldl_loadAction (p := p) (t.select guid) (m := .empty)
    (fun _ _ => rfl) (nodup_select t) button
  rw [find?_select] at hfold
  exact hfold.trans (Option.or_none ..)

theorem truthful_load (s : ActionBar) : (s.load p guid).Truthful p guid := by
  intro button
  simp only [ActionBar.load, find?_loadActions]
  cases hrow : s.table.row? (guid, button) with
  | none => rfl
  | some row =>
      have hkey := (s.table.row?_eq_some_iff.mp hrow).2
      have hbutton : row.button = button := congrArg Prod.snd hkey
      have hguid : row.guid = guid := congrArg Prod.fst hkey
      simp only [Option.map_some, loaded]
      split
      · rename_i hvalid
        have hbound := isActionButtonDataValid_bound hvalid
        refine ⟨?_, hbutton ▸ valid_packAction hvalid⟩
        simp only [actionRow]
        rw [getAction_packAction _ hbound, getType_packAction _ hbound, ← hbutton, ← hguid]
      · rfl

end Loading

section Runs

variable {s : ActionBar}

theorem truthful_step (h : s.Truthful p guid) (e : ActionBarEvent) :
    (s.step p guid e).Truthful p guid := by
  cases e with
  | add button action type => exact truthful_addActionButton h button action type
  | remove button => exact truthful_removeActionButton h button
  | save => exact (save_spec h).2
  | load => exact truthful_load s

theorem row?_of_settled (h : s.Truthful p guid)
    (hsettled : ∀ button, Settled (s.actions.find? button))
    (button : UInt8) :
    s.table.row? (guid, button) = ((visible s.actions).find? button).map (actionRow guid button) ∧
      ∀ packedData, (visible s.actions).find? button = some packedData →
        Valid p button packedData := by
  have htrue := h button
  have hstate := hsettled button
  rw [visible, Lib.OrderedMap.find?_filterMap]
  cases hfind : s.actions.find? button with
  | none =>
      rw [hfind] at htrue
      exact ⟨htrue, fun _ hsome => nomatch hsome⟩
  | some b =>
      rw [hfind] at htrue hstate
      obtain ⟨packedData, uState⟩ := b
      cases (show uState = .unchanged from hstate)
      refine ⟨htrue.1, ?_⟩
      intro data hdata
      exact Option.some.inj hdata ▸ htrue.2

theorem select_of_settled (h : s.Truthful p guid)
    (hsettled : ∀ button, Settled (s.actions.find? button)) :
    s.table.select guid = visibleRows guid s.actions := by
  have hmem : ∀ row, row ∈ s.table.select guid ↔ row ∈ visibleRows guid s.actions := by
    intro row
    have hrow := (row?_of_settled h hsettled row.button).1
    have hselect : row ∈ s.table.select guid ↔ s.table.row? (guid, row.button) = some row := by
      rw [mem_select, s.table.row?_eq_some_iff]
      exact and_congr_right fun _ => ⟨fun hguid => Prod.ext hguid rfl, congrArg Prod.fst⟩
    rw [hselect, hrow]
    simp only [visibleRows, List.mem_map, Option.map_eq_some_iff]
    constructor
    · rintro ⟨packedData, hfind, heq⟩
      exact ⟨(row.button, packedData), Lib.OrderedMap.find?_eq_some hfind, heq⟩
    · rintro ⟨entry, hentry, rfl⟩
      exact ⟨entry.2, Lib.OrderedMap.find?_of_mem hentry, rfl⟩
  have hsorted : (visibleRows guid s.actions).Pairwise fun r other => r.button < other.button :=
    List.pairwise_map.mpr (visible s.actions).sorted
  have hordered : (s.table.select guid).Pairwise fun r other => r.button ≤ other.button := by
    refine (List.pairwise_mergeSort (fun a b c hab hbc => ?_) (fun a b => ?_) _).imp
      of_decide_eq_true
    · exact decide_eq_true ((of_decide_eq_true hab).trans (of_decide_eq_true hbc))
    · simpa using le_total a.button b.button
  have hperm : (s.table.select guid).Perm (visibleRows guid s.actions) :=
    (List.perm_ext_iff_of_nodup (List.Nodup.of_map _ (nodup_select s.table))
      (hsorted.imp fun hlt heq => absurd (heq ▸ hlt) (lt_irrefl _))).mpr hmem
  refine hperm.eq_of_pairwise ?_ hordered (hsorted.imp le_of_lt)
  intro row other hrow hother hle hge
  exact List.inj_on_of_nodup_map (nodup_select s.table) hrow ((hmem other).mpr hother)
    (le_antisymm hle hge)

theorem visible_load_of_settled (h : s.Truthful p guid)
    (hsettled : ∀ button, Settled (s.actions.find? button)) :
    visible (s.load p guid).actions = visible s.actions := by
  apply Lib.OrderedMap.ext_find?
  intro button
  obtain ⟨hrow, hvalid⟩ := row?_of_settled h hsettled button
  rw [visible, Lib.OrderedMap.find?_filterMap]
  simp only [ActionBar.load]
  rw [find?_loadActions, hrow]
  cases hfind : (visible s.actions).find? button with
  | none => rfl
  | some packedData =>
      have hload : loaded p (actionRow guid button packedData) = ⟨packedData, .unchanged⟩ := by
        refine (if_pos (hvalid packedData hfind)).trans ?_
        exact congrArg (ActionButton.mk · .unchanged) (packAction_get packedData)
      simp [hload, ActionButton.shown]

theorem shown_setActionAndType (b : ActionButton) (action : UInt32) (type : UInt8) :
    (b.setActionAndType action type).shown = some (packAction action type) := by
  rw [ActionButton.setActionAndType]
  split
  · cases b.uState <;> rfl
  · next hsame =>
      simp only [not_or, not_not] at hsame
      rw [ActionButton.shown, if_pos hsame.2, hsame.1]

theorem visible_add {button : UInt8} {action : UInt32} {type : UInt8}
    (hvalid : isActionButtonDataValid p button action type = true) (m : ActionButtonList)
    (other : UInt8) : (visible (addActionButton p m button action type).2).find? other =
      if other = button then some (packAction action type) else (visible m).find? other := by
  rw [addActionButton, if_neg (by simp [hvalid]), visible, visible,
    Lib.OrderedMap.find?_filterMap, Lib.OrderedMap.find?_filterMap]
  split
  · next hsame =>
      rw [hsame, Lib.OrderedMap.find?_assign_self]
      exact shown_setActionAndType _ action type
  · next hother => rw [Lib.OrderedMap.find?_assign_of_ne _ hother]

theorem visible_load (s : ActionBar) (button : UInt8) :
    (visible (s.load p guid).actions).find? button =
      (s.table.row? (guid, button)).bind fun row =>
        if isActionButtonDataValid p row.button row.action row.type = true then
          some (packAction row.action row.type)
        else none := by
  rw [visible, Lib.OrderedMap.find?_filterMap, ActionBar.load, find?_loadActions]
  cases s.table.row? (guid, button) with
  | none => rfl
  | some row =>
      simp only [Option.map_some, Option.bind_some, loaded]
      split <;> rfl

def start (p : Prototypes) (guid : UInt32) (t : CharacterAction) : ActionBar :=
  ActionBar.load p guid ⟨.empty, t⟩

/-- Rows and visible buttons agree after every save, and no statement misses. A button is shown
when it is added and when its row is loaded, if it is valid. -/
theorem actions_persist (p : Prototypes) (guid : UInt32) (t : CharacterAction)
    (events : List ActionBarEvent) :
    let s := Lib.run (ActionBar.step p guid) (start p guid t) events
    Lib.Along CharacterAction.execute CharacterAction.Meets s.table
        (saveActions guid s.actions).1 ∧
      (s.save guid).table.select guid = visibleRows guid s.actions ∧
      visible (s.save guid).actions = visible s.actions ∧
      visible ((s.save guid).load p guid).actions = visible s.actions ∧
      (∀ button action type other, isActionButtonDataValid p button action type = true →
        (visible (addActionButton p s.actions button action type).2).find? other =
          if other = button then some (packAction action type)
          else (visible s.actions).find? other) ∧
      ∀ button, (visible (s.load p guid).actions).find? button =
        (s.table.row? (guid, button)).bind fun row =>
          if isActionButtonDataValid p row.button row.action row.type = true then
            some (packAction row.action row.type)
          else none := by
  intro s
  have htrue : s.Truthful p guid :=
    Lib.run_always (I := ActionBar.Truthful p guid) (fun _ e h => truthful_step h e)
      (truthful_load _) events
  have hsettled : ∀ button, Settled ((s.save guid).actions.find? button) :=
    settled_saveActions s.actions
  have hvisible : visible (s.save guid).actions = visible s.actions := visible_saveActions s.actions
  obtain ⟨hmeets, hsaved⟩ := save_spec htrue
  refine ⟨hmeets, ?_, hvisible, ?_, fun button action type other hvalid =>
    visible_add hvalid s.actions other, visible_load s⟩
  · rw [select_of_settled hsaved hsettled, visibleRows, visibleRows, hvisible]
  · exact (visible_load_of_settled hsaved hsettled).trans hvisible

end Runs

end MasterPlayer

end TortoiseWow
