import Mathlib
import TortoiseWow.Lib.FixedWidth
import TortoiseWow.Social.SocialMgr

/-!
What the table keeps of the lists. As long as no character is added to or taken
from one list while it stands on the other, a row and the entry it was written
for carry the same flags and a login gives back what the logout left. The limits
of both lists hold in every run: a row never carries more than one flag.
-/

namespace TortoiseWow.Social

open Lib

section Flags

theorem value_and (flag other : SocialFlag) :
    flag.value &&& other.value = if other = flag then flag.value else 0 := by
  cases flag <;> cases other <;> rfl

theorem value_outside (flag other : SocialFlag) (h : other ≠ flag) :
    ~~~flag.value &&& other.value = other.value := by
  cases flag <;> cases other <;> first | rfl | exact absurd rfl h

/-- Adding to one list leaves the other as it was. -/
theorem hasFlag_or_of_ne (flags : UInt32) {flag other : SocialFlag} (h : other ≠ flag) :
    hasFlag (flags ||| flag.value) other = hasFlag flags other := by
  rw [hasFlag, or_and_uint32, value_and, if_neg h, UInt32.or_zero, hasFlag]

/-- So does taking from it. -/
theorem hasFlag_without_of_ne (flags : UInt32) {flag other : SocialFlag} (h : other ≠ flag) :
    hasFlag (flags &&& ~~~flag.value) other = hasFlag flags other := by
  rw [hasFlag, UInt32.and_assoc, value_outside flag other h, hasFlag]

theorem hasFlag_without_self (flags : UInt32) (flag : SocialFlag) :
    hasFlag (flags &&& ~~~flag.value) flag = false := by
  have none : ~~~flag.value &&& flag.value = 0 := by cases flag <;> rfl
  rw [hasFlag, UInt32.and_assoc, none, UInt32.and_zero]
  rfl

/-- An entry of one list alone. -/
def Single (flags : UInt32) : Prop := ∃ flag : SocialFlag, flags = flag.value

theorem Single.eq_of_inside {flags : UInt32} {flag : SocialFlag} (single : Single flags)
    (inside : flags &&& ~~~flag.value = 0) : flags = flag.value := by
  obtain ⟨other, rfl⟩ := single
  cases flag <;> cases other <;> first | rfl | exact absurd inside (by decide)

theorem Single.stored {flags : UInt32} (single : Single flags) :
    flags.toUInt8.toUInt32 = flags := by
  obtain ⟨flag, rfl⟩ := single
  cases flag <;> rfl

theorem Single.hasFlag_iff {flags : UInt32} (single : Single flags) :
    hasFlag flags .friend = !hasFlag flags .ignored := by
  obtain ⟨flag, rfl⟩ := single
  cases flag <;> rfl

end Flags

section Limits

open PlayerSocial

/-- Both lists fit the limits of the client. -/
def Within (social : PlayerSocialMap) : Prop :=
  ∀ flag, getNumberOfSocialsWithFlag social flag ≤ flag.limit

theorem within_empty : Within UnorderedMap.empty := fun _ => Nat.zero_le _

theorem number_assign (social : PlayerSocialMap) (friendGuid flags : UInt32) (flag : SocialFlag) :
    getNumberOfSocialsWithFlag (social.assign friendGuid flags) flag =
      getNumberOfSocialsWithFlag (social.erase friendGuid) flag +
        if hasFlag flags flag then 1 else 0 := by
  rw [getNumberOfSocialsWithFlag, (social.perm_assign friendGuid flags).countP_eq,
    List.countP_cons]
  rfl

theorem number_present {social : PlayerSocialMap} {friendGuid flags : UInt32}
    (h : social.find? friendGuid = some flags) (flag : SocialFlag) :
    getNumberOfSocialsWithFlag social flag =
      getNumberOfSocialsWithFlag (social.erase friendGuid) flag +
        if hasFlag flags flag then 1 else 0 := by
  rw [getNumberOfSocialsWithFlag, (UnorderedMap.perm_of_find? h).countP_eq, List.countP_cons]
  rfl

theorem number_erase_le (social : PlayerSocialMap) (friendGuid : UInt32) (flag : SocialFlag) :
    getNumberOfSocialsWithFlag (social.erase friendGuid) flag ≤
      getNumberOfSocialsWithFlag social flag :=
  List.filter_sublist.countP_le

theorem within_add {social : PlayerSocialMap} (h : Within social) (guid friendGuid : UInt32)
    (flag : SocialFlag) (table : List SocialRow) :
    Within (addToSocialList guid friendGuid flag social table).2.1 := by
  simp only [addToSocialList]
  split
  · exact h
  · rename_i room
    have base := number_erase_le social friendGuid
    split
    · rename_i flags found
      intro other
      rw [number_assign]
      by_cases same : other = flag
      · subst same
        have := base other
        split <;> omega
      · rw [hasFlag_or_of_ne flags same, ← number_present found]
        exact h other
    · intro other
      rw [number_assign]
      by_cases same : other = flag
      · subst same
        have := base other
        split <;> omega
      · rw [hasFlag_or_of_ne 0 same]
        have none : hasFlag 0 other = false := by cases other <;> rfl
        rw [none]
        exact le_trans (base other) (h other)

theorem within_remove {social : PlayerSocialMap} (h : Within social) (guid friendGuid : UInt32)
    (flag : SocialFlag) (table : List SocialRow) :
    Within (removeFromSocialList guid friendGuid flag social table).1 := by
  simp only [removeFromSocialList]
  have base := number_erase_le social friendGuid
  split
  · exact h
  · rename_i flags found
    split
    · exact fun other => le_trans (base other) (h other)
    · intro other
      rw [number_assign]
      by_cases same : other = flag
      · rw [same, hasFlag_without_self]
        exact le_trans (base flag) (h flag)
      · rw [hasFlag_without_of_ne flags same, ← number_present found]
        exact h other

/-- The counters of a load bound the lists under construction. -/
structure Loading.Counted (loading : Loading) : Prop where
  friends : getNumberOfSocialsWithFlag loading.social .friend ≤ loading.friendCounter
  ignores : getNumberOfSocialsWithFlag loading.social .ignored ≤ loading.ignoreCounter
  friendLimit : loading.friendCounter ≤ socialMgrFriendLimit
  ignoreLimit : loading.ignoreCounter ≤ socialMgrIgnoreLimit

theorem Loading.Counted.loadRow {loading : Loading} (h : loading.Counted)
    (known : UInt32 → Bool) {row : UInt32 × UInt32} (single : Single row.2) :
    (loadRow known loading row).Counted := by
  have grows (flag : SocialFlag) := number_assign loading.social row.1 row.2.toUInt8.toUInt32 flag
  have base := number_erase_le loading.social row.1
  have other := single.hasFlag_iff
  simp only [single.stored] at grows
  simp only [Social.loadRow]
  split
  · exact h
  · rename_i ignoreRoom
    split
    · exact h
    · rename_i friendRoom
      split
      · exact h
      · rw [single.stored]
        have friends := h.friends
        have ignores := h.ignores
        have friendLimit := h.friendLimit
        have ignoreLimit := h.ignoreLimit
        have hbase := base .friend
        have hbase' := base .ignored
        split
        · rename_i listed
          rw [listed] at other
          have hfriend := grows .friend
          have hignored := grows .ignored
          rw [other] at hfriend
          rw [listed] at hignored
          simp only [listed, true_and, not_le] at ignoreRoom
          constructor <;> simp only [Bool.not_true, if_true, if_false,
            Bool.false_eq_true] at * <;> omega
        · rename_i unlisted
          have unlisted : hasFlag row.2 .ignored = false := by simpa using unlisted
          rw [unlisted] at other
          have hfriend := grows .friend
          have hignored := grows .ignored
          rw [other] at hfriend
          rw [unlisted] at hignored
          simp only [other, Bool.not_false, true_and, not_le] at friendRoom
          constructor <;> simp only [Bool.not_false, if_true, if_false,
            Bool.false_eq_true] at * <;> omega

theorem counted_foldl {known : UInt32 → Bool} {rows : List (UInt32 × UInt32)} {loading : Loading}
    (h : loading.Counted) (single : ∀ row ∈ rows, Single row.2) :
    (rows.foldl (loadRow known) loading).Counted := by
  induction rows generalizing loading with
  | nil => exact h
  | cons row rows ih =>
      apply ih (h.loadRow known (single row List.mem_cons_self))
      exact fun other mem => single other (List.mem_cons_of_mem _ mem)

theorem within_load (known : UInt32 → Bool) {rows : List (UInt32 × UInt32)}
    (single : ∀ row ∈ rows, Single row.2) : Within (loadFromDB known rows) := by
  have start : Loading.Counted ⟨UnorderedMap.empty, 0, 0⟩ :=
    ⟨Nat.le_refl _, Nat.le_refl _, Nat.zero_le _, Nat.zero_le _⟩
  have counted : (rows.foldl (loadRow known) ⟨UnorderedMap.empty, 0, 0⟩).Counted :=
    counted_foldl start single
  intro flag
  cases flag with
  | friend => exact le_trans counted.friends counted.friendLimit
  | ignored => exact le_trans counted.ignores counted.ignoreLimit

end Limits

section Rows

variable {guid friendGuid flags : UInt32} {table : List SocialRow}

theorem mem_selectSocial {entry : UInt32 × UInt32} :
    entry ∈ selectSocial guid table ↔ ⟨guid, entry.1, entry.2⟩ ∈ table := by
  simp only [selectSocial, List.mem_filterMap]
  constructor
  · rintro ⟨row, mem, kept⟩
    split at kept
    · rename_i owner
      cases kept
      rw [← owner]
      exact mem
    · cases kept
  · intro mem
    exact ⟨_, mem, if_pos rfl⟩

theorem mem_insertSocial {row : SocialRow} (h : row ∈ insertSocial guid friendGuid flags table) :
    row ∈ table ∨ row.flags = flags := by
  simp only [insertSocial, insertRow] at h
  split at h
  · exact Or.inl h
  · rcases List.mem_append.mp h with h | h
    · exact Or.inl h
    · exact Or.inr (by rw [List.mem_singleton.mp h])

theorem mem_updateSocial {row : SocialRow} (h : row ∈ updateSocial guid friendGuid flags table) :
    row ∈ table ∨ row.flags = flags := by
  simp only [updateSocial, updateRows] at h
  split at h
  · obtain ⟨old, mem, rfl⟩ := List.mem_map.mp h
    split
    · exact Or.inr rfl
    · exact Or.inl mem
  · exact Or.inl h

theorem mem_deleteSocial {row : SocialRow} (h : row ∈ deleteSocial guid friendGuid table) :
    row ∈ table :=
  List.mem_of_mem_filter h

theorem selectSocial_insert (fresh : ⟨guid, friendGuid, flags⟩ ∉ table) (owner : UInt32) :
    selectSocial owner (insertSocial guid friendGuid flags table) =
      selectSocial owner table ++ if guid = owner then [(friendGuid, flags)] else [] := by
  rw [insertSocial, insertRow, List.map_id, id, if_neg fresh, Option.getD_some, selectSocial,
    List.filterMap_append]
  split
  · rename_i same
    simp [selectSocial, same]
  · rename_i other
    simp [selectSocial, other]

/-- An update that writes what is there changes nothing, whether or not it is refused. -/
theorem updateSocial_same
    (same : ∀ row ∈ table, isRowOf guid friendGuid row = true → row.flags = flags) :
    updateSocial guid friendGuid flags table = table := by
  have unchanged : (table.map fun row =>
      if isRowOf guid friendGuid row then { row with flags := flags } else row) = table := by
    refine List.map_congr_left (g := id) ?_ |>.trans (List.map_id table)
    intro row mem
    split
    · rename_i hit
      rw [← same row mem hit]
      rfl
    · rfl
  rw [updateSocial, updateRows, unchanged]
  split <;> rfl

theorem selectSocial_cons (owner : UInt32) (row : SocialRow) :
    selectSocial owner (row :: table) =
      if row.guid = owner then (row.friendGuid, row.flags) :: selectSocial owner table
      else selectSocial owner table := by
  rw [selectSocial, List.filterMap_cons]
  by_cases mine : row.guid = owner
  · simp only [if_pos mine]
    rfl
  · simp only [if_neg mine]
    rfl

theorem deleteSocial_cons (row : SocialRow) :
    deleteSocial guid friendGuid (row :: table) =
      if isRowOf guid friendGuid row then deleteSocial guid friendGuid table
      else row :: deleteSocial guid friendGuid table := by
  rw [deleteSocial, deleteRows, List.filter_cons]
  by_cases hit : isRowOf guid friendGuid row = true
  · rw [if_neg (by simp [hit]), if_pos hit]
    rfl
  · rw [if_pos (by simpa using hit), if_neg hit]
    rfl

theorem selectSocial_delete (owner : UInt32) :
    selectSocial owner (deleteSocial guid friendGuid table) =
      if guid = owner then (selectSocial owner table).filter (·.1 ≠ friendGuid)
      else selectSocial owner table := by
  induction table with
  | nil => split <;> rfl
  | cons row table ih =>
      rw [deleteSocial_cons, selectSocial_cons]
      by_cases mine : row.guid = owner
      · rw [if_pos mine]
        by_cases same : guid = owner
        · rw [if_pos same] at ih ⊢
          by_cases hit : row.friendGuid = friendGuid
          · rw [if_pos (by simp [isRowOf, mine, same, hit]),
              List.filter_cons_of_neg (by simp [hit]),
              ih]
          · rw [if_neg (by simp [isRowOf, hit]), selectSocial_cons, if_pos mine,
              List.filter_cons_of_pos (by simp [hit]), ih]
        · rw [if_neg same] at ih ⊢
          have other : row.guid ≠ guid := fun eq => same (eq.symm.trans mine)
          rw [if_neg (by simp [isRowOf, other]), selectSocial_cons, if_pos mine, ih]
      · rw [if_neg mine]
        split
        · exact ih
        · rw [selectSocial_cons, if_neg mine, ih]

end Rows

section Restoring

open PlayerSocial

variable {known : UInt32 → Bool}

theorem foldl_loadRow {rows : List (UInt32 × UInt32)} {loading : Loading}
    (listed : ∀ row ∈ rows, known row.1 = true ∧ Single row.2)
    (distinct : ((loading.social.entries ++ rows).map (·.1)).Nodup)
    (friends : loading.friendCounter + rows.countP (fun row => hasFlag row.2 .friend) ≤
      socialMgrFriendLimit)
    (ignores : loading.ignoreCounter + rows.countP (fun row => hasFlag row.2 .ignored) ≤
      socialMgrIgnoreLimit) :
    (rows.foldl (loadRow known) loading).social.entries = loading.social.entries ++ rows := by
  induction rows generalizing loading with
  | nil => simp
  | cons row rows ih =>
      obtain ⟨hknown, single⟩ := listed row List.mem_cons_self
      have rest := fun other mem => listed other (List.mem_cons_of_mem row mem)
      have fresh : loading.social.find? row.1 = none := by
        apply UnorderedMap.find?_eq_none_iff.mpr
        rw [List.map_append, List.map_cons] at distinct
        have middle := List.perm_middle.nodup_iff.mp distinct
        intro mem
        exact (List.nodup_cons.mp middle).1 (List.mem_append_left _ mem)
      have pushed := UnorderedMap.assign_of_none fresh row.2
      rw [List.countP_cons] at friends ignores
      obtain ⟨flag, hflag⟩ := id single
      rw [List.foldl_cons]
      cases flag with
      | friend =>
          have isFriend : hasFlag row.2 .friend = true := hflag ▸ rfl
          have notIgnored : hasFlag row.2 .ignored = false := hflag ▸ rfl
          rw [isFriend, if_pos rfl] at friends
          rw [notIgnored, if_neg Bool.false_ne_true] at ignores
          have loaded : loadRow known loading row =
              { loading with
                social := loading.social.assign row.1 row.2
                friendCounter := loading.friendCounter + 1 } := by
            rw [loadRow, if_neg (by simp [notIgnored]), if_neg (by simp; omega),
              if_neg (by simp [hknown]), notIgnored, single.stored]
            rfl
          rw [loaded, ih rest ?_ ?_ ?_, pushed, List.append_assoc, List.singleton_append]
          · rw [pushed, List.append_assoc]
            exact distinct
          · simp only
            omega
          · exact ignores
      | ignored =>
          have notFriend : hasFlag row.2 .friend = false := hflag ▸ rfl
          have isIgnored : hasFlag row.2 .ignored = true := hflag ▸ rfl
          rw [isIgnored, if_pos rfl] at ignores
          rw [notFriend, if_neg Bool.false_ne_true] at friends
          have loaded : loadRow known loading row =
              { loading with
                social := loading.social.assign row.1 row.2
                ignoreCounter := loading.ignoreCounter + 1 } := by
            rw [loadRow, if_neg (by simp; omega), if_neg (by simp [notFriend]),
              if_neg (by simp [hknown]), isIgnored, single.stored]
            rfl
          rw [loaded, ih rest ?_ ?_ ?_, pushed, List.append_assoc, List.singleton_append]
          · rw [pushed, List.append_assoc]
            exact distinct
          · exact friends
          · simp only
            omega

structure Kept (known : UInt32 → Bool) (table : List SocialRow) (guid : UInt32)
    (social : PlayerSocialMap) : Prop where
  stored : (selectSocial guid table).Perm social.entries
  within : Within social
  listed : ∀ entry ∈ social.entries, known entry.1 = true ∧ Single entry.2

theorem length_of_single {rows : List (UInt32 × UInt32)} (single : ∀ row ∈ rows, Single row.2) :
    rows.length = rows.countP (fun row => hasFlag row.2 .friend) +
      rows.countP (fun row => hasFlag row.2 .ignored) := by
  induction rows with
  | nil => rfl
  | cons row rows ih =>
      have rest := ih fun other mem => single other (List.mem_cons_of_mem _ mem)
      have one := (single row List.mem_cons_self).hasFlag_iff
      rw [List.length_cons, rest, List.countP_cons, List.countP_cons, one]
      cases hasFlag row.2 .ignored
      · simp only [Bool.not_false, if_true, if_false, Bool.false_eq_true]
        omega
      · simp only [Bool.not_true, if_true, if_false, Bool.false_eq_true]
        omega

theorem Kept.load {table : List SocialRow} {guid : UInt32} {social : PlayerSocialMap}
    (h : Kept known table guid social) {result : List (UInt32 × UInt32)}
    (rows : result.Perm (selectSocial guid table)) :
    (loadFromDB known (result.take 255)).entries = result := by
  have same := rows.trans h.stored
  have listed : ∀ row ∈ result, known row.1 = true ∧ Single row.2 :=
    fun row mem => h.listed row (same.mem_iff.mp mem)
  have friends : result.countP (fun row => hasFlag row.2 .friend) ≤ socialMgrFriendLimit := by
    rw [same.countP_eq]
    exact h.within .friend
  have ignores : result.countP (fun row => hasFlag row.2 .ignored) ≤ socialMgrIgnoreLimit := by
    rw [same.countP_eq]
    exact h.within .ignored
  have short : result.length ≤ 255 := by
    rw [length_of_single fun row mem => (listed row mem).2]
    exact le_trans (Nat.add_le_add friends ignores) (by decide)
  have distinct : (result.map (·.1)).Nodup := (same.map _).nodup_iff.mpr social.nodup
  rw [List.take_of_length_le short]
  exact foldl_loadRow listed distinct (by simpa using friends) (by simpa using ignores)

end Restoring

section Runs

open PlayerSocial SocialMgr

variable (known : UInt32 → Bool)

/-- What holds after any events: lists within their limits and rows with one flag. -/
structure Tidy (mgr : SocialMgr) : Prop where
  within : ∀ guid social, mgr.socialMap guid = some social → Within social
  single : ∀ row ∈ mgr.table, Single row.flags

theorem Tidy.put {mgr : SocialMgr} (h : Tidy mgr) {guid : UInt32} {social : Option PlayerSocialMap}
    (fits : ∀ new, social = some new → Within new) {table : List SocialRow}
    (single : ∀ row ∈ table, Single row.flags) :
    Tidy { mgr.put guid social with table := table } where
  within other new online := by
    simp only [SocialMgr.put] at online
    by_cases same : other = guid
    · rw [same, Function.update_self] at online
      exact fits new online
    · rw [Function.update_of_ne same] at online
      exact h.within other new online
  single := single

theorem single_add {guid friendGuid : UInt32} {flag : SocialFlag} {social : PlayerSocialMap}
    {table : List SocialRow} (h : ∀ row ∈ table, Single row.flags) :
    ∀ row ∈ (addToSocialList guid friendGuid flag social table).2.2, Single row.flags := by
  intro row mem
  simp only [addToSocialList] at mem
  split at mem
  · exact h row mem
  · split at mem
    · exact (mem_updateSocial mem).elim (h row) fun written => ⟨flag, written⟩
    · exact (mem_insertSocial mem).elim (h row) fun written => ⟨flag, written⟩

theorem single_remove {guid friendGuid : UInt32} {flag : SocialFlag} {social : PlayerSocialMap}
    {table : List SocialRow} (h : ∀ row ∈ table, Single row.flags) :
    ∀ row ∈ (removeFromSocialList guid friendGuid flag social table).2, Single row.flags := by
  intro row mem
  simp only [removeFromSocialList] at mem
  split at mem
  · exact h row mem
  · split at mem
    · exact h row (mem_deleteSocial mem)
    · exact (mem_updateSocial mem).elim (h row) fun written => ⟨flag, written⟩

theorem Tidy.step {mgr : SocialMgr} (h : Tidy mgr) (event : Event) :
    Tidy (mgr.step known event) := by
  cases event with
  | addToSocialList guid friendGuid flag =>
      simp only [SocialMgr.step]
      split
      · exact h
      · rename_i social online
        split
        · refine h.put ?_ (single_add h.single)
          rintro new ⟨⟩
          exact within_add (h.within guid social online) guid friendGuid flag mgr.table
        · exact h
  | removeFromSocialList guid friendGuid flag =>
      simp only [SocialMgr.step]
      split
      · exact h
      · rename_i social online
        refine h.put ?_ (single_remove h.single)
        rintro new ⟨⟩
        exact within_remove (h.within guid social online) guid friendGuid flag mgr.table
  | logout guid =>
      simp only [SocialMgr.step]
      split
      · exact h
      · have out : Tidy { mgr.put guid none with table := mgr.table } :=
          h.put (fun _ online => Option.noConfusion rfl (heq_of_eq online)) h.single
        exact ⟨out.within, out.single⟩
  | login guid result =>
      simp only [SocialMgr.step]
      split
      · exact h
      · split
        · rename_i rows
          refine h.put ?_ h.single
          rintro new ⟨⟩
          apply within_load
          intro row mem
          have inTable := (List.isPerm_iff.mp rows).mem_iff.mp (List.mem_of_mem_take mem)
          exact h.single _ (mem_selectSocial.mp inTable)
        · exact h

theorem tidy_initial : Tidy SocialMgr.initial where
  within _ _ online := nomatch online
  single _ mem := absurd mem List.not_mem_nil

/-- No character is put on or taken from a list while it stands on the other one. -/
def OnOneList (mgr : SocialMgr) : Event → Prop
  | .addToSocialList guid friendGuid flag =>
      ∀ social ∈ mgr.socialMap guid, getNumberOfSocialsWithFlag social flag < flag.limit →
        ∀ flags ∈ social.find? friendGuid, flags &&& ~~~flag.value = 0
  | .removeFromSocialList guid friendGuid flag =>
      ∀ social ∈ mgr.socialMap guid,
        ∀ flags ∈ social.find? friendGuid, flags &&& ~~~flag.value = 0
  | .logout _ => True
  | .login _ _ => True

variable {known}

theorem kept_add {table : List SocialRow} {guid friendGuid : UInt32} {flag : SocialFlag}
    {social : PlayerSocialMap} (h : Kept known table guid social) (found : known friendGuid = true)
    (one : getNumberOfSocialsWithFlag social flag < flag.limit →
      ∀ flags ∈ social.find? friendGuid, flags &&& ~~~flag.value = 0) :
    Kept known (addToSocialList guid friendGuid flag social table).2.2 guid
        (addToSocialList guid friendGuid flag social table).2.1 ∧
      ∀ other, other ≠ guid →
        selectSocial other (addToSocialList guid friendGuid flag social table).2.2 =
          selectSocial other table := by
  have within := within_add h.within guid friendGuid flag table
  simp only [addToSocialList] at within ⊢
  split
  · exact ⟨h, fun _ _ => rfl⟩
  · rename_i room
    rw [if_neg room] at within
    have one := one (not_le.mp room)
    split
    · rename_i flags present
      have entry := UnorderedMap.find?_eq_some_iff.mp present
      -- the character is on this list already, so nothing changes on either side
      have listed : flags = flag.value := (h.listed _ entry).2.eq_of_inside (one flags present)
      have combined : flags ||| flag.value = flag.value := by rw [listed, UInt32.or_self]
      have row : ∀ row ∈ table, isRowOf guid friendGuid row = true → row.flags = flag.value := by
        intro row mem hit
        simp only [isRowOf, Bool.and_eq_true, beq_iff_eq] at hit
        have selected : (row.friendGuid, row.flags) ∈ selectSocial guid table :=
          mem_selectSocial.mpr (hit.1 ▸ mem)
        have inMap := h.stored.mem_iff.mp selected
        rw [hit.2] at inMap
        have same := UnorderedMap.find?_eq_some_iff.mpr inMap
        rw [present, listed] at same
        exact (Option.some.inj same).symm
      have kept : (social.assign friendGuid flag.value).entries.Perm social.entries := by
        have before := UnorderedMap.perm_of_find? present
        rw [listed] at before
        exact (social.perm_assign friendGuid flag.value).trans before.symm
      simp only [present] at within
      rw [updateSocial_same row, combined]
      rw [combined] at within
      refine ⟨⟨h.stored.trans kept.symm, within, ?_⟩, fun _ _ => rfl⟩
      exact fun entry mem => h.listed entry (kept.mem_iff.mp mem)
    · rename_i absent
      have fresh : (⟨guid, friendGuid, flag.value⟩ : SocialRow) ∉ table := by
        intro mem
        have selected : (friendGuid, flag.value) ∈ selectSocial guid table :=
          mem_selectSocial.mpr mem
        have there := UnorderedMap.find?_eq_some_iff.mpr (h.stored.mem_iff.mp selected)
        rw [absent] at there
        cases there
      simp only [absent, UInt32.zero_or] at within ⊢
      have pushed := UnorderedMap.assign_of_none absent flag.value
      refine ⟨⟨?_, within, ?_⟩, ?_⟩
      · rw [selectSocial_insert fresh, if_pos rfl, pushed]
        exact h.stored.append_right _
      · rw [pushed]
        intro entry mem
        rcases List.mem_append.mp mem with mem | mem
        · exact h.listed entry mem
        · rw [List.mem_singleton.mp mem]
          exact ⟨found, flag, rfl⟩
      · intro other apart
        rw [selectSocial_insert fresh, if_neg (Ne.symm apart), List.append_nil]

theorem kept_remove {table : List SocialRow} {guid friendGuid : UInt32} {flag : SocialFlag}
    {social : PlayerSocialMap} (h : Kept known table guid social)
    (one : ∀ flags ∈ social.find? friendGuid, flags &&& ~~~flag.value = 0) :
    Kept known (removeFromSocialList guid friendGuid flag social table).2 guid
        (removeFromSocialList guid friendGuid flag social table).1 ∧
      ∀ other, other ≠ guid →
        selectSocial other (removeFromSocialList guid friendGuid flag social table).2 =
          selectSocial other table := by
  have within := within_remove h.within guid friendGuid flag table
  simp only [removeFromSocialList] at within ⊢
  split
  · exact ⟨h, fun _ _ => rfl⟩
  · rename_i flags present
    simp only [present] at within
    rw [if_pos (one flags present)] at within ⊢
    refine ⟨⟨?_, within, ?_⟩, ?_⟩
    · rw [selectSocial_delete, if_pos rfl]
      exact h.stored.filter _
    · exact fun entry mem => h.listed entry (List.mem_of_mem_filter mem)
    · intro other apart
      rw [selectSocial_delete, if_neg (Ne.symm apart)]

theorem Kept.other {table table' : List SocialRow} {guid : UInt32} {social : PlayerSocialMap}
    (h : Kept known table guid social) (same : selectSocial guid table' = selectSocial guid table) :
    Kept known table' guid social :=
  ⟨same ▸ h.stored, h.within, h.listed⟩

/-- Every list is stored, of those who are in the world and of those who left. -/
def AllKept (known : UInt32 → Bool) (mgr : SocialMgr) : Prop :=
  ∀ guid, Kept known mgr.table guid (mgr.had guid)

theorem AllKept.put {mgr : SocialMgr} (h : AllKept known mgr) {guid : UInt32}
    {social : PlayerSocialMap} {table : List SocialRow} (kept : Kept known table guid social)
    (others : ∀ other, other ≠ guid → selectSocial other table = selectSocial other mgr.table) :
    AllKept known { mgr.put guid (some social) with table := table } := by
  intro other
  simp only [SocialMgr.had, SocialMgr.put]
  by_cases same : other = guid
  · rw [same, Function.update_self]
    exact kept
  · rw [Function.update_of_ne same]
    exact (h other).other (others other same)

theorem AllKept.step {mgr : SocialMgr} (h : AllKept known mgr) {event : Event}
    (one : OnOneList mgr event) : AllKept known (mgr.step known event) := by
  cases event with
  | addToSocialList guid friendGuid flag =>
      simp only [SocialMgr.step]
      split
      · exact h
      · rename_i social online
        split
        · rename_i found
          have mine := h guid
          rw [SocialMgr.had, online] at mine
          have kept := kept_add mine found (one social online)
          exact h.put kept.1 kept.2
        · exact h
  | removeFromSocialList guid friendGuid flag =>
      simp only [SocialMgr.step]
      split
      · exact h
      · rename_i social online
        have mine := h guid
        rw [SocialMgr.had, online] at mine
        have kept := kept_remove mine (one social online)
        exact h.put kept.1 kept.2
  | logout guid =>
      simp only [SocialMgr.step]
      split
      · exact h
      · rename_i social online
        intro other
        have mine := h other
        simp only [SocialMgr.had, SocialMgr.put] at mine ⊢
        by_cases same : other = guid
        · rw [same, online] at mine
          rw [same, Function.update_self, Function.update_self]
          exact mine
        · rw [Function.update_of_ne same, Function.update_of_ne same]
          exact mine
  | login guid result =>
      simp only [SocialMgr.step]
      split
      · exact h
      · rename_i offline
        split
        · rename_i rows
          have rows := List.isPerm_iff.mp rows
          have mine := h guid
          have loaded := mine.load rows
          have same : (loadFromDB known (result.take 255)).entries.Perm (mgr.had guid).entries := by
            rw [loaded]
            exact rows.trans mine.stored
          refine h.put ⟨mine.stored.trans same.symm, ?_, ?_⟩ fun _ _ => rfl
          · intro flag
            rw [getNumberOfSocialsWithFlag, same.countP_eq]
            exact mine.within flag
          · exact fun entry mem => mine.listed entry (same.mem_iff.mp mem)
        · exact h

theorem allKept_initial : AllKept known SocialMgr.initial := fun _ =>
  ⟨List.Perm.refl _, within_empty, fun _ mem => absurd mem List.not_mem_nil⟩

def RowsMatch (mgr : SocialMgr) (guid : UInt32) : Prop :=
  ∀ social, mgr.socialMap guid = some social → (selectSocial guid mgr.table).Perm social.entries

def Restores (known : UInt32 → Bool) (mgr : SocialMgr) (guid : UInt32) : Prop :=
  ∀ result : List (UInt32 × UInt32), result.Perm (selectSocial guid mgr.table) → ∀ friendGuid,
    (loadFromDB known (result.take 255)).find? friendGuid = (mgr.had guid).find? friendGuid

theorem AllKept.restores {mgr : SocialMgr} (h : AllKept known mgr) (guid : UInt32) :
    Restores known mgr guid := by
  intro result rows friendGuid
  apply UnorderedMap.find?_of_perm
  rw [(h guid).load rows]
  exact rows.trans (h guid).stored

theorem AllKept.rowsMatch {mgr : SocialMgr} (h : AllKept known mgr) (guid : UInt32) :
    RowsMatch mgr guid := by
  intro social online
  have mine := (h guid).stored
  rwa [SocialMgr.had, online] at mine

/-- After any events the lists keep their limits, and after events that touch each character
on one list only, the table holds the lists and a login brings them back. -/
theorem lists_persist (known : UInt32 → Bool) (events : List Event) :
    (∀ guid social, (run (SocialMgr.step known) .initial events).socialMap guid = some social →
      Within social) ∧
    (Along (SocialMgr.step known) OnOneList .initial events →
      ∀ guid, RowsMatch (run (SocialMgr.step known) .initial events) guid ∧
        Restores known (run (SocialMgr.step known) .initial events) guid) := by
  constructor
  · exact (run_always (fun _ event h => h.step known event) tidy_initial events).within
  · intro one
    have kept : AllKept known (run (SocialMgr.step known) .initial events) :=
      run_invariant (fun _ _ h => h.step) allKept_initial one
    exact fun guid => ⟨kept.rowsMatch guid, kept.restores guid⟩

/-- A friend who is taken off the list and ignored later, and another who is taken off and comes
back, with a second login in between. -/
def relogEvents : List Event :=
  [.login 1 [], .addToSocialList 1 2 .friend, .addToSocialList 1 3 .friend,
    .addToSocialList 1 4 .ignored, .removeFromSocialList 1 2 .friend, .logout 1,
    .login 1 [(4, 2), (3, 1)], .addToSocialList 1 2 .ignored, .removeFromSocialList 1 3 .friend,
    .addToSocialList 1 3 .friend, .logout 1]

theorem lists_persist_over_relog :
    let mgr := run (SocialMgr.step fun _ => true) .initial relogEvents
    ((mgr.had 1).find? 2 = some 2 ∧ (mgr.had 1).find? 3 = some 1 ∧ (mgr.had 1).find? 4 = some 2) ∧
      ∀ guid, RowsMatch mgr guid ∧ Restores (fun _ => true) mgr guid := by
  refine ⟨by decide, (lists_persist (fun _ => true) relogEvents).2 ⟨trivial, ?_, ?_, ?_, ?_,
    trivial, trivial, ?_, ?_, ?_, trivial, trivial⟩⟩
  · rintro social ⟨⟩ - flags ⟨⟩
  · rintro social ⟨⟩ - flags ⟨⟩
  · rintro social ⟨⟩ - flags ⟨⟩
  · rintro social ⟨⟩ flags ⟨⟩
    decide
  · rintro social ⟨⟩ - flags ⟨⟩
  · rintro social ⟨⟩ flags ⟨⟩
    decide
  · rintro social ⟨⟩ - flags ⟨⟩

/-- A friend that is ignored as well: the row holds the second flag alone, and so does the
list after the next login. -/
theorem friend_forgotten_when_ignored :
    ¬ RowsMatch (run (SocialMgr.step fun _ => true) .initial
      [.login 1 [], .addToSocialList 1 2 .friend, .addToSocialList 1 2 .ignored]) 1 ∧
    ¬ Restores (fun _ => true) (run (SocialMgr.step fun _ => true) .initial
      [.login 1 [], .addToSocialList 1 2 .friend, .addToSocialList 1 2 .ignored, .logout 1]) 1 := by
  constructor
  · intro same
    have rows := same _ rfl
    exact absurd (List.isPerm_iff.mpr rows) (by decide)
  · intro restored
    exact absurd (restored [(2, 2)] (List.Perm.refl _) 2) (by decide)

end Runs

end TortoiseWow.Social
