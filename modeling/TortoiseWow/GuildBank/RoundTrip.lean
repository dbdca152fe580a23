import TortoiseWow.GuildBank.Dispatch
import TortoiseWow.Lib.Decimal

/-!
An item through the guild bank: `CloneItem` into a bank item, `AddToDB` into a row of
`guild_bank`, `LoadFromDB` from it, and `CloneItem` into a new item. Every number is printed
as unsigned and read back from the text that the column returns.
-/

namespace TortoiseWow.GuildBank

open Lib

structure IntColumn where
  lo : Int
  hi : Int
  zero : lo ≤ 0 ∧ 0 ≤ hi := by decide

def tinyint : IntColumn := { lo := -128, hi := 127 }
def tinyintUnsigned : IntColumn := { lo := 0, hi := 255 }
def smallint : IntColumn := { lo := -32768, hi := 32767 }
def smallintUnsigned : IntColumn := { lo := 0, hi := 65535 }
def mediumintUnsigned : IntColumn := { lo := 0, hi := 16777215 }
def intSigned : IntColumn := { lo := -2147483648, hi := 2147483647 }
def intUnsigned : IntColumn := { lo := 0, hi := 4294967295 }

def IntColumn.clip (column : IntColumn) (value : Int) : Int := max column.lo (min column.hi value)

def tinytextSize : Nat := 255
def textSize : Nat := 65535

/-- A row of `guild_bank` as the database has it. -/
@[ext] structure StoredItem where
  guildid : Int
  guid : Int
  isInferno : Int
  tab : Int
  slot : Int
  itemTemplate : Int
  creatorGuid : Int
  giftCreatorGuid : Int
  count : Int
  duration : Int
  charges : CString
  flags : Int
  enchantments : CString
  randomPropertyId : Int
  transmogrifyId : Int
  durability : Int
  text : Int
  generatedLoot : Int
  deriving DecidableEq

/-- The conversion `%u` of a 32-bit argument. -/
def printU (value : UInt32) : CString := decimal value.toNat

def insertValues (x : BankItem) : StoredItem :=
  { guildid := strtol (printU x.guildid)
    guid := strtol (printU x.guid)
    isInferno := strtol (printU (if x.isInferno then 1 else 0))
    tab := strtol (printU x.tab)
    slot := strtol (printU x.slot)
    itemTemplate := strtol (printU x.itemTemplate)
    creatorGuid := strtol (printU x.creatorGuid)
    giftCreatorGuid := strtol (printU x.giftCreatorGuid)
    count := strtol (printU x.count)
    duration := strtol (printU x.duration.toUInt32)
    charges := cstr x.charges
    flags := strtol (printU x.flags.toUInt32)
    enchantments := cstr x.enchantments
    randomPropertyId := strtol (printU x.randomPropertyId.toUInt32)
    transmogrifyId := strtol (printU x.transmogrifyId)
    durability := strtol (printU x.durability.toUInt32)
    text := strtol (printU x.text)
    generatedLoot := strtol (printU x.generatedLoot.toInt32.toUInt32) }

/-- The values as the columns take them. -/
def StoredItem.clip (r : StoredItem) : StoredItem :=
  { guildid := intUnsigned.clip r.guildid
    guid := intSigned.clip r.guid
    isInferno := tinyintUnsigned.clip r.isInferno
    tab := intUnsigned.clip r.tab
    slot := tinyintUnsigned.clip r.slot
    itemTemplate := intUnsigned.clip r.itemTemplate
    creatorGuid := intUnsigned.clip r.creatorGuid
    giftCreatorGuid := intUnsigned.clip r.giftCreatorGuid
    count := intUnsigned.clip r.count
    duration := intSigned.clip r.duration
    charges := r.charges.take tinytextSize
    flags := mediumintUnsigned.clip r.flags
    enchantments := r.enchantments.take textSize
    randomPropertyId := smallint.clip r.randomPropertyId
    transmogrifyId := intUnsigned.clip r.transmogrifyId
    durability := smallintUnsigned.clip r.durability
    text := intUnsigned.clip r.text
    generatedLoot := tinyint.clip r.generatedLoot }

/-- `BankItem::AddToDB`. In strict mode the database refuses a row with a value that a
column does not hold. -/
def addToDB (strict : Bool) (x : BankItem) : Option StoredItem :=
  if strict ∧ (insertValues x).clip ≠ insertValues x then none else some (insertValues x).clip

/-- `atol` of the text that the database returns for a number. -/
def getLong (value : Int) : Int := strtol (decimalInt value)

def getUInt8 (value : Int) : UInt8 := UInt8.ofInt (getLong value)
def getUInt16 (value : Int) : UInt16 := UInt16.ofInt (getLong value)
def getUInt32 (value : Int) : UInt32 := UInt32.ofInt (getLong value)
def getInt16 (value : Int) : Int16 := Int16.ofInt (getLong value)
def getBool (value : Int) : Bool := 0 < atoi (decimalInt value)

def loadFromDB (r : StoredItem) : BankItem :=
  let params := tokenizer r.enchantments ' '
  { guildid := getUInt32 r.guildid
    guid := getUInt32 r.guid
    isInferno := getBool r.isInferno
    tab := (getUInt8 r.tab).toUInt32
    slot := (getUInt8 r.slot).toUInt32
    itemTemplate := getUInt32 r.itemTemplate
    creatorGuid := getUInt32 r.creatorGuid
    giftCreatorGuid := getUInt32 r.giftCreatorGuid
    count := getUInt32 r.count
    duration := (getUInt32 r.duration).toInt32
    charges := cstr r.charges
    flags := getUInt8 r.flags
    enchantments := cstr r.enchantments
    enchant := if params.length = 21 then atoiUInt32 (params.headD []) else 0
    randomPropertyId := (getInt16 r.randomPropertyId).toInt32
    transmogrifyId := getUInt32 r.transmogrifyId
    durability := (getUInt16 r.durability).toUInt8
    text := getUInt32 r.text
    generatedLoot := (getInt16 r.generatedLoot).toInt8 }

/-- The item that comes out for `pItem`: `bItem` is the new bank item with its place and
number, `newItem` what `StoreNewItem` has put into the bag. -/
def depositSaveLoadWithdraw (env : Env) (strict : Bool) (b : Bank) (bItem : BankItem)
    (playerGuid : UInt32) (pItem newItem : Item) : Option Item :=
  (addToDB strict (cloneIntoBank env b bItem pItem)).map fun r =>
    cloneIntoBag playerGuid newItem (loadFromDB r)

/-- The arrays of an item have their sizes. -/
structure Shaped (item : Item) : Prop where
  spellCharges : item.spellCharges.length = 5
  enchantments : item.enchantments.length = 7

structure SameAttributes (item item' : Item) : Prop where
  creator : item'.creator = item.creator
  giftCreator : item'.giftCreator = item.giftCreator
  duration : item'.duration = item.duration
  spellCharges : item'.spellCharges = item.spellCharges
  flags : item'.flags = item.flags
  enchantments : item'.enchantments = item.enchantments
  randomPropertiesId : item'.randomPropertiesId = item.randomPropertiesId
  transmogrifyId : item'.transmogrifyId = item.transmogrifyId
  durability : item'.durability = item.durability
  itemTextId : item'.itemTextId = item.itemTextId
  generatedLoot : item'.generatedLoot = item.generatedLoot

/-- The attributes that the members of a bank item and its columns hold. -/
structure Storable (item : Item) : Prop where
  creator : item.creator.toNat < 2 ^ 32
  giftCreator : item.giftCreator.toNat < 2 ^ 32
  duration : item.duration.toNat < 2 ^ 31
  flags : item.flags.toNat < 2 ^ 8
  randomPropertiesId : item.randomPropertiesId.toNat < 2 ^ 15
  durability : item.durability.toNat < 2 ^ 8

section Columns

variable {column : IntColumn} {value : UInt32}

@[simp] theorem strtol_printU : strtol (printU value) = value.toNat :=
  strtol_decimal (by have := value.toNat_lt; omega)

theorem clip_eq : column.clip value.toNat = min column.hi value.toNat := by
  have zero := column.zero
  rw [IntColumn.clip]
  omega

theorem clip_eq_self_iff : column.clip value.toNat = value.toNat ↔
    (value.toNat : Int) ≤ column.hi := by
  rw [clip_eq]
  omega

theorem clip_intUnsigned : intUnsigned.clip value.toNat = value.toNat := by
  have bound := value.toNat_lt
  rw [clip_eq_self_iff]
  show (value.toNat : Int) ≤ 4294967295
  omega

theorem getLong_natCast {n : Nat} (small : n < 2 ^ 63) : getLong n = n :=
  strtol_decimalInt (by omega) (by omega)

theorem toNat_getUInt32 {n : Nat} (small : n < 2 ^ 32) : (getUInt32 n).toNat = n := by
  have cut : ((n : Int) % 2 ^ 32).toNat = n := by omega
  rw [getUInt32, getLong_natCast (by omega), UInt32.ofInt, cut]
  exact UInt32.toNat_ofNat_of_lt' small

theorem toNat_getUInt8 {n : Nat} (small : n < 2 ^ 8) : (getUInt8 n).toNat = n := by
  have cut : ((n : Int) % 2 ^ 8).toNat = n := by omega
  rw [getUInt8, getLong_natCast (by omega), UInt8.ofInt, cut]
  exact UInt8.toNat_ofNat_of_lt' small

theorem toNat_getUInt16 {n : Nat} (small : n < 2 ^ 16) : (getUInt16 n).toNat = n := by
  have cut : ((n : Int) % 2 ^ 16).toNat = n := by omega
  rw [getUInt16, getLong_natCast (by omega), UInt16.ofInt, cut]
  exact UInt16.toNat_ofNat_of_lt' small

theorem toInt_getInt16 {n : Nat} (small : n < 2 ^ 15) : (getInt16 n).toInt = n := by
  rw [getInt16, getLong_natCast (by omega)]
  exact Int16.toInt_ofInt_of_le (by omega) (by omega)

@[simp] theorem getUInt32_intUnsigned : getUInt32 (intUnsigned.clip value.toNat) = value := by
  rw [clip_intUnsigned]
  exact UInt32.toNat.inj (toNat_getUInt32 value.toNat_lt)

end Columns

section Attributes

variable (value : UInt32)

theorem creator_kept_iff (guid : UInt64) :
    (guidGetCounter guid).toUInt64 = guid ↔ guid.toNat < 2 ^ 32 := by
  constructor
  · intro same
    rw [← same, UInt32.toNat_toUInt64]
    exact (guidGetCounter guid).toNat_lt
  · intro small
    have high : guid.toNat / 2 ^ 48 = 0 := by omega
    rw [guidGetCounter, guidHasEntry, high]
    apply UInt64.toNat.inj
    simp only [beq_self_eq_true, Bool.or_true, Bool.true_or, Bool.not_true, Bool.false_eq_true,
      if_false, UInt32.toNat_toUInt64, UInt64.toNat_toUInt32]
    omega

theorem duration_kept_iff :
    (getUInt32 (intSigned.clip value.toNat)).toInt32.toUInt32 = value ↔ value.toNat < 2 ^ 31 := by
  have top : intSigned.hi = (2147483647 : Nat) := rfl
  rw [UInt32.toUInt32_toInt32, clip_eq, top, ← Nat.cast_min, ← UInt32.toNat_inj,
    toNat_getUInt32 (by omega)]
  omega

theorem flags_kept_iff :
    (getUInt8 (mediumintUnsigned.clip value.toUInt8.toUInt32.toNat)).toUInt32 = value ↔
      value.toNat < 2 ^ 8 := by
  have top : mediumintUnsigned.hi = (16777215 : Nat) := rfl
  have low : value.toUInt8.toUInt32.toNat = value.toNat % 256 := by simp
  rw [clip_eq, top, low, ← Nat.cast_min, ← UInt32.toNat_inj, UInt8.toNat_toUInt32,
    toNat_getUInt8 (by omega)]
  omega

theorem durability_kept_iff :
    (getUInt16 (smallintUnsigned.clip value.toUInt8.toUInt32.toNat)).toUInt8.toUInt32 = value ↔
      value.toNat < 2 ^ 8 := by
  have top : smallintUnsigned.hi = (65535 : Nat) := rfl
  have low : value.toUInt8.toUInt32.toNat = value.toNat % 256 := by simp
  rw [clip_eq, top, low, ← Nat.cast_min, ← UInt32.toNat_inj, UInt8.toNat_toUInt32,
    UInt16.toNat_toUInt8, toNat_getUInt16 (by omega)]
  omega

theorem randomPropertyId_kept_iff :
    (getInt16 (smallint.clip value.toNat)).toInt32.toUInt32 = value ↔ value.toNat < 2 ^ 15 := by
  have top : smallint.hi = (32767 : Nat) := rfl
  rw [clip_eq, top, ← Nat.cast_min]
  have small : min 32767 value.toNat < 2 ^ 15 := by omega
  have same : (getInt16 (min 32767 value.toNat : Nat)).toInt32 =
    Int32.ofNat (min 32767 value.toNat) := by
    apply Int32.toInt_inj.mp
    rw [Int16.toInt_toInt32, toInt_getInt16 small, Int32.toInt_ofNat_of_lt (by omega)]
  rw [same, Int32.toUInt32_ofNat', ← UInt32.toNat_inj,
    UInt32.toNat_ofNat_of_lt' (Nat.lt_trans small (by decide))]
  omega

theorem generatedLoot_kept (flag : Bool) :
    ((getInt16 (tinyint.clip
      (if flag then (1 : Int8) else 0).toInt32.toUInt32.toNat)).toInt8 == 1) = flag := by
  cases flag <;> decide

end Attributes

theorem tokenizerLoop_token {sep : Char} {token : CString} (plain : sep ∉ token)
    (posold rest : CString) :
    tokenizerLoop sep posold (token ++ sep :: rest) =
      (posold ++ token) :: tokenizerLoop sep [] rest := by
  induction token generalizing posold with
  | nil => simp [tokenizerLoop]
  | cons c token ih =>
      have other : c ≠ sep := fun same => plain (same ▸ List.mem_cons_self)
      have ih := ih (fun inside => plain (List.mem_cons_of_mem _ inside)) (posold ++ [c])
      simp only [List.cons_append, tokenizerLoop, beq_iff_eq, other, if_false, ih,
        List.append_assoc, List.nil_append]

theorem tokenizerLoop_join {sep : Char} {tokens : List CString} (plain : ∀ t ∈ tokens, sep ∉ t) :
    tokenizerLoop sep [] (tokens.flatMap (· ++ [sep])) = tokens := by
  induction tokens with
  | nil => rfl
  | cons token rest ih =>
      have first := plain token List.mem_cons_self
      have ih := ih fun t later => plain t (List.mem_cons_of_mem _ later)
      rw [List.flatMap_cons, List.append_assoc, List.singleton_append,
        tokenizerLoop_token first, ih,
        List.nil_append]

/-- Numbers with a space after each of them. -/
def joined (tokens : List CString) : CString := tokens.flatMap (· ++ [' '])

def Numerals (tokens : List CString) : Prop := ∀ t ∈ tokens, ∀ c ∈ t, isNumeral c = true

theorem cstr_joined {tokens : List CString} (numerals : Numerals tokens) :
    cstr (joined tokens) = joined tokens := by
  apply cstr_eq_self_iff.mpr
  intro inside
  simp only [joined, List.mem_flatMap, List.mem_append, List.mem_singleton] at inside
  obtain ⟨t, listed, digit | space⟩ := inside
  · exact (isNumeral_plain (numerals t listed _ digit)).1 rfl
  · exact absurd space (by decide)

theorem tokenizer_joined {tokens : List CString} (numerals : Numerals tokens) :
    tokenizer (joined tokens) ' ' = tokens := by
  rw [tokenizer, cstr_joined numerals]
  refine tokenizerLoop_join fun t listed inside => ?_
  exact absurd (isNumeral_plain (numerals t listed ' ' inside)).2 (by decide)

theorem length_joined_le {tokens : List CString} {n : Nat} (short : ∀ t ∈ tokens, t.length ≤ n) :
    (joined tokens).length ≤ tokens.length * (n + 1) := by
  induction tokens with
  | nil => simp [joined]
  | cons token rest ih =>
      have first := short token List.mem_cons_self
      have ih := ih fun t later => short t (List.mem_cons_of_mem _ later)
      simp only [joined, List.flatMap_cons, List.length_append, List.length_cons,
        List.length_nil, Nat.succ_mul] at ih ⊢
      omega

def chargeTokens (item : Item) : List CString := item.spellCharges.map fun c => decimalInt c.toInt

def enchantmentTokens (item : Item) : List CString :=
  item.enchantments.flatMap fun e =>
    [decimal e.id.toNat, decimal e.duration.toNat, decimal e.charges.toNat]

theorem isNumeral_of_mem_decimal {n : Nat} {c : Char} (inside : c ∈ decimal n) :
    isNumeral c = true := by
  simp [isNumeral, isDigit_of_mem_decimal inside]

theorem chargeTokens_numerals (item : Item) : Numerals (chargeTokens item) := by
  intro t listed c inside
  obtain ⟨charge, -, rfl⟩ := List.mem_map.mp listed
  exact isNumeral_of_mem_decimalInt inside

theorem enchantmentTokens_numerals (item : Item) : Numerals (enchantmentTokens item) := by
  intro t listed c inside
  simp only [enchantmentTokens, List.mem_flatMap, List.mem_cons, List.not_mem_nil,
    or_false] at listed
  obtain ⟨e, -, rfl | rfl | rfl⟩ := listed
  · exact isNumeral_of_mem_decimal inside
  · exact isNumeral_of_mem_decimal inside
  · exact isNumeral_of_mem_decimal inside

theorem length_decimal_uint32 (value : UInt32) : (decimal value.toNat).length ≤ 10 := by
  have bound := value.toNat_lt
  exact length_decimal_le (by decide) (by omega)

theorem length_decimalInt_int32 (value : Int32) : (decimalInt value.toInt).length ≤ 11 := by
  have lo := value.le_toInt
  have hi := value.toInt_lt
  have digits : (decimal value.toInt.natAbs).length ≤ 10 := length_decimal_le (by decide) (by omega)
  rw [decimalInt]
  split
  · rw [List.length_cons]
    omega
  · omega

theorem cloneIntoBank_charges (env : Env) (b : Bank) (bItem : BankItem) (pItem : Item) :
    (cloneIntoBank env b bItem pItem).charges = joined (chargeTokens pItem) := by
  rw [joined, chargeTokens, List.flatMap_map]
  rfl

theorem cloneIntoBank_enchantments (env : Env) (b : Bank) (bItem : BankItem) (pItem : Item) :
    (cloneIntoBank env b bItem pItem).enchantments = joined (enchantmentTokens pItem) := by
  simp [joined, enchantmentTokens, List.flatMap_assoc, cloneIntoBank]

theorem charges_kept (pItem : Item) : (chargeTokens pItem).map atoi = pItem.spellCharges := by
  rw [chargeTokens, List.map_map]
  refine List.map_id'' (fun c => ?_) _
  have lo := c.le_toInt
  have hi := c.toInt_lt
  rw [Function.comp_apply, atoi, strtol_decimalInt (by omega) (by omega), Int32.ofInt_toInt]

section Texts

variable {pItem : Item}

theorem length_chargeTokens (shaped : Shaped pItem) : (chargeTokens pItem).length = 5 := by
  rw [chargeTokens, List.length_map, shaped.spellCharges]

theorem charges_fit (shaped : Shaped pItem) :
    (joined (chargeTokens pItem)).length ≤ tinytextSize := by
  have short : ∀ t ∈ chargeTokens pItem, t.length ≤ 11 := by
    intro t listed
    obtain ⟨charge, -, rfl⟩ := List.mem_map.mp listed
    exact length_decimalInt_int32 charge
  have length := length_joined_le short
  rw [length_chargeTokens shaped] at length
  exact length.trans (by decide)

theorem enchantments_fit (shaped : Shaped pItem) :
    (joined (enchantmentTokens pItem)).length ≤ textSize := by
  have short : ∀ t ∈ enchantmentTokens pItem, t.length ≤ 10 := by
    intro t listed
    simp only [enchantmentTokens, List.mem_flatMap, List.mem_cons, List.not_mem_nil, or_false]
      at listed
    obtain ⟨e, -, rfl | rfl | rfl⟩ := listed
    · exact length_decimal_uint32 _
    · exact length_decimal_uint32 _
    · exact length_decimal_uint32 _
  have count : (enchantmentTokens pItem).length = 21 := by
    simp [enchantmentTokens, List.length_flatMap, shaped.enchantments]
  have length := length_joined_le short
  rw [count] at length
  exact length.trans (by decide)

theorem enchantments_kept (shaped : Shaped pItem) :
    ((List.range 7).map fun i : Nat =>
      ({ id := tokenUInt32 (enchantmentTokens pItem) (i * 3)
         duration := tokenUInt32 (enchantmentTokens pItem) (i * 3 + 1)
         charges := tokenUInt32 (enchantmentTokens pItem) (i * 3 + 2) } : Enchantment)) =
      pItem.enchantments := by
  have read : ∀ value : UInt32, UInt32.ofNat ((strtoul (decimal value.toNat)).getD 0) = value := by
    intro value
    have bound := value.toNat_lt
    rw [strtoul_decimal (by omega), Option.getD_some, UInt32.ofNat_toNat]
  have count := shaped.enchantments
  simp only [enchantmentTokens]
  match pItem.enchantments, count with
  | [e₀, e₁, e₂, e₃, e₄, e₅, e₆], _ => simp [tokenUInt32, List.range_succ, read]

end Texts

section RoundTrip

variable (env : Env) (b : Bank) (bItem : BankItem) (playerGuid : UInt32) {pItem : Item}
  (newItem : Item)

def clonedRow (env : Env) (b : Bank) (bItem : BankItem) (pItem : Item) : StoredItem :=
  insertValues (cloneIntoBank env b bItem pItem)

theorem clonedRow_charges :
    (clonedRow env b bItem pItem).charges = joined (chargeTokens pItem) := by
  simp only [clonedRow, insertValues, cloneIntoBank_charges]
  exact cstr_joined (chargeTokens_numerals pItem)

theorem clonedRow_enchantments :
    (clonedRow env b bItem pItem).enchantments = joined (enchantmentTokens pItem) := by
  simp only [clonedRow, insertValues, cloneIntoBank_enchantments]
  exact cstr_joined (enchantmentTokens_numerals pItem)

theorem clip_charges (shaped : Shaped pItem) :
    (clonedRow env b bItem pItem).clip.charges = (clonedRow env b bItem pItem).charges := by
  rw [StoredItem.clip, clonedRow_charges]
  exact List.take_of_length_le (charges_fit shaped)

theorem clip_enchantments (shaped : Shaped pItem) :
    (clonedRow env b bItem pItem).clip.enchantments =
    (clonedRow env b bItem pItem).enchantments := by
  rw [StoredItem.clip, clonedRow_enchantments]
  exact List.take_of_length_le (enchantments_fit shaped)

/-- What comes out has the attributes of what went in exactly if these are storable. -/
theorem sameAttributes_iff (shaped : Shaped pItem) :
    SameAttributes pItem
        (cloneIntoBag playerGuid newItem (loadFromDB (clonedRow env b bItem pItem).clip)) ↔
      Storable pItem := by
  have charges := (clip_charges env b bItem shaped).trans (clonedRow_charges env b bItem)
  have enchantments :=
    (clip_enchantments env b bItem shaped).trans (clonedRow_enchantments env b bItem)
  have spells : (cloneIntoBag playerGuid newItem
      (loadFromDB (clonedRow env b bItem pItem).clip)).spellCharges = pItem.spellCharges := by
    simp only [cloneIntoBag, loadFromDB, charges, cstr_joined (chargeTokens_numerals pItem),
      tokenizer_joined (chargeTokens_numerals pItem), length_chargeTokens shaped, if_true,
      charges_kept]
  have slots : (cloneIntoBag playerGuid newItem
      (loadFromDB (clonedRow env b bItem pItem).clip)).enchantments = pItem.enchantments := by
    simp only [cloneIntoBag, loadFromDB, enchantments,
      cstr_joined (enchantmentTokens_numerals pItem),
      tokenizer_joined (enchantmentTokens_numerals pItem)]
    exact enchantments_kept shaped
  constructor
  · intro same
    have creator := same.creator
    have giftCreator := same.giftCreator
    have duration := same.duration
    have flags := same.flags
    have randomPropertiesId := same.randomPropertiesId
    have durability := same.durability
    simp only [cloneIntoBag, loadFromDB, StoredItem.clip, clonedRow, insertValues, cloneIntoBank,
      strtol_printU, getUInt32_intUnsigned, UInt32.toUInt32_toInt32]
      at creator giftCreator duration flags randomPropertiesId durability
    exact
      { creator := (creator_kept_iff _).mp creator
        giftCreator := (creator_kept_iff _).mp giftCreator
        duration := (duration_kept_iff _).mp duration
        flags := (flags_kept_iff _).mp flags
        randomPropertiesId := (randomPropertyId_kept_iff _).mp randomPropertiesId
        durability := (durability_kept_iff _).mp durability }
  · intro storable
    refine ⟨?_, ?_, ?_, spells, ?_, slots, ?_, ?_, ?_, ?_, ?_⟩
    all_goals simp only [cloneIntoBag, loadFromDB, StoredItem.clip, clonedRow, insertValues,
      cloneIntoBank, strtol_printU, getUInt32_intUnsigned, UInt32.toUInt32_toInt32]
    · exact (creator_kept_iff _).mpr storable.creator
    · exact (creator_kept_iff _).mpr storable.giftCreator
    · exact (duration_kept_iff _).mpr storable.duration
    · exact (flags_kept_iff _).mpr storable.flags
    · exact (randomPropertyId_kept_iff _).mpr storable.randomPropertiesId
    · exact (durability_kept_iff _).mpr storable.durability
    · exact generatedLoot_kept pItem.generatedLoot

structure Placed (bItem : BankItem) : Prop where
  guid : bItem.guid.toNat < 2 ^ 31
  slot : bItem.slot.toNat < 2 ^ 8

theorem addToDB_cloned (strict : Bool) :
    addToDB strict (cloneIntoBank env b bItem pItem) =
      if strict ∧ (clonedRow env b bItem pItem).clip ≠ clonedRow env b bItem pItem then none
      else some (clonedRow env b bItem pItem).clip := rfl

/-- Of the storable attributes no column changes any; its place and number can be too large. -/
theorem clip_eq_iff (shaped : Shaped pItem) (storable : Storable pItem) :
    (clonedRow env b bItem pItem).clip = clonedRow env b bItem pItem ↔ Placed bItem := by
  constructor
  · intro same
    have guid := congrArg StoredItem.guid same
    have slot := congrArg StoredItem.slot same
    simp only [StoredItem.clip, clonedRow, insertValues, cloneIntoBank, strtol_printU,
      clip_eq_self_iff] at guid slot
    simp only [intSigned, tinyintUnsigned] at guid slot
    exact ⟨by omega, by omega⟩
  · intro placed
    have flag : ∀ flag : Bool, (if flag then (1 : UInt32) else 0).toNat ≤ 1 := by decide
    have loot : ∀ flag : Bool, (if flag then (1 : Int8) else 0).toInt32.toUInt32.toNat ≤ 1 := by
      decide
    have byte : ∀ value : UInt8, value.toUInt32.toNat < 256 := fun value => by
      rw [UInt8.toNat_toUInt32]
      exact value.toNat_lt
    have guid : (bItem.guid.toNat : Int) ≤ 2147483647 := by have := placed.guid; omega
    have slot : (bItem.slot.toNat : Int) ≤ 255 := by have := placed.slot; omega
    have duration : (pItem.duration.toNat : Int) ≤ 2147483647 := by
      have := storable.duration
      omega
    have randomProperties : (pItem.randomPropertiesId.toNat : Int) ≤ 32767 := by
      have := storable.randomPropertiesId
      omega
    apply StoredItem.ext
    case charges => exact clip_charges env b bItem shaped
    case enchantments => exact clip_enchantments env b bItem shaped
    all_goals simp only [StoredItem.clip, clonedRow, insertValues, cloneIntoBank, strtol_printU,
      clip_intUnsigned, clip_eq_self_iff, UInt32.toUInt32_toInt32]
    case guid => exact guid
    case isInferno => exact (Int.ofNat_le.mpr (flag b.bInfernoBank)).trans (by decide)
    case slot => exact slot
    case duration => exact duration
    case flags => exact (Int.ofNat_le.mpr (byte pItem.flags.toUInt8).le).trans (by decide)
    case randomPropertyId => exact randomProperties
    case durability => exact (Int.ofNat_le.mpr (byte pItem.durability.toUInt8).le).trans (by decide)
    case generatedLoot => exact (Int.ofNat_le.mpr (loot pItem.generatedLoot)).trans (by decide)

/-- A row is refused only in strict mode; otherwise the item comes out as its columns hold
it. -/
theorem roundTrip_iff (strict : Bool) (shaped : Shaped pItem) :
    (∃ item, depositSaveLoadWithdraw env strict b bItem playerGuid pItem newItem = some item ∧
        SameAttributes pItem item) ↔
      Storable pItem ∧ (strict = true → Placed bItem) := by
  have kept := sameAttributes_iff env b bItem playerGuid newItem shaped
  by_cases refused : strict = true ∧ (clonedRow env b bItem pItem).clip ≠
    clonedRow env b bItem pItem
  · have gone : depositSaveLoadWithdraw env strict b bItem playerGuid pItem newItem = none := by
      rw [depositSaveLoadWithdraw, addToDB_cloned, if_pos refused, Option.map_none]
    rw [gone]
    constructor
    · rintro ⟨item, found, -⟩
      cases found
    · rintro ⟨storable, placed⟩
      have fits := (clip_eq_iff env b bItem shaped storable).mpr (placed refused.1)
      exact absurd fits refused.2
  · have comes : depositSaveLoadWithdraw env strict b bItem playerGuid pItem newItem =
        some (cloneIntoBag playerGuid newItem (loadFromDB (clonedRow env b bItem pItem).clip)) := by
      rw [depositSaveLoadWithdraw, addToDB_cloned, if_neg refused, Option.map_some]
    rw [comes]
    constructor
    · rintro ⟨item, found, same⟩
      cases found
      have storable := kept.mp same
      refine ⟨storable, fun isStrict => ?_⟩
      have fits := Classical.not_not.mp fun differs => refused ⟨isStrict, differs⟩
      exact (clip_eq_iff env b bItem shaped storable).mp fits
    · rintro ⟨storable, -⟩
      exact ⟨_, rfl, kept.mpr storable⟩

end RoundTrip

def charter : Item :=
  { bag := 255, slot := 23, proto := plainProto 5863, count := 1, flags := 0x2000 }

def wornSword : Item :=
  { bag := 255, slot := 23, proto := plainProto 2000, count := 1, creator := 12, giftCreator := 7,
    spellCharges := [-1, 0, 0, 0, 3], durability := 40, randomPropertiesId := 584,
    enchantments := [{ id := 1900 }, { id := 40, duration := 1800000, charges := 60 }, {}, {}, {},
      {}, {}], generatedLoot := true }

theorem wornSword_roundTrip :
    ∃ item, depositSaveLoadWithdraw plainEnv true { bInfernoBank := false, guildid := 1 }
        { guildid := 1, guid := 1, tab := 1, slot := 1, count := 1 } 7 wornSword charter =
          some item ∧ SameAttributes wornSword item :=
  (roundTrip_iff plainEnv { bInfernoBank := false, guildid := 1 }
    { guildid := 1, guid := 1, tab := 1, slot := 1, count := 1 } 7 charter true
    ⟨rfl, rfl⟩).mpr
    ⟨⟨by decide, by decide, by decide, by decide, by decide, by decide⟩,
      fun _ => ⟨by decide, by decide⟩⟩

/-- A charter comes out without its flag. -/
theorem charter_flag_lost :
    ¬ ∃ item, depositSaveLoadWithdraw plainEnv true { bInfernoBank := false, guildid := 1 }
        { guildid := 1, guid := 1, tab := 1, slot := 1, count := 1 } 7 charter charter = some item ∧
      SameAttributes charter item := by
  rintro ⟨item, found, same⟩
  have flags := same.flags
  have lost : (depositSaveLoadWithdraw plainEnv true { bInfernoBank := false, guildid := 1 }
      { guildid := 1, guid := 1, tab := 1, slot := 1, count := 1 } 7 charter charter).map
        (·.flags) = some 0 := by decide +kernel
  rw [found, Option.map_some, Option.some.injEq, flags] at lost
  exact absurd lost (by decide)

end TortoiseWow.GuildBank
