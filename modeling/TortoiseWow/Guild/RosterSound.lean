import Mathlib
import TortoiseWow.Guild.RosterSize

/-!
Which guilds have a sound roster. The size that is estimated leaves out the offline time, and a
game master without socials has no offline time although he is shown as offline.
-/

namespace TortoiseWow.GuildRoster

open Lib

namespace Member

/-- An online game master without socials. -/
def hidden (member : Member) : Bool := member.player.any Player.hasGMDisabledSocials

def shownName (member : Member) : Text :=
  match member.player with
  | some player => player.name
  | none => member.slot.name

def recordSize (sendOfficerNote : Bool) (member : Member) : Nat :=
  22 + member.shownName.length + member.slot.publicNote.length +
    (if sendOfficerNote then member.slot.officerNote.length else 0) +
    (if member.player.isSome then 0 else 4)

/-- The bytes that `Roster` estimates for it. -/
def estimate (member : Member) : Nat :=
  39 + member.slot.publicNote.length + member.slot.officerNote.length

/-- The bytes that `BuildOnlineRosterPacket` estimates for it. -/
def onlineEstimate (sendOfficerNote : Bool) (member : Member) : Nat :=
  37 + member.slot.publicNote.length +
    if sendOfficerNote then member.slot.officerNote.length else 0

theorem size_record (days : OfflineDays) (sendOfficerNote : Bool) (member : Member) :
    (member.record days sendOfficerNote).size = member.recordSize sendOfficerNote := by
  have note : (if sendOfficerNote = true then member.slot.officerNote else []).length =
      if sendOfficerNote = true then member.slot.officerNote.length else 0 := by
    cases sendOfficerNote with
    | false => rfl
    | true => rfl
  rw [Record.size_eq, recordSize, record, shownName]
  cases member.player with
  | none => simp [note]
  | some player => simp [note]

theorem honest_record (days : OfflineDays) (sendOfficerNote : Bool) (member : Member) :
    (member.record days sendOfficerNote).Honest ↔ member.hidden = false := by
  rw [Record.Honest, record, hidden, visible]
  cases member.player with
  | none => simp
  | some player => simp

theorem record_of_visible (days : OfflineDays) (sendOfficerNote : Bool) {member : Member}
    (visible : member.visible = true) :
    member.player.map (member.onlineRecord sendOfficerNote) =
      some (member.record days sendOfficerNote) := by
  rw [record, visible]
  rw [Member.visible] at visible
  cases player : member.player with
  | none =>
      rw [player] at visible
      cases visible
  | some player => rfl

end Member

theorem foldl_estimate {f : UInt32 → Member → UInt32} {estimate : Member → Nat}
    (adds : ∀ total member, (f total member).toNat = (total.toNat + estimate member) % 2 ^ 32)
    (members : List Member) (start : UInt32) :
    (members.foldl f start).toNat = (start.toNat + totalSize estimate members) % 2 ^ 32 := by
  induction members generalizing start with
  | nil =>
      rw [List.foldl_nil, totalSize_nil, Nat.add_zero, Nat.mod_eq_of_lt start.toNat_lt]
  | cons member members ih =>
      rw [List.foldl_cons, ih, adds, totalSize_cons]
      omega

theorem addMember_eq (total : UInt32) (member : Member) :
    (addMember total member).toNat = (total.toNat + member.estimate) % 2 ^ 32 := by
  simp only [addMember, UInt32.toNat_add, UInt32.toNat_ofNat', Member.estimate,
    guildMemberBlockSizeWithoutNote, maxInternalPlayerName]
  omega

theorem addOnlineMember_eq (sendOfficerNote : Bool) (total : UInt32) (member : Member) :
    (addOnlineMember sendOfficerNote total member).toNat =
      (total.toNat + member.onlineEstimate sendOfficerNote) % 2 ^ 32 := by
  rw [addOnlineMember, Member.onlineEstimate]
  cases sendOfficerNote with
  | false =>
      simp only [Bool.false_eq_true, if_false, UInt32.toNat_add, UInt32.toNat_ofNat',
        guildMemberBlockSizeWithoutNote, maxInternalPlayerName]
      omega
  | true =>
      simp only [if_true, UInt32.toNat_add, UInt32.toNat_ofNat',
        guildMemberBlockSizeWithoutNote, maxInternalPlayerName]
      omega

theorem headerEstimate_eq (g : Guild) : g.headerEstimate.toNat = g.headerSize % 2 ^ 32 := by
  simp only [Guild.headerEstimate, Guild.headerSize, UInt32.toNat_add, UInt32.toNat_mul,
    UInt32.toNat_ofNat', UInt32.toNat_ofNat]
  omega

namespace Guild

variable (g : Guild)

def rosterEstimate : Nat := g.headerSize + totalSize Member.estimate g.members

def onlineEstimate (sendOfficerNote : Bool) : Nat :=
  g.headerSize + totalSize (Member.onlineEstimate sendOfficerNote) (g.members.filter Member.visible)

def inRosterCap : Bool := decide (g.rosterEstimate % 2 ^ 32 < maxUncompressedPacketSize)

def inOnlineCap (sendOfficerNote : Bool) : Bool :=
  decide (g.onlineEstimate sendOfficerNote % 2 ^ 32 < maxUncompressedPacketSize)

/-- The members that have a turn in the roster as long as there is room: those who are online and
as many of the others as a roster may have besides, by rank if it is full, less those who have no
name. -/
def listed (sorting : RankSort) : List Member :=
  let byRank := fun members => if g.inRosterCap then members else sorting.sort members
  let online := byRank (g.members.filter Member.visible)
  let offline := byRank (g.members.filter fun member => !member.visible)
  online.take guildMaxMembers ++
    (offline.take (guildMaxMembers - online.length)).filter fun member => member.slot.name ≠ []

def onlineListed (sorting : RankSort) (sendOfficerNote : Bool) : List Member :=
  let online := g.members.filter Member.visible
  if g.inOnlineCap sendOfficerNote then online else sorting.sort online

end Guild

theorem writeMembers_refused {inPacketCap : Bool} {roster : Roster}
    (refused : inPacketCap = false ∧
      roster.data.size + guildMemberBlockSize ≥ maxUncompressedPacketSize)
    (records : List Record) : writeMembers inPacketCap records roster = some roster := by
  cases records with
  | nil => rfl
  | cons record records =>
      rw [writeMembers, writeMemberData, if_pos refused]
      rfl

/-- Two loops, one after the other, are a loop over both caches. -/
theorem writeMembers_append (inPacketCap : Bool) (front back : List Record) (roster : Roster) :
    ((writeMembers inPacketCap front roster).bind fun roster =>
        writeMembers inPacketCap back roster) =
      writeMembers inPacketCap (front ++ back) roster := by
  induction front generalizing roster with
  | nil => rfl
  | cons record front ih =>
      rw [List.cons_append, writeMembers, writeMembers, writeMemberData]
      split
      · next refused => exact writeMembers_refused refused back
      · cases ByteBuffer.writeAll record.values roster.data with
        | none => rfl
        | some data => exact ih _

theorem take_min_length {α : Type} (items : List α) (count : Nat) :
    items.take (min items.length count) = items.take count := by
  rw [Nat.min_comm]
  exact List.take_eq_take_min.symm

/-- The caches hold the same members in either order. -/
theorem mem_byRank (sorting : RankSort) (inPacketCap : Bool) (members : List Member)
    (member : Member) :
    member ∈ (if inPacketCap then members else sorting.sort members) ↔ member ∈ members := by
  cases inPacketCap with
  | true => exact Iff.rfl
  | false => exact (sorting.perm members).mem_iff

theorem length_byRank (sorting : RankSort) (inPacketCap : Bool) (members : List Member) :
    (if inPacketCap then members else sorting.sort members).length = members.length := by
  cases inPacketCap with
  | true => rfl
  | false => exact (sorting.perm members).length_eq

theorem isSome_of_visible {member : Member} (visible : member.visible = true) :
    member.player.isSome = true := by
  rw [Member.visible] at visible
  cases player : member.player with
  | none =>
      rw [player] at visible
      cases visible
  | some player => rfl

theorem take_byRank (sorting : RankSort) (inPacketCap : Bool) (members : List Member)
    (count : Nat) :
    (if inPacketCap then members else sorting.sort members).take (min members.length count) =
      (if inPacketCap then members else sorting.sort members).take count := by
  rw [← length_byRank sorting inPacketCap members]
  exact take_min_length _ count

/-- The culled caches, with the members that the loops skip left out. -/
theorem caches_eq (g : Guild) (sorting : RankSort) :
    ((((if g.inRosterCap then g.members.filter Member.visible
        else sorting.sort (g.members.filter Member.visible)).take
          (min (g.members.filter Member.visible).length guildMaxMembers)).filter
            fun member => member.player.isSome) ++
      ((if g.inRosterCap then g.members.filter fun member => !member.visible
        else sorting.sort (g.members.filter fun member => !member.visible)).take
          (min (g.members.filter fun member => !member.visible).length (guildMaxMembers -
            min (g.members.filter Member.visible).length guildMaxMembers))).filter
            fun member => !member.visible && member.slot.name ≠ []) =
      g.listed sorting := by
  have visible : ∀ member ∈
      (if g.inRosterCap then g.members.filter Member.visible
        else sorting.sort (g.members.filter Member.visible)).take guildMaxMembers,
      member.player.isSome = true := by
    intro member inside
    have inside := (mem_byRank sorting _ _ member).mp (List.mem_of_mem_take inside)
    exact isSome_of_visible (List.mem_filter.mp inside).2
  have left : guildMaxMembers - min (g.members.filter Member.visible).length guildMaxMembers =
      guildMaxMembers - (g.members.filter Member.visible).length := by omega
  rw [take_byRank, take_byRank, List.filter_eq_self.mpr visible, left, Guild.listed]
  simp only [length_byRank]
  congr 1
  apply List.filter_congr
  intro member inside
  have inside := (mem_byRank sorting _ _ member).mp (List.mem_of_mem_take inside)
  rw [(List.mem_filter.mp inside).2, Bool.true_and]

theorem roster_eq (g : Guild) (sorting : RankSort) (days : OfflineDays) (sendOfficerNote : Bool) :
    ∃ count, g.roster sorting days sendOfficerNote =
      (ByteBuffer.writeAll (g.header count) {}).bind fun data =>
        (writeMembers g.inRosterCap
          ((g.listed sorting).map (Member.record days sendOfficerNote)) { data }).bind
            Guild.putCount := by
  have cap : decide ((g.members.foldl addMember g.headerEstimate).toNat <
      maxUncompressedPacketSize) = g.inRosterCap := by
    rw [foldl_estimate addMember_eq, headerEstimate_eq, Nat.mod_add_mod]
    rfl
  refine ⟨UInt32.ofNat (min ((g.members.filter Member.visible).length +
    (g.members.filter fun member => !member.visible).length) guildMaxMembers), ?_⟩
  rw [Guild.roster, ← caches_eq g sorting, List.map_append]
  simp only [Option.bind_eq_bind, cap]
  congr 1
  funext data
  rw [← writeMembers_append, Option.bind_assoc]

theorem online_eq (g : Guild) (sorting : RankSort) (days : OfflineDays) (sendOfficerNote : Bool) :
    ∃ count, g.buildOnlineRosterPacket sorting sendOfficerNote =
      (ByteBuffer.writeAll (g.header count) {}).bind fun data =>
        (writeMembers (g.inOnlineCap sendOfficerNote)
          ((g.onlineListed sorting sendOfficerNote).map (Member.record days sendOfficerNote))
            { data }).bind Guild.putCount := by
  have cap : decide (((g.members.filter Member.visible).foldl (addOnlineMember sendOfficerNote)
      g.headerEstimate).toNat < maxUncompressedPacketSize) = g.inOnlineCap sendOfficerNote := by
    rw [foldl_estimate (addOnlineMember_eq sendOfficerNote), headerEstimate_eq, Nat.mod_add_mod]
    rfl
  have records : (g.onlineListed sorting sendOfficerNote).filterMap (fun member =>
      member.player.map (member.onlineRecord sendOfficerNote)) =
      (g.onlineListed sorting sendOfficerNote).map (Member.record days sendOfficerNote) := by
    rw [← List.filterMap_eq_map]
    apply List.filterMap_congr
    intro member inside
    have inside := (mem_byRank sorting _ _ member).mp inside
    exact Member.record_of_visible days sendOfficerNote (List.mem_filter.mp inside).2
  refine ⟨UInt32.ofNat (g.members.filter Member.visible).length, ?_⟩
  rw [← records, Guild.buildOnlineRosterPacket, Guild.onlineListed]
  simp only [Option.bind_eq_bind, cap]

/-- No member who has his turn is hidden, and each record ends before the packet is full. A
member has his turn if those before him leave as much room as a block is supposed to need, or in
any case if the estimate is small. -/
def Guild.Turns (g : Guild) (inPacketCap sendOfficerNote : Bool) (members : List Member) : Prop :=
  ∀ front member, front ++ [member] <+: members →
    (inPacketCap = true ∨
      g.headerSize + totalSize (Member.recordSize sendOfficerNote) front + guildMemberBlockSize <
        maxUncompressedPacketSize) →
    member.hidden = false ∧
      g.headerSize + totalSize (Member.recordSize sendOfficerNote) front +
        member.recordSize sendOfficerNote < maxUncompressedPacketSize

theorem sound_iff_turns (g : Guild) (headerSmall : g.headerSize < maxUncompressedPacketSize)
    (count : UInt32) (inPacketCap : Bool) (days : OfflineDays) (sendOfficerNote : Bool)
    (members : List Member) :
    (∃ roster, ((ByteBuffer.writeAll (g.header count) {}).bind fun data =>
        (writeMembers inPacketCap (members.map (Member.record days sendOfficerNote))
          { data }).bind Guild.putCount) = some roster ∧ roster.Sound g) ↔
      g.Turns inPacketCap sendOfficerNote members := by
  have antitone : ∀ start more, admits inPacketCap (start + more) = true →
      admits inPacketCap start = true := by
    intro start more later
    simp only [admits, Bool.or_eq_true, decide_eq_true_eq] at later ⊢
    exact later.imp_right fun room => by omega
  have below := boundedPrefix_below antitone (Member.recordSize sendOfficerNote)
    (fun member => member.hidden = false) headerSmall members
  have sizes : (fun member => (Member.record days sendOfficerNote member).size) =
      Member.recordSize sendOfficerNote := funext (Member.size_record days sendOfficerNote)
  rw [assembled_sound_iff g count inPacketCap _ headerSmall, written, boundedPrefix_map, sizes,
    totalSize_map, sizes]
  simp only [List.mem_map, forall_exists_index, and_imp, forall_apply_eq_imp_iff₂,
    Member.honest_record]
  rw [below, Guild.Turns]
  simp only [admits, Bool.or_eq_true, decide_eq_true_eq]

structure Guild.Limits (g : Guild) : Prop where
  motd : g.motd.length ≤ guildMotdMaxLength
  info : g.info.length ≤ guildInfoMaxLength
  ranks : g.ranks.length ≤ guildRanksMaxCount
  names : ∀ member ∈ g.members, member.slot.name.length ≤ maxInternalPlayerName
  playerNames : ∀ member ∈ g.members, ∀ player ∈ member.player,
    player.name.length ≤ maxInternalPlayerName
  publicNotes : ∀ member ∈ g.members, member.slot.publicNote.length ≤ guildNoteMaxLength
  officerNotes : ∀ member ∈ g.members, member.slot.officerNote.length ≤ guildNoteMaxLength

theorem Guild.Limits.headerSize {g : Guild} (limits : g.Limits) : g.headerSize ≤ 678 := by
  have motd : g.motd.length ≤ 128 := limits.motd
  have info : g.info.length ≤ 500 := limits.info
  have ranks : g.ranks.length ≤ 10 := limits.ranks
  rw [Guild.headerSize]
  omega

/-- A record without an offline time is no longer than a block, and no longer than the estimate of
`BuildOnlineRosterPacket`, which in turn is less than twice as much. -/
theorem recordSize_of_visible {g : Guild} (limits : g.Limits) {member : Member}
    (inside : member ∈ g.members) (visible : member.visible = true) (sendOfficerNote : Bool) :
    member.recordSize sendOfficerNote ≤ guildMemberBlockSize ∧
      member.recordSize sendOfficerNote ≤ member.onlineEstimate sendOfficerNote ∧
      member.onlineEstimate sendOfficerNote ≤ 2 * member.recordSize sendOfficerNote := by
  obtain ⟨player, shown⟩ := Option.isSome_iff_exists.mp (isSome_of_visible visible)
  have name : member.shownName.length ≤ 15 := by
    rw [Member.shownName, shown]
    exact limits.playerNames member inside player shown
  have publicNote : member.slot.publicNote.length ≤ 31 := limits.publicNotes member inside
  have officerNote : member.slot.officerNote.length ≤ 31 := limits.officerNotes member inside
  have note : (if sendOfficerNote then member.slot.officerNote.length else 0) ≤ 31 := by
    split
    · exact officerNote
    · exact Nat.zero_le _
  have block : guildMemberBlockSize = 99 := rfl
  rw [Member.recordSize, Member.onlineEstimate, shown, Option.isSome_some, if_pos rfl, block]
  omega

theorem totalSize_perm {α : Type} (size : α → Nat) {front back : List α} (perm : front.Perm back) :
    totalSize size front = totalSize size back := (perm.map size).sum_eq

theorem hidden_of_visible {member : Member} (visible : member.visible = true) :
    member.hidden = false := by
  rw [Member.visible] at visible
  rw [Member.hidden]
  cases player : member.player with
  | none => rfl
  | some player =>
      rw [player] at visible
      simpa using visible

/-- Of the online members the packet takes all if the estimate is small, and otherwise as many as
there is room for. -/
theorem online_turns_iff {g : Guild} (limits : g.Limits) (sorting : RankSort)
    (sendOfficerNote : Bool) :
    g.Turns (g.inOnlineCap sendOfficerNote) sendOfficerNote
        (g.onlineListed sorting sendOfficerNote) ↔
      g.onlineEstimate sendOfficerNote < 2 ^ 32 ∨
        maxUncompressedPacketSize ≤ g.onlineEstimate sendOfficerNote % 2 ^ 32 := by
  have header := limits.headerSize
  have full : maxUncompressedPacketSize = 32768 := rfl
  have bounds : ∀ member ∈ g.members.filter Member.visible, _ := fun member inside =>
    recordSize_of_visible limits (List.mem_filter.mp inside).1 (List.mem_filter.mp inside).2
      sendOfficerNote
  have listed : ∀ {front : List Member} {member : Member},
      front ++ [member] <+: g.onlineListed sorting sendOfficerNote →
      member ∈ g.members.filter Member.visible := fun inside =>
    (mem_byRank sorting _ _ _).mp (inside.subset (by simp))
  constructor
  · intro turns
    by_contra wrapped
    rw [not_or, Nat.not_lt, Nat.not_le] at wrapped
    have cap : g.inOnlineCap sendOfficerNote = true := decide_eq_true wrapped.2
    have all : g.onlineListed sorting sendOfficerNote = g.members.filter Member.visible := by
      rw [Guild.onlineListed, cap]
      rfl
    rw [all] at turns
    have double := totalSize_mono fun member inside => (bounds member inside).2.2
    have twice : totalSize (fun member => 2 * Member.recordSize sendOfficerNote member)
        (g.members.filter Member.visible) =
        2 * totalSize (Member.recordSize sendOfficerNote) (g.members.filter Member.visible) := by
      rw [totalSize, totalSize, ← List.sum_map_mul_left]
    rw [twice] at double
    have whole : g.onlineEstimate sendOfficerNote = g.headerSize +
      totalSize (Member.onlineEstimate sendOfficerNote) (g.members.filter Member.visible) := rfl
    obtain empty | ⟨front, last, split⟩ := (g.members.filter Member.visible).eq_nil_or_concat'
    · rw [empty] at double whole
      rw [totalSize_nil, totalSize_nil] at double
      rw [totalSize_nil] at whole
      omega
    · rw [split] at turns double whole
      have last := (turns front last List.prefix_rfl (Or.inl cap)).2
      rw [totalSize_append, totalSize_append, totalSize_cons, totalSize_cons, totalSize_nil,
        totalSize_nil] at double
      rw [totalSize_append, totalSize_cons, totalSize_nil] at whole
      omega
  · intro estimate front member inside turn
    have visible := listed inside
    refine ⟨hidden_of_visible (List.mem_filter.mp visible).2, ?_⟩
    have size := (bounds member visible).1
    cases cap : g.inOnlineCap sendOfficerNote with
    | false =>
        rw [cap] at turn
        have room := turn.resolve_left Bool.noConfusion
        omega
    | true =>
        have small : g.onlineEstimate sendOfficerNote % 2 ^ 32 < maxUncompressedPacketSize :=
          of_decide_eq_true cap
        have all : g.onlineListed sorting sendOfficerNote = g.members.filter Member.visible := by
          rw [Guild.onlineListed, cap]
          rfl
        rw [all] at inside
        obtain ⟨tail, split⟩ := inside
        have sizes := totalSize_mono fun member inside => (bounds member inside).2.1
        have whole : g.onlineEstimate sendOfficerNote = g.headerSize +
          totalSize (Member.onlineEstimate sendOfficerNote) (g.members.filter Member.visible) := rfl
        rw [← split, totalSize_append, totalSize_append, totalSize_cons, totalSize_nil] at sizes
        rw [← split] at whole
        omega

theorem totalSize_sublist {α : Type} (size : α → Nat) {front items : List α}
    (inside : front.Sublist items) : totalSize size front ≤ totalSize size items :=
  (inside.map size).sum_le_sum fun _ _ => Nat.zero_le _

/-- Below the limit of the estimate no member is left out who has a name. -/
theorem totalSize_listed (g : Guild) (sorting : RankSort) (cap : g.inRosterCap = true)
    (size : Member → Nat) : totalSize size (g.listed sorting) ≤ totalSize size g.members := by
  have whole := totalSize_perm size (List.filter_append_perm Member.visible g.members)
  rw [totalSize_append] at whole
  have online := totalSize_sublist size
    (List.take_sublist guildMaxMembers (g.members.filter Member.visible))
  have offline := totalSize_sublist size (List.filter_sublist.trans (List.take_sublist
    (guildMaxMembers - (g.members.filter Member.visible).length)
    (g.members.filter fun member => !member.visible)) :
      (List.filter (fun member => decide (member.slot.name ≠ [])) _).Sublist _)
  rw [Guild.listed, totalSize_append]
  simp only [cap, if_true]
  omega

theorem mem_listed {g : Guild} {sorting : RankSort} {member : Member}
    (inside : member ∈ g.listed sorting) : member ∈ g.members := by
  rw [Guild.listed] at inside
  obtain inside | inside := List.mem_append.mp inside
  · exact (List.mem_filter.mp ((mem_byRank sorting _ _ member).mp
      (List.mem_of_mem_take inside))).1
  · exact (List.mem_filter.mp ((mem_byRank sorting _ _ member).mp
      (List.mem_of_mem_take (List.mem_filter.mp inside).1))).1

theorem turns_of_short {g : Guild} (limits : g.Limits) (sorting : RankSort)
    (sendOfficerNote : Bool) (noneHidden : ∀ member ∈ g.members, member.hidden = false)
    (estimate : g.rosterEstimate < 2 ^ 32)
    (short : ∀ member ∈ g.members, member.player = none → member.slot.name.length ≤ 13 ∧
      member.slot.name.length + member.slot.publicNote.length +
        member.slot.officerNote.length ≤ 73) :
    g.Turns g.inRosterCap sendOfficerNote (g.listed sorting) := by
  have full : maxUncompressedPacketSize = 32768 := rfl
  have block : guildMemberBlockSize = 99 := rfl
  have bounds : ∀ member ∈ g.members,
      member.recordSize sendOfficerNote ≤ guildMemberBlockSize ∧
        member.recordSize sendOfficerNote ≤ member.estimate := by
    intro member inside
    have note : (if sendOfficerNote then member.slot.officerNote.length else 0) ≤
        member.slot.officerNote.length := by
      split
      · exact Nat.le_refl _
      · exact Nat.zero_le _
    have officerNote : member.slot.officerNote.length ≤ 31 := limits.officerNotes member inside
    have publicNote : member.slot.publicNote.length ≤ 31 := limits.publicNotes member inside
    rw [Member.recordSize, Member.estimate, Member.shownName, block]
    cases player : member.player with
    | none =>
        have short := short member inside player
        simp only [Option.isSome_none, Bool.false_eq_true, if_false]
        omega
    | some player' =>
        have name : player'.name.length ≤ 15 := limits.playerNames member inside player' player
        simp only [Option.isSome_some, if_true]
        omega
  intro front member inside turn
  have among : member ∈ g.members := mem_listed (inside.subset (by simp))
  refine ⟨noneHidden member among, ?_⟩
  cases cap : g.inRosterCap with
  | false =>
      rw [cap] at turn
      have room := turn.resolve_left Bool.noConfusion
      have size := (bounds member among).1
      omega
  | true =>
      have small : g.rosterEstimate % 2 ^ 32 < maxUncompressedPacketSize := of_decide_eq_true cap
      have taken := totalSize_sublist (Member.recordSize sendOfficerNote) inside.sublist
      have all := totalSize_listed g sorting cap (Member.recordSize sendOfficerNote)
      have sizes := totalSize_mono fun member inside => (bounds member inside).2
      have whole : g.rosterEstimate = g.headerSize + totalSize Member.estimate g.members := rfl
      rw [totalSize_append, totalSize_cons, totalSize_nil] at taken
      omega

/-- `Roster` is sound if and only if nobody who has his turn is a hidden game master or has a
record that is too long; `BuildOnlineRosterPacket` is unless its estimate wraps to a small one. -/
theorem rosters_sound_iff {g : Guild} (limits : g.Limits) (sorting : RankSort)
    (days : OfflineDays) (sendOfficerNote : Bool) :
    ((∃ roster, g.roster sorting days sendOfficerNote = some roster ∧ roster.Sound g) ↔
      g.Turns g.inRosterCap sendOfficerNote (g.listed sorting)) ∧
    ((∃ roster, g.buildOnlineRosterPacket sorting sendOfficerNote = some roster ∧
        roster.Sound g) ↔
      g.onlineEstimate sendOfficerNote < 2 ^ 32 ∨
        maxUncompressedPacketSize ≤ g.onlineEstimate sendOfficerNote % 2 ^ 32) := by
  have header : g.headerSize < maxUncompressedPacketSize :=
    Nat.lt_of_le_of_lt limits.headerSize (by decide)
  obtain ⟨count, roster⟩ := roster_eq g sorting days sendOfficerNote
  obtain ⟨online, packet⟩ := online_eq g sorting days sendOfficerNote
  rw [roster, packet]
  refine ⟨sound_iff_turns g header count _ days sendOfficerNote _, ?_⟩
  rw [sound_iff_turns g header online, online_turns_iff limits sorting sendOfficerNote]

def stableSort : RankSort where
  sort members := members.mergeSort fun a b => a.slot.rankId ≤ b.slot.rankId
  perm members := List.mergeSort_perm members _
  sorted members := by
    have sorted := @List.pairwise_mergeSort _
      (fun a b : Member => decide (a.slot.rankId ≤ b.slot.rankId))
      (fun a b c ab bc => decide_eq_true (UInt32.le_trans (of_decide_eq_true ab)
        (of_decide_eq_true bc)))
      (fun a b => by simpa using UInt32.le_total a.slot.rankId b.slot.rankId) members
    exact sorted.imp of_decide_eq_true

def sampleSlot (name : Text) : MemberSlot :=
  { name, rankId := 0, level := 60, cls := 1, zoneId := 12, logoutTime := 0, publicNote := []
    officerNote := [] }

/-- A game master who is online without socials. -/
def masterGuild : Guild :=
  { motd := [], info := [], ranks := [0, 0, 0, 0, 0]
    members := [⟨1, sampleSlot [71], some ⟨[71], 60, 1, 12, true⟩⟩] }

def longNamed (i : Nat) : Member :=
  ⟨UInt64.ofNat (i + 1), sampleSlot (List.replicate 15 97), none⟩

def longNamesGuild (count : Nat) : Guild :=
  { motd := [], info := [], ranks := [0, 0, 0, 0, 0]
    members := (List.range count).map longNamed }

theorem mem_longNamesGuild {count : Nat} {member : Member}
    (inside : member ∈ (longNamesGuild count).members) : ∃ i, member = longNamed i := by
  obtain ⟨i, -, rfl⟩ := List.mem_map.mp inside
  exact ⟨i, rfl⟩

theorem longNamesGuild_limits (count : Nat) : (longNamesGuild count).Limits where
  motd := Nat.zero_le _
  info := Nat.zero_le _
  ranks := Nat.le_of_ble_eq_true rfl
  names member inside := by
    obtain ⟨i, rfl⟩ := mem_longNamesGuild inside
    exact Nat.le_refl 15
  playerNames member inside player shown := by
    obtain ⟨i, rfl⟩ := mem_longNamesGuild inside
    cases shown
  publicNotes member inside := by
    obtain ⟨i, rfl⟩ := mem_longNamesGuild inside
    exact Nat.zero_le _
  officerNotes member inside := by
    obtain ⟨i, rfl⟩ := mem_longNamesGuild inside
    exact Nat.zero_le _

theorem totalSize_longNamed (size : Member → Nat) {each : Nat}
    (same : ∀ i, size (longNamed i) = each)
    (count : Nat) : totalSize size ((List.range count).map longNamed) = count * each := by
  rw [totalSize_map, totalSize]
  simp [same]

theorem longNamesGuild_cap {count : Nat} (few : count ≤ 839) :
    (longNamesGuild count).inRosterCap = true := by
  have estimate : (longNamesGuild count).rosterEstimate = 30 + count * 39 :=
    congrArg (30 + ·) (totalSize_longNamed Member.estimate (fun i => rfl) count)
  rw [Guild.inRosterCap, estimate]
  apply decide_eq_true
  change (30 + count * 39) % 2 ^ 32 < 32768
  rw [Nat.mod_eq_of_lt (by omega)]
  omega

theorem longNamesGuild_listed {count : Nat} (few : count ≤ 839) (sorting : RankSort) :
    (longNamesGuild count).listed sorting = (List.range count).map longNamed := by
  have online : (longNamesGuild count).members.filter Member.visible = [] := by
    rw [List.filter_eq_nil_iff]
    intro member inside
    obtain ⟨i, rfl⟩ := mem_longNamesGuild inside
    exact Bool.noConfusion
  have offline : (longNamesGuild count).members.filter (fun member => !member.visible) =
      (longNamesGuild count).members := by
    rw [List.filter_eq_self]
    intro member inside
    obtain ⟨i, rfl⟩ := mem_longNamesGuild inside
    rfl
  have named :
    (longNamesGuild count).members.filter (fun member => decide (member.slot.name ≠ [])) =
      (longNamesGuild count).members := by
    rw [List.filter_eq_self]
    intro member inside
    obtain ⟨i, rfl⟩ := mem_longNamesGuild inside
    rfl
  have room : (longNamesGuild count).members.length ≤ guildMaxMembers := by
    rw [longNamesGuild, List.length_map, List.length_range]
    exact Nat.le_trans few (by decide)
  rw [Guild.listed, longNamesGuild_cap few]
  simp only [if_true]
  rw [online, offline, List.length_nil, Nat.sub_zero, List.take_of_length_le room, named]
  rfl

/-- The estimate has two bytes less for each of them than is written. -/
theorem longNamesGuild_unsound {count : Nat} (few : count + 1 ≤ 839)
    (many : maxUncompressedPacketSize ≤ 30 + (count + 1) * 41) (sorting : RankSort)
    (days : OfflineDays) :
    ¬ ∃ roster, (longNamesGuild (count + 1)).roster sorting days false = some roster ∧
      roster.Sound (longNamesGuild (count + 1)) := by
  obtain ⟨shown, written⟩ := roster_eq (longNamesGuild (count + 1)) sorting days false
  have header : (longNamesGuild (count + 1)).headerSize = 30 := rfl
  rw [written, sound_iff_turns _ (by rw [header]; decide), longNamesGuild_listed few,
    longNamesGuild_cap few, List.range_succ, List.map_append]
  intro turns
  have last := (turns _ (longNamed count) List.prefix_rfl (Or.inl rfl)).2
  have front := @totalSize_longNamed (Member.recordSize false) 41 (fun i => rfl) count
  have size : (longNamed count).recordSize false = 41 := rfl
  rw [header, front, size] at last
  change _ < maxUncompressedPacketSize at last
  omega

/-- One who is online and one who is not. -/
def pairGuild : Guild :=
  { motd := [72, 105], info := [], ranks := [0, 0, 0, 0, 0]
    members := [⟨1, sampleSlot [65], some ⟨[65], 60, 1, 12, false⟩⟩, ⟨2, sampleSlot [66], none⟩] }

theorem rosters_sound_iff_pair :
    (∃ roster, pairGuild.roster stableSort (fun _ => 0) true = some roster ∧
      roster.Sound pairGuild) ∧
    ∃ roster, pairGuild.buildOnlineRosterPacket stableSort true = some roster ∧
      roster.Sound pairGuild := by
  have limits : pairGuild.Limits := by constructor <;> decide
  have both := rosters_sound_iff limits stableSort (fun _ => 0) true
  refine ⟨both.1.mpr ?_, both.2.mpr (Or.inl (by decide))⟩
  apply turns_of_short limits
  · decide
  · decide
  · decide

theorem hidden_master_unsound :
    (masterGuild.Limits ∧ ¬ ∃ roster,
      masterGuild.roster stableSort (fun _ => 0) false = some roster ∧ roster.Sound masterGuild) ∧
    ((longNamesGuild 839).Limits ∧ ¬ ∃ roster,
      (longNamesGuild 839).roster stableSort (fun _ => 0) false = some roster ∧
        roster.Sound (longNamesGuild 839)) := by
  refine ⟨⟨by constructor <;> decide, ?_⟩, longNamesGuild_limits 839,
    longNamesGuild_unsound (by decide) (by decide) stableSort _⟩
  obtain ⟨count, written⟩ := roster_eq masterGuild stableSort (fun _ => 0) false
  rw [written, sound_iff_turns masterGuild (by decide)]
  intro turns
  have master := turns [] ⟨1, sampleSlot [71], some ⟨[71], 60, 1, 12, true⟩⟩ (by decide)
    (Or.inl (by decide))
  exact absurd master.1 (by decide)

end TortoiseWow.GuildRoster
