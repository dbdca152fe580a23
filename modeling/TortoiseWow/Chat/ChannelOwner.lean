import Mathlib
import TortoiseWow.Chat.Channel

/-!
Who owns a channel. The owner is a guid and a flag of one member; the two agree
until an owner leaves to a member whom `SetOwner` turns away, or kicks itself.
The first leaves the guid of somebody who is gone, the second puts the entry of
the kicked owner back.
-/

namespace TortoiseWow.Chat

open Lib

namespace PlayerInfo

variable (info : PlayerInfo) (flag other : UInt8) (state : Bool)

theorem hasFlag_setTo (apart : flag &&& other = 0) (outside : ~~~flag &&& other = other) :
    (info.setTo flag state).hasFlag other = info.hasFlag other := by
  cases state with
  | true => rw [hasFlag, setTo, if_pos rfl, or_and_uint8, apart, UInt8.or_zero, hasFlag]
  | false => rw [hasFlag, setTo, if_neg Bool.false_ne_true, UInt8.and_assoc, outside, hasFlag]

theorem isOwner_setOwner : (info.setOwner state).isOwner = state := by
  cases state with
  | true =>
      have kept : memberFlagOwner ≠ 0 := by decide
      rw [isOwner, hasFlag, setOwner, setTo, if_pos rfl, or_and_uint8, UInt8.and_self, bne_iff_ne]
      intro none
      exact kept (UInt8.or_eq_zero_iff.mp none).2
  | false =>
      have none : ~~~memberFlagOwner &&& memberFlagOwner = 0 := by decide
      rw [isOwner, hasFlag, setOwner, setTo, if_neg Bool.false_ne_true, UInt8.and_assoc, none,
        UInt8.and_zero]
      rfl

theorem isOwner_setModerator : (info.setModerator state).isOwner = info.isOwner :=
  hasFlag_setTo info memberFlagModerator memberFlagOwner state (by decide) (by decide)

theorem isOwner_setMuted : (info.setMuted state).isOwner = info.isOwner :=
  hasFlag_setTo info memberFlagMuted memberFlagOwner state (by decide) (by decide)

theorem isOwner_none (guid : UInt64) : (⟨guid, memberFlagNone⟩ : PlayerInfo).isOwner = false := by
  simp [isOwner, hasFlag, memberFlagNone]

end PlayerInfo

namespace Channel

variable {settings : Settings} {accessor : Accessor} {channel : Channel} {guid : UInt64}

/-- The guid and the flag of the owner agree, and nobody is both banned and a member. -/
structure Owned (channel : Channel) : Prop where
  owner : channel.ownerGuid = 0 ∨
    ∃ info, channel.players.find? channel.ownerGuid = some info ∧ info.isOwner = true
  alone : ∀ guid info, channel.players.find? guid = some info → info.isOwner = true →
    guid = channel.ownerGuid
  banned : ∀ guid ∈ channel.banned, channel.players.find? guid = none

/-- What is left of the agreement when a member has been erased. -/
structure Loose (channel : Channel) : Prop where
  alone : ∀ guid info, channel.players.find? guid = some info → info.isOwner = true →
    guid = channel.ownerGuid ∧ guid ≠ 0
  named : ∀ guid info, channel.players.find? guid = some info → info.player = guid
  banned : ∀ guid ∈ channel.banned, channel.players.find? guid = none

structure Kept (channel : Channel) : Prop extends Loose channel where
  owner : channel.ownerGuid = 0 ∨
    ∃ info, channel.players.find? channel.ownerGuid = some info ∧ info.isOwner = true

theorem Kept.owned (h : Kept channel) : Owned channel :=
  ⟨h.owner, fun guid info found owns => (h.alone guid info found owns).1, h.banned⟩

theorem isOn_iff : channel.isOn guid = true ↔ ∃ info, channel.players.find? guid = some info :=
  Option.isSome_iff_exists

theorem find?_subscript_self {f : PlayerInfo → PlayerInfo} :
    (channel.subscript guid f).players.find? guid =
      some (f ((channel.players.find? guid).getD ⟨0, 0⟩)) :=
  OrderedMap.find?_assign_self _ _ _

theorem find?_subscript_of_ne {f : PlayerInfo → PlayerInfo} {other : UInt64} (h : other ≠ guid) :
    (channel.subscript guid f).players.find? other = channel.players.find? other :=
  OrderedMap.find?_assign_of_ne _ h _

theorem Kept.subscript (h : Kept channel) (on : channel.isOn guid = true)
    {f : PlayerInfo → PlayerInfo} (same : ∀ info, (f info).player = info.player)
    (flag : ∀ info, (f info).isOwner = info.isOwner) : Kept (channel.subscript guid f) := by
  obtain ⟨info, found⟩ := isOn_iff.mp on
  have self : (channel.subscript guid f).players.find? guid = some (f info) := by
    rw [find?_subscript_self, found]
    rfl
  have lookup : ∀ other new, (channel.subscript guid f).players.find? other = some new →
      ∃ old, channel.players.find? other = some old ∧ new.player = old.player ∧
        new.isOwner = old.isOwner := by
    intro other new hnew
    by_cases same' : other = guid
    · rw [same'] at hnew ⊢
      rw [self] at hnew
      cases hnew
      exact ⟨info, found, same info, flag info⟩
    · rw [find?_subscript_of_ne same'] at hnew
      exact ⟨new, hnew, rfl, rfl⟩
  constructor
  · constructor
    · intro other new hnew owns
      obtain ⟨old, hold, -, owner⟩ := lookup other new hnew
      exact h.alone other old hold (owner ▸ owns)
    · intro other new hnew
      obtain ⟨old, hold, player, -⟩ := lookup other new hnew
      exact player.trans (h.named other old hold)
    · intro other mem
      have absent := h.banned other mem
      have other_ne : other ≠ guid := by
        rintro rfl
        rw [absent] at found
        exact nomatch found
      rw [find?_subscript_of_ne other_ne]
      exact absent
  · refine h.owner.imp id ?_
    rintro ⟨old, hold, owns⟩
    by_cases same' : channel.ownerGuid = guid
    · refine ⟨f info, ?_, ?_⟩
      · exact same' ▸ self
      · rw [same', found] at hold
        cases hold
        rw [flag]
        exact owns
    · exact ⟨old, (find?_subscript_of_ne same').trans hold, owns⟩

theorem find?_releaseOwner (channel : Channel) (guid : UInt64) :
    channel.releaseOwner.players.find? guid =
      if guid = channel.ownerGuid then (channel.players.find? guid).map (·.setOwner false)
      else channel.players.find? guid := by
  simp only [releaseOwner]
  split
  · rename_i info found
    split
    · rename_i same
      rw [same, OrderedMap.find?_assign_self, found]
      rfl
    · rename_i other
      exact OrderedMap.find?_assign_of_ne _ other _
  · rename_i absent
    split
    · rename_i same
      rw [same, absent]
      rfl
    · rfl

theorem releaseOwner_frame (channel : Channel) :
    channel.releaseOwner.banned = channel.banned ∧ channel.releaseOwner.ownerGuid =
      channel.ownerGuid := by
  simp only [releaseOwner]
  split <;> exact ⟨rfl, rfl⟩

theorem accepts_ne_zero (h : channel.accepts accessor guid = true) : guid ≠ 0 := by
  rintro rfl
  rw [accepts, accessor.getPlayer_empty] at h
  exact Bool.false_ne_true h

theorem setOwner_refused {exclaim : Bool} (h : channel.accepts accessor guid = false) :
    (channel.setOwner accessor guid exclaim).1 = channel := by
  rw [setOwner, if_pos (by rw [h]; rfl)]

theorem setOwner_refused_with {exclaim : Bool} (h : channel.accepts accessor guid = false)
    (players : OrderedMap UInt64 PlayerInfo) (banned : Finset UInt64) :
    (Channel.setOwner accessor { channel with players := players, banned := banned }
      guid exclaim).1 =
      { channel with players := players, banned := banned } :=
  setOwner_refused h

/-- The channel whose former owner has no flag any more. -/
def withoutOwner (channel : Channel) : Channel :=
  if channel.ownerGuid ≠ 0 then channel.releaseOwner else channel

theorem setOwner_accepted {exclaim : Bool} (h : channel.accepts accessor guid = true) :
    (channel.setOwner accessor guid exclaim).1 =
      ({ channel.withoutOwner with ownerGuid := guid } : Channel).subscript guid
        (·.setOwner true) := by
  rw [setOwner, if_neg (by rw [h]; exact Bool.false_ne_true)]
  simp only [if_pos (accepts_ne_zero h)]
  rfl

theorem Loose.find?_withoutOwner (h : Loose channel) {info : PlayerInfo}
    (found : channel.withoutOwner.players.find? guid = some info) :
    info.player = guid ∧ info.isOwner = false ∧ channel.isOn guid = true := by
  simp only [withoutOwner] at found
  split at found
  · rw [find?_releaseOwner] at found
    split at found
    · obtain ⟨old, hold, rfl⟩ := Option.map_eq_some_iff.mp found
      exact ⟨h.named guid old hold, old.isOwner_setOwner false, isOn_iff.mpr ⟨old, hold⟩⟩
    · rename_i other
      refine ⟨h.named guid info found, ?_, isOn_iff.mpr ⟨info, found⟩⟩
      by_contra owns
      exact other (h.alone guid info found (Bool.not_eq_false _ ▸ owns)).1
  · rename_i nobody
    have nobody := not_not.mp nobody
    refine ⟨h.named guid info found, ?_, isOn_iff.mpr ⟨info, found⟩⟩
    by_contra owns
    obtain ⟨same, nonzero⟩ := h.alone guid info found (Bool.not_eq_false _ ▸ owns)
    exact nonzero (same.trans nobody)

theorem isOn_withoutOwner (on : channel.isOn guid = true) :
    channel.withoutOwner.isOn guid = true := by
  obtain ⟨info, found⟩ := isOn_iff.mp on
  rw [isOn, withoutOwner]
  split
  · rw [find?_releaseOwner, found]
    split <;> rfl
  · rw [found]
    rfl

theorem withoutOwner_banned (channel : Channel) : channel.withoutOwner.banned = channel.banned := by
  rw [withoutOwner]
  split
  · exact channel.releaseOwner_frame.1
  · rfl

theorem Loose.setOwner (h : Loose channel) (accepted : channel.accepts accessor guid = true)
    (on : channel.isOn guid = true) (exclaim : Bool) :
    Kept (channel.setOwner accessor guid exclaim).1 := by
  rw [setOwner_accepted accepted]
  obtain ⟨info, found⟩ := isOn_iff.mp (isOn_withoutOwner on)
  have self : (({ channel.withoutOwner with ownerGuid := guid } : Channel).subscript guid
      (·.setOwner true)).players.find? guid = some (info.setOwner true) := by
    rw [find?_subscript_self]
    exact congrArg (fun entry => some ((Option.getD entry ⟨0, 0⟩).setOwner true)) found
  have others : ∀ other, other ≠ guid →
      (({ channel.withoutOwner with ownerGuid := guid } : Channel).subscript guid
        (·.setOwner true)).players.find? other = channel.withoutOwner.players.find? other :=
    fun other apart => find?_subscript_of_ne apart
  constructor
  · constructor
    · intro other new hnew owns
      by_cases same : other = guid
      · exact ⟨same, same ▸ accepts_ne_zero accepted⟩
      · rw [others other same] at hnew
        rw [(h.find?_withoutOwner hnew).2.1] at owns
        exact absurd owns Bool.false_ne_true
    · intro other new hnew
      by_cases same : other = guid
      · rw [same, self] at hnew
        cases hnew
        rw [same]
        exact (h.find?_withoutOwner found).1
      · rw [others other same] at hnew
        exact (h.find?_withoutOwner hnew).1
    · intro other mem
      have absent := h.banned other (channel.withoutOwner_banned ▸ mem)
      by_contra present
      obtain ⟨new, hnew⟩ := Option.ne_none_iff_exists'.mp present
      have member : channel.isOn other = true := by
        by_cases same : other = guid
        · exact same ▸ on
        · rw [others other same] at hnew
          exact (h.find?_withoutOwner hnew).2.2
      rw [isOn, absent] at member
      exact Bool.false_ne_true member
  · exact Or.inr ⟨_, self, info.isOwner_setOwner true⟩

/-- Taking a member out, and perhaps banning it. -/
theorem Loose.erase (h : Loose channel) (guid : UInt64) {banned : Finset UInt64}
    (more : ∀ other ∈ banned, other = guid ∨ other ∈ channel.banned) :
    Loose { channel with players := channel.players.erase guid, banned := banned } := by
  have lookup : ∀ other info, (channel.players.erase guid).find? other = some info →
      channel.players.find? other = some info := by
    intro other info found
    by_cases same : other = guid
    · rw [same, OrderedMap.find?_erase_self] at found
      exact nomatch found
    · rwa [OrderedMap.find?_erase_of_ne _ same] at found
  constructor
  · exact fun other info found => h.alone other info (lookup other info found)
  · exact fun other info found => h.named other info (lookup other info found)
  · intro other mem
    by_cases same : other = guid
    · rw [same]
      exact OrderedMap.find?_erase_self _ _
    · rcases more other mem with rfl | mem
      · exact absurd rfl same
      · exact (OrderedMap.find?_erase_of_ne _ same).trans (h.banned other mem)

/-- A member who is not the owner may go. -/
theorem Kept.erase (h : Kept channel) (guid : UInt64) {banned : Finset UInt64}
    (more : ∀ other ∈ banned, other = guid ∨ other ∈ channel.banned)
    (plain : ∀ info, channel.players.find? guid = some info → info.isOwner = false) :
    Kept { channel with players := channel.players.erase guid, banned := banned } := by
  refine ⟨h.toLoose.erase guid more, h.owner.imp id ?_⟩
  rintro ⟨info, found, owns⟩
  refine ⟨info, ?_, owns⟩
  have other : channel.ownerGuid ≠ guid := by
    intro same
    rw [plain info (same ▸ found)] at owns
    exact Bool.false_ne_true owns
  exact (OrderedMap.find?_erase_of_ne _ other).trans found

section Commands

theorem getPlayer_of_security (h : secObserver ≤ securityOf accessor guid) :
    ∃ player, accessor.getPlayer guid = some player ∧ secObserver ≤ player.security := by
  rw [securityOf] at h
  cases found : accessor.getPlayer guid with
  | none =>
      rw [found] at h
      exact absurd h (by decide)
  | some player =>
      rw [found] at h
      exact ⟨player, rfl, h⟩

/-- `SetOwner` takes every game master. -/
theorem accepts_of_security (h : secObserver ≤ securityOf accessor guid) :
    channel.accepts accessor guid = true := by
  obtain ⟨player, found, master⟩ := getPlayer_of_security h
  rw [accepts, found]
  simp only [decide_eq_false (UInt32.not_lt.mpr master), Bool.and_false, Bool.not_false]

theorem refuses_none (h : channel.refuses accessor guid = none) :
    channel.isOn guid = true ∧
      (channel.moderates guid = true ∨ secObserver ≤ securityOf accessor guid) := by
  simp only [refuses] at h
  split at h
  · exact nomatch h
  · rename_i on
    have on : channel.isOn guid = true := by simpa using on
    split at h
    · exact nomatch h
    · rename_i allowed
      refine ⟨on, ?_⟩
      by_cases moderates : channel.moderates guid = true
      · exact Or.inl moderates
      · refine Or.inr (UInt32.not_lt.mp fun low => allowed ⟨?_, low⟩)
        simpa using moderates

theorem isOn_subscript (f : PlayerInfo → PlayerInfo) :
    (channel.subscript guid f).isOn guid = true :=
  isOn_iff.mpr ⟨_, find?_subscript_self⟩

theorem setOwner_isOn {exclaim : Bool} (accepted : channel.accepts accessor guid = true) :
    (channel.setOwner accessor guid exclaim).1.isOn guid = true := by
  rw [setOwner_accepted accepted]
  exact isOn_subscript _

theorem Kept.join (h : Kept channel) (guid : UInt64) (password : String) (checkPassword : Bool) :
    Kept (channel.join settings accessor guid password checkPassword).1 := by
  simp only [Channel.join]
  split
  · exact h
  · rename_i off
    split
    · exact h
    · rename_i free
      split
      · exact h
      · split
        · exact h
        · split
          · exact h
          · have absent : channel.players.find? guid = none := by simpa [isOn] using off
            have free : guid ∉ channel.banned := by simpa [isBanned] using free
            have joined : Kept { channel with
                players := channel.players.assign guid ⟨guid, memberFlagNone⟩ } := by
              have lookup : ∀ other info,
                  (channel.players.assign guid ⟨guid, memberFlagNone⟩).find? other = some info →
                    info = ⟨guid, memberFlagNone⟩ ∧ other = guid ∨
                      channel.players.find? other = some info := by
                intro other info found
                by_cases same : other = guid
                · rw [same, OrderedMap.find?_assign_self] at found
                  exact Or.inl ⟨(Option.some.inj found).symm, same⟩
                · rw [OrderedMap.find?_assign_of_ne _ same] at found
                  exact Or.inr found
              constructor
              · constructor
                · intro other info found owns
                  rcases lookup other info found with ⟨rfl, -⟩ | old
                  · rw [PlayerInfo.isOwner_none] at owns
                    exact absurd owns Bool.false_ne_true
                  · exact h.alone other info old owns
                · intro other info found
                  rcases lookup other info found with ⟨rfl, rfl⟩ | old
                  · rfl
                  · exact h.named other info old
                · intro other mem
                  have apart : other ≠ guid := fun same => free (same ▸ mem)
                  exact (OrderedMap.find?_assign_of_ne _ apart _).trans (h.banned other mem)
              · refine h.owner.imp id ?_
                rintro ⟨info, found, owns⟩
                refine ⟨info, ?_, owns⟩
                have apart : channel.ownerGuid ≠ guid := by
                  intro same
                  rw [same, absent] at found
                  exact nomatch found
                exact (OrderedMap.find?_assign_of_ne _ apart _).trans found
            have on : Channel.isOn { channel with
                players := channel.players.assign guid ⟨guid, memberFlagNone⟩ } guid = true :=
              isOn_iff.mpr ⟨_, OrderedMap.find?_assign_self _ _ _⟩
            split
            · cases accepted : channel.accepts accessor guid with
              | true =>
                  refine (joined.toLoose.setOwner accepted on _).subscript
                    (f := (·.setModerator true)) ?_ (fun _ => rfl) fun info =>
                      info.isOwner_setModerator true
                  exact setOwner_isOn accepted
              | false =>
                  rw [setOwner_refused_with accepted]
                  exact joined.subscript on (f := (·.setModerator true)) (fun _ => rfl) fun info =>
                    info.isOwner_setModerator true
            · exact joined

theorem Kept.setMode (h : Kept channel) (guid : UInt64) (targetName : String)
    (moderator set : Bool) :
    Kept (channel.setMode settings accessor guid targetName moderator set).1 := by
  simp only [Channel.setMode]
  split
  · exact h
  · split
    · exact h
    · split
      · exact h
      · rename_i target _
        split
        · exact h
        · split
          · exact h
          · rename_i on
            have on : channel.isOn target.guid = true := by simpa using on
            split
            · exact h
            · split
              · exact h
              · split
                · split
                  · exact h
                  · simp only [Channel.setModerator]
                    split
                    · exact h.subscript on (f := (·.setModerator set)) (fun _ => rfl) fun info =>
                        info.isOwner_setModerator set
                    · exact h
                · simp only [Channel.setMute]
                  split
                  · exact h.subscript on (f := (·.setMuted set)) (fun _ => rfl) fun info =>
                      info.isOwner_setMuted set
                  · exact h

theorem Kept.setOwnerByName (h : Kept channel) (guid : UInt64) (targetName : String) :
    Kept (channel.setOwnerByName settings accessor guid targetName).1 := by
  simp only [Channel.setOwnerByName]
  split
  · exact h
  · split
    · exact h
    · split
      · exact h
      · split
        · exact h
        · rename_i target _
          split
          · exact h
          · rename_i on
            have on : channel.isOn target.guid = true := by simpa using on
            split
            · exact h
            · split
              · exact h
              · have moderator : Kept (channel.subscript target.guid (·.setModerator true)) :=
                  h.subscript on (f := (·.setModerator true)) (fun _ => rfl) fun info =>
                    info.isOwner_setModerator true
                cases accepted :
                  (channel.subscript target.guid (·.setModerator true)).accepts accessor
                    target.guid with
                | true => exact moderator.toLoose.setOwner accepted (isOn_subscript _) true
                | false =>
                    rw [setOwner_refused accepted]
                    exact moderator

theorem Kept.unBan (h : Kept channel) (guid : UInt64) (targetName : String) :
    Kept (channel.unBan accessor guid targetName).1 := by
  simp only [Channel.unBan]
  split
  · exact h
  · split
    · exact h
    · split
      · exact h
      · exact ⟨⟨h.alone, h.named, fun other mem => h.banned other (Finset.mem_of_mem_erase mem)⟩,
          h.owner⟩

theorem Kept.setPassword (h : Kept channel) (guid : UInt64) (password : String) :
    Kept (channel.setPassword accessor guid password).1 := by
  simp only [Channel.setPassword]
  split
  · exact h
  · exact ⟨⟨h.alone, h.named, h.banned⟩, h.owner⟩

end Commands

section Departures

/-- The owner passes the channel on to the first member that stays, whom `SetOwner` takes. -/
def HandsOver (channel : Channel) (accessor : Accessor) (guid : UInt64) : Prop :=
  ∃ first ∈ (channel.players.erase guid).entries.head?, channel.accepts accessor first.1 = true

def Orderly (channel : Channel) (event : Accessor × Command) : Prop :=
  match event.2 with
  | .leave guid _ =>
      ∀ info ∈ channel.players.find? guid, info.isOwner = true → channel.HandsOver event.1 guid
  | .kickOrBan guid targetName _ =>
      ∀ info ∈ channel.players.find? guid, info.isOwner = true →
        channel.refuses event.1 guid = none →
          ∀ target ∈ event.1.inWorldByName targetName, target.guid ≠ guid
  | _ => True

/-- After a kick or a ban that was announced the target is no member. -/
def KickedOut (channel : Channel) (event : Accessor × Command) : Prop :=
  match event.2 with
  | .kickOrBan guid targetName ban =>
      ∀ target ∈ event.1.inWorldByName targetName,
        (.toAll (.playerKicked target.guid guid) ∈
          (channel.kickOrBan event.1 guid targetName ban).2 ∨
          .toAll (.playerBanned target.guid guid) ∈
            (channel.kickOrBan event.1 guid targetName ban).2) →
        (channel.kickOrBan event.1 guid targetName ban).1.isOn target.guid = false
  | _ => True

theorem Kept.not_owned_erase (h : Kept channel) {info : PlayerInfo}
    (found : channel.players.find? guid = some info) (owns : info.isOwner = true)
    (banned : Finset UInt64) :
    ¬ Owned { channel with players := channel.players.erase guid, banned := banned } := by
  intro owned
  obtain ⟨same, nonzero⟩ := h.alone guid info found owns
  rcases owned.owner with none | ⟨info, there, -⟩
  · exact nonzero (same.trans none)
  · have there : (channel.players.erase guid).find? guid = some info := by rwa [← same] at there
    rw [OrderedMap.find?_erase_self] at there
    exact nomatch there

theorem Kept.leave (h : Kept channel) {guid : UInt64} {send : Bool}
    (orderly : channel.Orderly (accessor, .leave guid send)) :
    Kept (channel.leave settings accessor guid send).1 := by
  have same : ∀ other ∈ channel.banned, other = guid ∨ other ∈ channel.banned :=
    fun _ mem => Or.inr mem
  simp only [Channel.leave]
  split
  · exact h
  · rename_i info found
    split
    · rename_i owns
      obtain ⟨first, head, accepted⟩ := orderly info found owns
      obtain ⟨rest, hentries⟩ : ∃ rest, (channel.players.erase guid).entries = first :: rest :=
        List.head?_eq_some_iff.mp head
      have loose := h.toLoose.erase guid same
      have stays : (channel.players.erase guid).find? first.1 = some first.2 :=
        OrderedMap.find?_eq_some_iff.mpr (hentries ▸ List.mem_cons_self)
      simp only [hentries, loose.named first.1 first.2 stays]
      exact loose.setOwner accepted (isOn_iff.mpr ⟨_, stays⟩) true
    · rename_i plain
      refine h.erase guid same ?_
      intro other hother
      rw [found] at hother
      cases hother
      simpa using plain

theorem Kept.leave_disorderly (h : Kept channel) {guid : UInt64} {send : Bool}
    (disorderly : ¬ channel.Orderly (accessor, .leave guid send)) :
    ¬ Owned (channel.leave settings accessor guid send).1 := by
  simp only [Orderly, not_forall] at disorderly
  obtain ⟨info, found, owns, kept⟩ := disorderly
  have found : channel.players.find? guid = some info := found
  have loose := h.toLoose.erase guid fun other (mem : other ∈ channel.banned) => Or.inr mem
  have gone := h.not_owned_erase found owns channel.banned
  simp only [Channel.leave, found, if_pos owns]
  cases hentries : (channel.players.erase guid).entries with
  | nil =>
      have refused : channel.accepts accessor 0 = false := by
        rw [accepts, accessor.getPlayer_empty]
      rw [setOwner_refused_with refused]
      exact gone
  | cons first rest =>
      have stays : (channel.players.erase guid).find? first.1 = some first.2 :=
        OrderedMap.find?_eq_some_iff.mpr (hentries ▸ List.mem_cons_self)
      have refused : channel.accepts accessor first.1 = false := by
        by_contra accepted
        refine kept ⟨first, ?_, Bool.not_eq_false _ ▸ accepted⟩
        rw [hentries]
        rfl
      simp only [loose.named first.1 first.2 stays]
      rw [setOwner_refused_with refused]
      exact gone

structure Carried (accessor : Accessor) (channel : Channel) (guid : UInt64)
    (target : PlayerPointer) (result : Channel × List Notice) : Prop where
  member : channel.isOn target.guid = true
  allowed : ¬ (securityOf accessor guid < secObserver ∧ channel.ownerGuid = target.guid ∧
    guid ≠ channel.ownerGuid)
  announced : .toAll (.playerKicked target.guid guid) ∈ result.2 ∨
    .toAll (.playerBanned target.guid guid) ∈ result.2
  state : ∃ banned : Finset UInt64,
    (∀ other ∈ banned, other = target.guid ∨ other ∈ channel.banned) ∧
    result.1 =
      if channel.ownerGuid = target.guid then
        (Channel.setOwner accessor { channel with
          players := channel.players.erase target.guid, banned := banned }
          (if (channel.players.erase target.guid).entries ≠ [] then guid else 0) true).1
      else { channel with players := channel.players.erase target.guid, banned := banned }

theorem kickOrBan_cases (accessor : Accessor) (channel : Channel) (guid : UInt64)
    (targetName : String) (ban : Bool) :
    (∃ target, channel.refuses accessor guid = none ∧
      accessor.inWorldByName targetName = some target ∧
        Carried accessor channel guid target (channel.kickOrBan accessor guid targetName ban)) ∨
      (∃ notify, channel.kickOrBan accessor guid targetName ban = (channel, [.toOne guid notify])) ∧
        (channel.refuses accessor guid = none →
          ∀ target, accessor.inWorldByName targetName = some target →
          channel.isOn target.guid = true → guid ≠ channel.ownerGuid) := by
  simp only [Channel.kickOrBan]
  cases refusal : channel.refuses accessor guid with
  | some notify =>
      exact Or.inr ⟨⟨notify, rfl⟩, fun none => nomatch none⟩
  | none =>
      cases found : accessor.inWorldByName targetName with
      | none => exact Or.inr ⟨⟨_, rfl⟩, fun _ _ none => nomatch none⟩
      | some target =>
          have only : ∀ other, some target = some other → target = other := fun _ => Option.some.inj
          by_cases on : channel.isOn target.guid = true
          · by_cases owner : securityOf accessor guid < secObserver ∧
                channel.ownerGuid = target.guid ∧ guid ≠ channel.ownerGuid
            · refine Or.inr ⟨⟨.notOwner, ?_⟩, fun _ _ _ _ => owner.2.2⟩
              simp only
              rw [if_neg (by simp [on]), if_pos owner]
            · refine Or.inl ⟨target, rfl, rfl, ?_⟩
              simp only
              rw [if_neg (by simp [on]), if_neg owner]
              refine ⟨on, owner, ?_, ?_⟩
              · cases ban && !channel.isBanned target.guid
                · refine Or.inl ?_
                  split <;> exact List.mem_cons_self
                · refine Or.inr ?_
                  split <;> exact List.mem_cons_self
              · refine ⟨if ban && !channel.isBanned target.guid then insert target.guid
                  channel.banned
                  else channel.banned, ?_, ?_⟩
                · intro other mem
                  split at mem
                  · exact Finset.mem_insert.mp mem
                  · exact Or.inr mem
                · split <;> rfl
          · refine Or.inr ⟨⟨.playerNotFound targetName, ?_⟩, ?_⟩
            · simp only
              rw [if_pos (by simpa using on)]
            · intro _ other same there
              exact absurd (only other same ▸ there) on

/-- Only the new owner can be a member that was none before. -/
theorem isOn_setOwner {exclaim : Bool} {other : UInt64} (h : Loose channel)
    (off : channel.isOn other = false) (apart : other ≠ guid) :
    (channel.setOwner accessor guid exclaim).1.isOn other = false := by
  cases accepted : channel.accepts accessor guid with
  | false =>
      rw [setOwner_refused accepted]
      exact off
  | true =>
      rw [setOwner_accepted accepted, isOn, find?_subscript_of_ne apart]
      by_contra on
      obtain ⟨info, found⟩ := Option.isSome_iff_exists.mp (Bool.not_eq_false _ ▸ on)
      rw [(h.find?_withoutOwner found).2.2] at off
      exact Bool.false_ne_true off.symm

theorem isOn_erase_self {banned : Finset UInt64} :
    Channel.isOn { channel with players := channel.players.erase guid, banned := banned } guid =
      false := by
  rw [isOn, OrderedMap.find?_erase_self]
  rfl

theorem Kept.kickOrBan (h : Kept channel) {guid : UInt64} {targetName : String} {ban : Bool}
    (orderly : channel.Orderly (accessor, .kickOrBan guid targetName ban)) :
    Kept (channel.kickOrBan accessor guid targetName ban).1 ∧
      channel.KickedOut (accessor, .kickOrBan guid targetName ban) := by
  rcases kickOrBan_cases accessor channel guid targetName ban with
    ⟨target, passed, found, carried⟩ | ⟨⟨notify, result⟩, -⟩
  · obtain ⟨banned, more, state⟩ := carried.state
    have loose := h.toLoose.erase target.guid more
    have on := (refuses_none passed).1
    have done : Kept (channel.kickOrBan accessor guid targetName ban).1 ∧
        (channel.kickOrBan accessor guid targetName ban).1.isOn target.guid = false := by
      rw [state]
      by_cases owner : channel.ownerGuid = target.guid
      · rw [if_pos owner]
        by_cases self : target.guid = guid
        · -- without the owner flag only an empty guid is its own owner
          have plain : ∀ info, channel.players.find? target.guid = some info →
            info.isOwner = false := by
            intro info member
            by_contra owns
            exact orderly info (self ▸ member) (Bool.not_eq_false _ ▸ owns) passed target found self
          have zero : target.guid = 0 := by
            rcases h.owner with none | ⟨info, member, owns⟩
            · exact owner.symm.trans none
            · rw [plain info (owner ▸ member)] at owns
              exact absurd owns Bool.false_ne_true
          have refused : channel.accepts accessor
              (if (channel.players.erase target.guid).entries ≠ [] then guid else 0) = false := by
            rw [show guid = 0 from self.symm.trans zero, ite_self, accepts,
              accessor.getPlayer_empty]
          rw [setOwner_refused_with refused]
          exact ⟨h.erase target.guid more plain, isOn_erase_self⟩
        · have master : secObserver ≤ securityOf accessor guid := by
            by_contra low
            exact carried.allowed
              ⟨UInt32.not_le.mp low, owner, fun same => self (owner.symm.trans same.symm)⟩
          obtain ⟨info, member⟩ := isOn_iff.mp on
          have stays : (channel.players.erase target.guid).find? guid = some info :=
            (OrderedMap.find?_erase_of_ne _ (Ne.symm self)).trans member
          have some : (channel.players.erase target.guid).entries ≠ [] :=
            List.ne_nil_of_mem (OrderedMap.find?_eq_some stays)
          rw [if_pos some]
          have accepted : channel.accepts accessor guid = true := accepts_of_security master
          exact ⟨loose.setOwner accepted (isOn_iff.mpr ⟨info, stays⟩) true,
            isOn_setOwner loose isOn_erase_self self⟩
      · rw [if_neg owner]
        refine ⟨h.erase target.guid more ?_, isOn_erase_self⟩
        intro info member
        by_contra owns
        exact owner (h.alone target.guid info member (Bool.not_eq_false _ ▸ owns)).1.symm
    refine ⟨done.1, ?_⟩
    intro other hother _
    have same : some other = some target := Eq.trans (Eq.symm hother) found
    rw [Option.some.inj same]
    exact done.2
  · refine ⟨result ▸ h, ?_⟩
    intro target _ announced
    rw [result] at announced
    simp at announced

theorem Kept.kickOrBan_disorderly (h : Kept channel) {guid : UInt64}
    {targetName : String} {ban : Bool}
    (disorderly : ¬ channel.Orderly (accessor, .kickOrBan guid targetName ban)) :
    ¬ (Owned (channel.kickOrBan accessor guid targetName ban).1 ∧
      channel.KickedOut (accessor, .kickOrBan guid targetName ban)) := by
  simp only [Orderly, not_forall, not_not] at disorderly
  obtain ⟨info, member, owns, passed, target, found, self⟩ := disorderly
  have member : channel.players.find? guid = some info := member
  have owner := (h.alone guid info member owns).1
  rcases kickOrBan_cases accessor channel guid targetName ban with
    ⟨other, -, found', carried⟩ | ⟨-, blocked⟩
  · have same : some target = some other := Eq.trans (Eq.symm found) found'
    cases Option.some.inj same
    obtain ⟨banned, more, state⟩ := carried.state
    rw [if_pos (owner.symm.trans self.symm), self] at state
    rintro ⟨owned, kickedOut⟩
    cases accepted : channel.accepts accessor
        (if (channel.players.erase guid).entries ≠ [] then guid else 0) with
    | false =>
        rw [state, setOwner_refused_with accepted] at owned
        exact h.not_owned_erase member owns banned owned
    | true =>
        have out := kickedOut target found carried.announced
        have back : (if (channel.players.erase guid).entries ≠ [] then guid else 0) = guid := by
          by_cases some : (channel.players.erase guid).entries ≠ []
          · exact if_pos some
          · rw [if_neg some] at accepted
            exact absurd rfl (accepts_ne_zero accepted)
        rw [back] at state accepted
        have accepted' : Channel.accepts accessor { channel with
          players := channel.players.erase guid, banned := banned } guid = true := accepted
        rw [state, setOwner_accepted accepted', self, isOn_subscript] at out
        exact Bool.false_ne_true out.symm
  · have on : channel.isOn target.guid = true := self ▸ isOn_iff.mpr ⟨info, member⟩
    exact absurd owner (blocked passed target found on)

end Departures

section Runs

theorem Kept.step (h : Kept channel) {event : Accessor × Command}
    (orderly : channel.Orderly event) :
    Kept (channel.step settings event) ∧ channel.KickedOut event := by
  obtain ⟨accessor, command⟩ := event
  cases command with
  | join guid password checkPassword => exact ⟨h.join guid password checkPassword, trivial⟩
  | leave guid send => exact ⟨h.leave orderly, trivial⟩
  | kickOrBan guid targetName ban => exact h.kickOrBan orderly
  | unBan guid targetName => exact ⟨h.unBan guid targetName, trivial⟩
  | password guid password => exact ⟨h.setPassword guid password, trivial⟩
  | setMode guid targetName moderator set =>
      exact ⟨h.setMode guid targetName moderator set, trivial⟩
  | setOwner guid targetName => exact ⟨h.setOwnerByName guid targetName, trivial⟩

theorem Kept.step_disorderly (h : Kept channel) {event : Accessor × Command}
    (disorderly : ¬ channel.Orderly event) :
    ¬ (Owned (channel.step settings event) ∧ channel.KickedOut event) := by
  obtain ⟨accessor, command⟩ := event
  cases command with
  | leave guid send => exact fun both => h.leave_disorderly disorderly both.1
  | kickOrBan guid targetName ban => exact h.kickOrBan_disorderly disorderly
  | _ => exact absurd trivial disorderly

/-- A channel as it is constructed, with any settings: no members, no owner. -/
def create (announce : Bool) (password : String) (flags securityLevel : UInt8)
    (channelId : UInt32) :
    Channel :=
  ⟨announce, password, flags, securityLevel, channelId, 0, OrderedMap.empty, ∅⟩

theorem kept_create (announce : Bool) (password : String) (flags securityLevel : UInt8)
    (channelId : UInt32) : Kept (create announce password flags securityLevel channelId) where
  alone _ _ found := nomatch found
  named _ _ found := nomatch found
  banned _ mem := absurd mem (Finset.notMem_empty _)
  owner := Or.inl rfl

/-- Every step leaves one owner, no banned members and kicked players out, exactly when no
owner kicks itself and every owner that leaves hands the channel over. -/
theorem ownership_kept_iff (settings : Settings) (announce : Bool) (password : String)
    (flags securityLevel : UInt8) (channelId : UInt32) (events : List (Accessor × Command)) :
    Along (step settings)
      (fun channel event => Owned (channel.step settings event) ∧ channel.KickedOut event)
        (create announce password flags securityLevel channelId) events ↔
      Along (step settings) Orderly
        (create announce password flags securityLevel channelId) events := by
  refine along_iff (I := Kept) (fun channel event h => ⟨?_, ?_⟩) (fun _ _ h ok => (h.step ok).1)
    (kept_create announce password flags securityLevel channelId) events
  · intro both
    by_contra disorderly
    exact h.step_disorderly disorderly both
  · intro orderly
    have kept : Kept (channel.step settings event) ∧ channel.KickedOut event := h.step orderly
    exact ⟨kept.1.owned, kept.2⟩

/-- Everybody is online, without rights and in one team; names are those of two players. -/
def twoPlayers : Accessor where
  getPlayer guid := if guid = 0 then none else some ⟨guid, 0, 0, 0⟩
  getPlayerByName name := if name = "One" then some ⟨1, 0, 0, 0⟩ else some ⟨2, 0, 0, 0⟩
  inWorldByName name := if name = "One" then some ⟨1, 0, 0, 0⟩ else some ⟨2, 0, 0, 0⟩
  getPlayer_empty := rfl

/-- An owner that bans itself is entered again as the new owner, and one that leaves an empty
channel stays its owner. -/
theorem banned_owner_stays :
    ¬ Owned (run (step ⟨false, false⟩) (create true "" channelFlagCustom 0 0)
      [(twoPlayers, .join 1 "" true), (twoPlayers, .join 2 "" true),
        (twoPlayers, .kickOrBan 1 "One" true)]) ∧
    ¬ Owned (run (step ⟨false, false⟩) (create true "" channelFlagCustom 0 0)
      [(twoPlayers, .join 1 "" true), (twoPlayers, .leave 1 true)]) := by
  constructor
  · intro owned
    have absent := owned.banned 1 (by decide +kernel)
    exact absurd absent (by decide +kernel)
  · intro owned
    rcases owned.owner with none | ⟨info, found, -⟩
    · exact absurd none (by decide +kernel)
    · exact nomatch found

end Runs

end Channel

end TortoiseWow.Chat
