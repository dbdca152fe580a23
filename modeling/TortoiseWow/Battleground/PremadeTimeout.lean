import TortoiseWow.Battleground.Representation

/-!
The timeout of the premade check: JoinTime against an absolute time before now, both
readings of a millisecond clock that starts again after 2^32 - 1.
-/

namespace TortoiseWow.Battleground

/-- WorldTimer::getMSTime, `elapsed` milliseconds after the start of the server. -/
def getMSTime (elapsed : Nat) : UInt32 := UInt32.ofNat (elapsed % 0xFFFFFFFF)

theorem getMSTime_toNat (elapsed : Nat) : (getMSTime elapsed).toNat = elapsed % 0xFFFFFFFF := by
  have below := Nat.mod_lt elapsed (show 0 < 0xFFFFFFFF by decide)
  exact UInt32.toNat_ofNat_of_lt' (Nat.lt_trans below (by decide))

theorem lt_timeBefore_iff (wait : UInt32) (joined now : Nat) :
    getMSTime joined < getMSTime now - wait ↔
      if now % 0xFFFFFFFF < wait.toNat then
        joined % 0xFFFFFFFF + wait.toNat < now % 0xFFFFFFFF + 2 ^ 32
      else joined % 0xFFFFFFFF + wait.toNat < now % 0xFFFFFFFF := by
  have below := wait.toNat_lt
  have reading := Nat.mod_lt now (show 0 < 0xFFFFFFFF by decide)
  rw [UInt32.lt_iff_toNat_lt, UInt32.toNat_sub, getMSTime_toNat, getMSTime_toNat]
  generalize now % 0xFFFFFFFF = reads at reading ⊢
  generalize joined % 0xFFFFFFFF = joinedReads
  split
  case isTrue wrapped =>
      have value : (2 ^ 32 - wait.toNat + reads) % 2 ^ 32 = 2 ^ 32 - wait.toNat + reads :=
        Nat.mod_eq_of_lt (by omega)
      omega
  case isFalse unwrapped =>
      have value : (2 ^ 32 - wait.toNat + reads) % 2 ^ 32 = reads - wait.toNat := by
        rw [show 2 ^ 32 - wait.toNat + reads = reads - wait.toNat + 2 ^ 32 by omega,
          Nat.add_mod_right]
        exact Nat.mod_eq_of_lt (by omega)
      omega

/-- When comparing with time_before tells how long the group has waited: in the cycle
of the clock in which it joined, once the clock has reached the wait; in the next
cycle, until the clock reaches the wait or when it has passed the sum of both; later,
whenever JoinTime is below time_before. -/
def Timely (wait : UInt32) (joined now : Nat) : Prop :=
  match now / 0xFFFFFFFF - joined / 0xFFFFFFFF with
  | 0 => wait.toNat ≤ now % 0xFFFFFFFF
  | 1 => now % 0xFFFFFFFF < wait.toNat ∨ joined % 0xFFFFFFFF + wait.toNat < now % 0xFFFFFFFF
  | _ + 2 => getMSTime joined < getMSTime now - wait

/-- Of a comparison that stands for the group's move: not before the wait is over, and
always when it is. -/
theorem timely_iff (wait : UInt32) {joined now : Nat} (order : joined ≤ now) :
    ((getMSTime joined < getMSTime now - wait → wait.toNat ≤ now - joined) ∧
      (wait.toNat < now - joined → getMSTime joined < getMSTime now - wait)) ↔
      Timely wait joined now := by
  have below := wait.toNat_lt
  have cycles := Nat.div_le_div_right (c := 0xFFFFFFFF) order
  have ofJoined := Nat.mod_lt joined (show 0 < 0xFFFFFFFF by decide)
  have ofNow := Nat.mod_lt now (show 0 < 0xFFFFFFFF by decide)
  have joinedAt := Nat.div_add_mod joined 0xFFFFFFFF
  have nowAt := Nat.div_add_mod now 0xFFFFFFFF
  simp only [Timely]
  split
  case h_1 same =>
      rw [lt_timeBefore_iff]
      split <;> omega
  case h_2 next =>
      rw [lt_timeBefore_iff]
      split <;> omega
  case h_3 further later =>
      rw [lt_timeBefore_iff]
      split <;> omega

namespace State

/-- The group at the head of the premade list went to the end of the normal one. -/
def MovedToNormal (s s' : State) (bracket : Bracket) (team : Team) (ptr : Ptr) : Prop :=
  s.queuedGroups bracket .premade team = ptr :: s'.queuedGroups bracket .premade team ∧
    s'.queuedGroups bracket .normal team = s.queuedGroups bracket .normal team ++ [ptr]

instance (s s' : State) (bracket : Bracket) (team : Team) (ptr : Ptr) :
    Decidable (s.MovedToNormal s' bracket team ptr) :=
  inferInstanceAs (Decidable (_ ∧ _))

theorem not_moved_of_same {s s' : State} {bracket : Bracket} {team : Team} (ptr : Ptr)
    (same : s'.queuedGroups bracket .premade team = s.queuedGroups bracket .premade team) :
    ¬ s.MovedToNormal s' bracket team ptr := by
  intro moved
  have head := moved.1
  rw [same] at head
  exact absurd (congrArg List.length head) (by simp)

variable (config : Config) (moment : Moment) (bracket : Bracket) (minPlayers maxPlayers : Nat)

def premadeScanned (s : State) : State :=
  premadeScans.foldl
    (fun s place => s.scanPremade config moment.find bracket minPlayers maxPlayers place.1 place.2)
      s

/-- The scans fill both pools, so there is a match and no look at the timeout. -/
def premadeReady (s : State) : Bool :=
  (premadeScanned config moment bracket minPlayers maxPlayers s).poolsReady config minPlayers

theorem PoolsOnly.premadeScanned (s : State) :
    PoolsOnly s (premadeScanned config moment bracket minPlayers maxPlayers s) := by
  have alongScans : ∀ (places : List (Kind × Team)) (s : State),
      PoolsOnly s (places.foldl (fun s place =>
        State.scanPremade config moment.find bracket minPlayers maxPlayers s place.1 place.2)
          s) := by
    intro places
    induction places with
    | nil => exact fun s => PoolsOnly.refl s
    | cons place rest ih => exact fun s => (PoolsOnly.scanPremade ..).trans (ih _)
  exact alongScans _ s

theorem PoolsOnly.queuedGroups {s s' : State} (only : PoolsOnly s s') :
    s'.queuedGroups = s.queuedGroups := by
  obtain ⟨pools, observed, ended, rfl⟩ := only
  rfl

theorem PoolsOnly.groups {s s' : State} (only : PoolsOnly s s') : s'.groups = s.groups := by
  obtain ⟨pools, observed, ended, rfl⟩ := only
  rfl

theorem moveToNormal_other (s : State) {team team' : Team} (other : team' ≠ team) (kind : Kind) :
    (s.moveToNormal config moment bracket minPlayers team).queuedGroups bracket kind team' =
      s.queuedGroups bracket kind team' := by
  simp only [moveToNormal]
  split
  case h_1 ptr rest found =>
      split
      · split
        · simp only [setGroups, other, and_false, if_false]
        · rfl
      · rfl
  case h_2 empty => rfl

theorem moveToNormal_groups (s : State) (team : Team) :
    (s.moveToNormal config moment bracket minPlayers team).groups = s.groups := by
  simp only [moveToNormal]
  split
  · split
    · split <;> rfl
    · rfl
  · rfl

variable {s : State} {team : Team} {ptr : Ptr} {rest : List Ptr} {ginfo : GroupQueueInfo}

theorem moveToNormal_iff (s₀ : State)
    (sameLists : ∀ kind, s.queuedGroups bracket kind team = s₀.queuedGroups bracket kind team)
    (first : s₀.queuedGroups bracket .premade team = ptr :: rest)
    (entry : s.groups.entry ptr = some ginfo)
    (uninvited : ginfo.isInvitedToBGInstanceGUID = 0) (large : minPlayers ≤ ginfo.players.length) :
    s₀.MovedToNormal (s.moveToNormal config moment bracket minPlayers team) bracket team ptr ↔
      ginfo.joinTime < moment.now - config.premadeGroupWaitForMatch := by
  have head : s.queuedGroups bracket .premade team = ptr :: rest := (sameLists _).trans first
  simp only [moveToNormal, head, entry]
  split
  case isTrue move =>
      have late := move.2.resolve_right (by omega)
      refine iff_of_true ⟨?_, ?_⟩ late
      · simpa [setGroups] using first
      · simpa [setGroups] using sameLists .normal
  case isFalse stay =>
      refine iff_of_false (not_moved_of_same ptr (sameLists _)) ?_
      exact fun late => stay ⟨uninvited, .inl late⟩

theorem checkPremadeMatch_moved_iff
    (first : s.queuedGroups bracket .premade team = ptr :: rest)
    (entry : s.groups.entry ptr = some ginfo)
    (uninvited : ginfo.isInvitedToBGInstanceGUID = 0) (large : minPlayers ≤ ginfo.players.length) :
    s.MovedToNormal (s.checkPremadeMatch config moment bracket minPlayers maxPlayers).2
        bracket team ptr ↔
      s.premadeReady config moment bracket minPlayers maxPlayers = false ∧
        ginfo.joinTime < moment.now - config.premadeGroupWaitForMatch := by
  have scanned := PoolsOnly.premadeScanned config moment bracket minPlayers maxPlayers s
  have lists := fun kind => congrFun (congrFun (congrFun scanned.queuedGroups bracket) kind) team
  have entryScanned := (congrArg (fun groups => groups.entry ptr) scanned.groups).trans entry
  have result : s.checkPremadeMatch config moment bracket minPlayers maxPlayers =
      if s.premadeReady config moment bracket minPlayers maxPlayers then
        (true, premadeScanned config moment bracket minPlayers maxPlayers s)
      else (false, (((premadeScanned config moment bracket minPlayers maxPlayers s).moveToNormal
        config moment bracket minPlayers .alliance).moveToNormal
        config moment bracket minPlayers .horde)) := rfl
  rw [result]
  cases ready : s.premadeReady config moment bracket minPlayers maxPlayers with
  | true =>
      refine iff_of_false (not_moved_of_same ptr (lists _)) ?_
      exact fun both => Bool.noConfusion both.1
  | false =>
      simp only [true_and]
      cases team with
      | alliance =>
          have moved := moveToNormal_iff config moment bracket minPlayers s lists first
            entryScanned uninvited large
          rw [← moved]
          have hordeLists := moveToNormal_other config moment bracket minPlayers
            ((premadeScanned config moment bracket minPlayers maxPlayers s).moveToNormal
              config moment bracket minPlayers .alliance) (show Team.alliance ≠ .horde by decide)
          simp only [Bool.false_eq_true, if_false, MovedToNormal, hordeLists]
      | horde =>
          refine moveToNormal_iff config moment bracket minPlayers s ?_ first ?_ uninvited large
          · intro kind
            rw [moveToNormal_other config moment bracket minPlayers _ (by decide)]
            exact lists kind
          · rw [moveToNormal_groups]
            exact entryScanned

/-- A first, uninvited premade group that is large enough is moved only after the wait
and surely after it, exactly when the readings of the clock are timely and no match
ends the check before; with a match it is not moved, which is right until the wait is
over. -/
theorem premade_timeout_iff {joined now : Nat}
    (first : s.queuedGroups bracket .premade team = ptr :: rest)
    (entry : s.groups.entry ptr = some ginfo)
    (uninvited : ginfo.isInvitedToBGInstanceGUID = 0) (large : minPlayers ≤ ginfo.players.length)
    (joinTime : ginfo.joinTime = getMSTime joined) (clock : moment.now = getMSTime now)
    (order : joined ≤ now) :
    let moved := s.MovedToNormal
      (s.checkPremadeMatch config moment bracket minPlayers maxPlayers).2 bracket team ptr
    let wait := config.premadeGroupWaitForMatch
    ((moved → wait.toNat ≤ now - joined) ∧ (wait.toNat < now - joined → moved)) ↔
      if s.premadeReady config moment bracket minPlayers maxPlayers then
        now - joined ≤ wait.toNat
      else Timely wait joined now := by
  intro moved wait
  have movedIff := checkPremadeMatch_moved_iff config moment bracket minPlayers maxPlayers first
    entry uninvited large
  rw [joinTime, clock] at movedIff
  cases ready : s.premadeReady config moment bracket minPlayers maxPlayers with
  | true =>
      have stays : ¬ moved := fun hmoved => by
        have both := movedIff.mp hmoved
        rw [ready] at both
        exact Bool.noConfusion both.1
      simp only [if_true]
      exact ⟨fun both => Nat.le_of_not_lt fun long => stays (both.2 long),
        fun short => ⟨fun hmoved => absurd hmoved stays, fun long => absurd long (by omega)⟩⟩
  | false =>
      have late : moved ↔ getMSTime joined < getMSTime now - wait := by
        simpa only [ready, true_and] using movedIff
      simp only [Bool.false_eq_true, if_false]
      rw [late]
      exact timely_iff wait order

/-- Five players of the alliance who join together. -/
def premadeParty : Party :=
  { members := [⟨1, .alliance⟩, ⟨2, .alliance⟩, ⟨3, .alliance⟩, ⟨4, .alliance⟩, ⟨5, .alliance⟩]
    membersCount := 5, distinct := by decide }

/-- The queue after the party joined for Warsong Gulch, `joined` milliseconds after the
start. -/
def premadeJoined (joined : Nat) : State :=
  ({} : State).addGroup 40 ⟨1, .alliance⟩ (some premadeParty)
    { bgTypeId := .ws, bracketId := 4, isPremade := true, instanceId := 0, now := getMSTime joined }

def premadeConfig : Config :=
  { bgTypeId := .ws, template := some ⟨5, 10, 20⟩, premadeQueueGroupMinSize := 5,
    premadeGroupWaitForMatch := 1800000, invitationType := 0 }

/-- An hour after the start the wait is kept: a group that joined forty minutes before
is moved. -/
theorem premade_timeout_after_an_hour :
    let moment : Moment := { now := getMSTime 3600000, find := fun _ => some {} }
    let s := premadeJoined 1200000
    let moved := s.MovedToNormal (s.checkPremadeMatch premadeConfig moment 4 5 10).2 4 .alliance 0
    ((moved → 1800000 ≤ 3600000 - 1200000) ∧ (1800000 < 3600000 - 1200000 → moved)) := by
  intro moment s moved
  have first : s.queuedGroups 4 .premade .alliance = 0 :: [] := by decide +kernel
  obtain ⟨ginfo, entry, uninvited, large, joinTime⟩ : ∃ ginfo, s.groups.entry 0 = some ginfo ∧
      ginfo.isInvitedToBGInstanceGUID = 0 ∧ 5 ≤ ginfo.players.length ∧
      ginfo.joinTime = getMSTime 1200000 := ⟨_, rfl, by decide +kernel⟩
  refine (@premade_timeout_iff premadeConfig moment 4 5 10 s .alliance 0 [] ginfo 1200000 3600000
    first entry uninvited large joinTime rfl (by decide)).mpr ?_
  have waiting : s.premadeReady premadeConfig moment 4 5 10 = false := by decide +kernel
  rw [waiting]
  exact show (1800000 : Nat) ≤ 3600000 from by decide

/-- Ten minutes after the start, a group that joined a minute ago is moved at once. -/
theorem moved_before_timeout :
    let moment : Moment := { now := getMSTime 600000, find := fun _ => some {} }
    let s := premadeJoined 540000
    s.MovedToNormal (s.checkPremadeMatch premadeConfig moment 4 5 10).2 4 .alliance 0 ∧
      ¬ premadeConfig.premadeGroupWaitForMatch.toNat ≤ 600000 - 540000 := by
  decide +kernel

end State

end TortoiseWow.Battleground
