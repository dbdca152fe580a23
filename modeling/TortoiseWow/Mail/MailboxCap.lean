import TortoiseWow.Mail.SendMail

/-!
The cap of 100 mails: the count goes through a uint8, in memory and from the table, so
it is kept exactly for the counts whose last byte is above 100.
-/

namespace TortoiseWow.Mails

namespace Receiver

def isOnline : Receiver → Bool
  | .online .. => true
  | .offline .. => false

def mailCount (guid : Guid) : Receiver → Nat
  | .online _ _ mailbox => mailbox.mails.length
  | .offline _ _ rows => storedCount rows guid

end Receiver

theorem mailsCount_toNat (n : Nat) : (UInt32.ofNat n).toUInt8.toNat = n % 256 := by
  rw [UInt32.toNat_toUInt8, UInt32.toNat_ofNat']
  exact Nat.mod_mod_of_dvd n (by decide)

theorem Mailbox.getMailSize_eq (box : Mailbox) :
    box.getMailSize = UInt32.ofNat box.mails.length := box.published

theorem mailsCount_of_sent {world : World} {sender : Sender} {req : AsyncMailSendRequest}
    {draft : Draft} (sent : handleSendMailCallback world sender req = .sent draft) :
    req.mailsCount.toNat ≤ 100 := by
  simp only [handleSendMailCallback] at sent
  split at sent
  · cases sent
  split at sent
  · cases sent
  split at sent
  · cases sent
  case isFalse room => exact UInt8.le_iff_toNat_le.mp (UInt8.not_lt.mp room)

theorem mailsCount_of_callback {world : World} {later : Option Sender} {result : Option UInt32}
    {req : AsyncMailSendRequest} {draft : Draft}
    (sent : req.callback world later result = .sent draft) :
    ((result.map UInt32.toUInt8).getD req.mailsCount).toNat ≤ 100 := by
  cases later with
  | none => cases sent
  | some sender => exact mailsCount_of_sent sent

theorem mailCount_of_sent {world : World} {sender : Sender} {packet : Packet}
    {later : Option Sender} {queryFails : Bool} {receiver : Guid} {subject : String} {draft : Draft}
    (checked : checkPacket world sender packet = .ok (receiver, subject))
    (sent : handleSendMail world sender packet later queryFails = .sent draft) :
    (world.receiver receiver).mailCount receiver % 256 ≤ 100 := by
  simp only [handleSendMail, checked] at sent
  cases found : world.receiver receiver with
  | online team hardcoreStatus mailbox =>
      simp only [found] at sent
      split at sent
      · cases sent
      · have count := mailsCount_of_callback sent
        simp only [Option.map_none, Option.getD_none] at count
        rwa [mailbox.getMailSize_eq, mailsCount_toNat] at count
  | offline team hardcoreStatus rows =>
      simp only [found] at sent
      split at sent
      · cases sent
      · have count := mailsCount_of_callback sent
        cases queryFails with
        | true => exact absurd (show (0xFF : UInt8).toNat ≤ 100 from count) (by decide)
        | false =>
            simp only [Bool.false_eq_true, if_false, Option.map_some, Option.getD_some] at count
            rwa [mailsCount_toNat] at count

theorem ok_of_ite_error {ε α : Type} {c : Prop} [Decidable c] {e : ε} {rest : Except ε α} {a : α}
    (checked : (if c then .error e else rest) = .ok a) : rest = .ok a := by
  split at checked
  · cases checked
  · exact checked

theorem checkPacket_receiver {world : World} {sender : Sender} {packet : Packet} {receiver : Guid}
    {subject : String} (checked : checkPacket world sender packet = .ok (receiver, subject)) :
    world.playerGuidByName packet.receiverName = some receiver := by
  have looked := ok_of_ite_error (ok_of_ite_error (ok_of_ite_error (ok_of_ite_error
    (ok_of_ite_error (ok_of_ite_error checked)))))
  cases found : world.playerGuidByName packet.receiverName with
  | none =>
      rw [found] at looked
      cases looked
  | some guid =>
      rw [found] at looked
      have same := ok_of_ite_error (ok_of_ite_error (ok_of_ite_error looked))
      exact congrArg (fun pair => some pair.1) (Except.ok.inj same)

def CapKept (online : Bool) (n : Nat) : Prop :=
  ∀ (world : World) (sender : Sender) (packet : Packet) (later : Option Sender) (queryFails : Bool)
    (receiver : Guid) (draft : Draft),
    world.playerGuidByName packet.receiverName = some receiver →
    (world.receiver receiver).isOnline = online →
    (world.receiver receiver).mailCount receiver = n →
    handleSendMail world sender packet later queryFails = .sent draft → n ≤ 100

def receiverWith (n : Nat) : Bool → Receiver
  | true => .online .alliance .none (.publish (List.replicate n ⟨1, 0, .unchanged⟩))
  | false => .offline .alliance .none (List.replicate n ⟨1, 2, 0, false⟩)

theorem receiverWith_online (n : Nat) (online : Bool) :
    (receiverWith n online).isOnline = online := by
  cases online <;> rfl

theorem receiverWith_count (n : Nat) (online : Bool) :
    (receiverWith n online).mailCount 2 = n := by
  cases online with
  | true => exact List.length_replicate
  | false =>
      simp [receiverWith, Receiver.mailCount, storedCount, List.countP_replicate]

def textWorld (n : Nat) (online : Bool) : World where
  playerGuidByName _ := some 2
  accountIdByGuid guid := guid
  receiver _ := receiverWith n online

def textSender : Sender :=
  { guid := 1, team := .alliance, level := 60, accountMaxLevel := 60, money := 1000 }

def textPacket : Packet := { receiverName := "Two", body := "hello" }

theorem text_checked (n : Nat) (online : Bool) :
    checkPacket (textWorld n online) textSender textPacket = .ok (2, "") := by
  have alike : checkPacket (textWorld n online) textSender textPacket =
      checkPacket (textWorld 0 true) textSender textPacket := rfl
  rw [alike]
  rfl

theorem text_callback (n : Nat) (online : Bool) {count : UInt8} (small : ¬ 100 < count) :
    handleSendMailCallback (textWorld n online) textSender
      { receiver := 2, itemGuid := none, money := 0, cod := 0, subject := "", body := "hello",
        rcTeam := .alliance, mailsCount := count } = .sent ⟨2, "", "hello", none, 0, 0⟩ := by
  simp only [handleSendMailCallback, if_neg small]
  rfl

theorem text_sent {n : Nat} (online : Bool) (room : n % 256 ≤ 100) :
    handleSendMail (textWorld n online) textSender textPacket (some textSender) false =
      .sent ⟨2, "", "hello", none, 0, 0⟩ := by
  have small : ¬ 100 < (UInt32.ofNat n).toUInt8 := by
    rw [UInt8.lt_iff_toNat_lt, mailsCount_toNat]
    exact Nat.not_lt.mpr room
  simp only [handleSendMail, text_checked]
  cases online with
  | true =>
      have size : (Mailbox.publish (List.replicate n ⟨1, 0, .unchanged⟩)).getMailSize =
          UInt32.ofNat n := congrArg UInt32.ofNat List.length_replicate
      rw [← size] at small
      exact text_callback n true small
  | false =>
      have count : storedCount (List.replicate n ⟨1, 2, 0, false⟩) 2 = n :=
        receiverWith_count n false
      rw [← count] at small
      exact text_callback n false small

/-- The cap is kept for a count exactly if it is at most 100 or its last byte is above. -/
theorem capKept_iff (online : Bool) (n : Nat) : CapKept online n ↔ n ≤ 100 ∨ 100 < n % 256 := by
  constructor
  · intro kept
    by_cases room : n % 256 ≤ 100
    · exact .inl (kept (textWorld n online) textSender textPacket (some textSender) false 2 _ rfl
        (receiverWith_online n online) (receiverWith_count n online) (text_sent online room))
    · exact .inr (Nat.not_le.mp room)
  · intro condition world sender packet later queryFails receiver draft found _ count sent
    cases checked : checkPacket world sender packet with
    | error refusal =>
        simp only [handleSendMail, checked] at sent
        cases sent
    | ok pair =>
        obtain ⟨guid, subject⟩ := pair
        obtain rfl := Option.some.inj (found.symm.trans (checkPacket_receiver checked))
        have byte := mailCount_of_sent checked sent
        rw [count] at byte
        exact condition.resolve_right (by omega)

/-- The receiver only matters where he is looked up. -/
theorem checkPacket_receiver_free (world : World) (sender : Sender) (packet : Packet)
    (receivers : Guid → Receiver) :
    checkPacket { world with receiver := receivers } sender packet =
      checkPacket world sender packet := rfl

theorem handleSendMailCallback_receiver_free (world : World) (sender : Sender)
    (req : AsyncMailSendRequest) (receivers : Guid → Receiver) :
    handleSendMailCallback { world with receiver := receivers } sender req =
      handleSendMailCallback world sender req := rfl

/-- Whether the count comes from memory or from the table makes no difference. -/
theorem paths_agree (world : World) (sender : Sender) (packet : Packet) (receiver : Guid)
    (found : world.playerGuidByName packet.receiverName = some receiver)
    (team : Team) (status : HardcoreStatus) (mailbox : Mailbox) (rows : List MailRow)
    (same : storedCount rows receiver = mailbox.mails.length) :
    handleSendMail { world with receiver := fun _ => .online team status mailbox } sender packet
        (some sender) false =
      handleSendMail { world with receiver := fun _ => .offline team status rows } sender packet
        (some sender) false := by
  simp only [handleSendMail, checkPacket_receiver_free]
  cases checked : checkPacket world sender packet with
  | error refusal => rfl
  | ok pair =>
      have looked := found.symm.trans (checkPacket_receiver checked)
      simp only [← Option.some.inj looked, same, mailbox.getMailSize_eq,
        AsyncMailSendRequest.callback, handleSendMailCallback_receiver_free, Bool.false_eq_true,
        if_false, Option.map_none, Option.map_some, Option.getD_none, Option.getD_some]

/-- The cap of 100 is kept for a receiver with `n` mails, online or not, exactly if `n`
is at most 100 or its last byte is above; and both paths decide alike. -/
theorem mailbox_cap_iff (n : Nat) :
    (∀ online, CapKept online n ↔ n ≤ 100 ∨ 100 < n % 256) ∧
      ∀ (world : World) (sender : Sender) (packet : Packet) (receiver : Guid) (team : Team)
        (status : HardcoreStatus) (mailbox : Mailbox) (rows : List MailRow),
        world.playerGuidByName packet.receiverName = some receiver →
        mailbox.mails.length = n → storedCount rows receiver = n →
        handleSendMail { world with receiver := fun _ => .online team status mailbox } sender packet
            (some sender) false =
          handleSendMail { world with receiver := fun _ => .offline team status rows } sender packet
            (some sender) false :=
  ⟨fun online => capKept_iff online n,
    fun world sender packet receiver team status mailbox rows found inMemory inTable =>
      paths_agree world sender packet receiver found team status mailbox rows
        (inTable.trans inMemory.symm)⟩

/-- With 256 mails in the mailbox one more is sent. -/
theorem sent_to_full_mailbox :
    ∃ world sender packet, (world.receiver 2).mailCount 2 = 256 ∧
      handleSendMail world sender packet (some sender) false =
        .sent ⟨2, "", "hello", none, 0, 0⟩ ∧ ¬ CapKept true 256 := by
  have count := receiverWith_count 256 true
  have sent := text_sent (n := 256) true (by decide)
  refine ⟨textWorld 256 true, textSender, textPacket, count, sent, fun kept => ?_⟩
  have bound := kept (textWorld 256 true) textSender textPacket (some textSender) false 2 _ rfl
    (receiverWith_online 256 true) count sent
  exact absurd bound (by decide)

end TortoiseWow.Mails
