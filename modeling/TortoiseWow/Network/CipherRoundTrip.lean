import TortoiseWow.Network.AuthCrypt

/-!
Two ends of a connection with the same key. What one end encrypts the other end decrypts,
header after header and whatever the lengths of the headers are, because both ends keep the
same place in the key and the same last encrypted byte.
-/

namespace TortoiseWow.Network.AuthCrypt

/-- The receive side of one end is where the send side of the other is. -/
structure InStep (sender receiver : AuthCrypt) : Prop where
  key : receiver.key = sender.key
  place : receiver.recvI = sender.sendI
  last : receiver.recvJ = sender.sendJ
  initialized : receiver.initialized = sender.initialized

theorem inStep_setKey (key : List UInt8) : InStep (setKey key) (setKey key) := ⟨rfl, rfl, rfl, rfl⟩

theorem decryptByte_encryptByte {sender receiver : AuthCrypt} (inStep : InStep sender receiver)
    (byte : UInt8) :
    (receiver.decryptByte (sender.encryptByte byte).1).1 = byte ∧
      InStep (sender.encryptByte byte).2 (receiver.decryptByte (sender.encryptByte byte).1).2 := by
  obtain ⟨key, place, last, initialized⟩ := inStep
  constructor
  · simp only [decryptByte, encryptByte, key, place, last]
    rw [UInt8.add_sub_cancel, UInt8.xor_assoc, UInt8.xor_self, UInt8.xor_zero]
  · constructor
    · exact key
    · simp only [decryptByte, encryptByte, key, place]
    · rfl
    · exact initialized

theorem overBytes_inStep {sender receiver : AuthCrypt} (inStep : InStep sender receiver)
    (data : List UInt8) :
    (overBytes decryptByte receiver (overBytes encryptByte sender data).1).1 = data ∧
      InStep (overBytes encryptByte sender data).2
        (overBytes decryptByte receiver (overBytes encryptByte sender data).1).2 := by
  induction data generalizing sender receiver with
  | nil => exact ⟨rfl, inStep⟩
  | cons byte data ih =>
      obtain ⟨same, after⟩ := decryptByte_encryptByte inStep byte
      obtain ⟨others, final⟩ := ih after
      simp only [overBytes]
      exact ⟨by rw [same, others], final⟩

theorem overPrefix_skip (onByte : AuthCrypt → UInt8 → UInt8 × AuthCrypt) {len : Nat}
    {crypt : AuthCrypt} {data : List UInt8} (skip : crypt.initialized = false ∨ data.length < len) :
    overPrefix onByte len crypt data = (data, crypt) := by
  rw [overPrefix]
  split
  case isTrue => rfl
  case isFalse on => exact if_pos (skip.resolve_left on)

theorem overPrefix_eq (onByte : AuthCrypt → UInt8 → UInt8 × AuthCrypt) {len : Nat}
    {crypt : AuthCrypt} {data : List UInt8} (on : crypt.initialized = true)
    (long : len ≤ data.length) :
    overPrefix onByte len crypt data =
      ((overBytes onByte crypt (data.take len)).1 ++ data.drop len,
        (overBytes onByte crypt (data.take len)).2) := by
  rw [overPrefix, if_neg (by rw [on]; decide), if_neg (Nat.not_lt.mpr long)]

theorem overPrefix_inStep {sender receiver : AuthCrypt}
    (inStep : InStep sender receiver) (len : Nat)
    (data : List UInt8) :
    (overPrefix decryptByte len receiver (overPrefix encryptByte len sender data).1).1 = data ∧
      InStep (overPrefix encryptByte len sender data).2
        (overPrefix decryptByte len receiver (overPrefix encryptByte len sender data).1).2 := by
  by_cases skip : sender.initialized = false ∨ data.length < len
  · have skip' : receiver.initialized = false ∨ data.length < len := inStep.initialized ▸ skip
    rw [overPrefix_skip encryptByte skip, overPrefix_skip decryptByte skip']
    exact ⟨rfl, inStep⟩
  · rw [not_or, Bool.not_eq_false, Nat.not_lt] at skip
    obtain ⟨on, long⟩ := skip
    obtain ⟨same, after⟩ := overBytes_inStep inStep (data.take len)
    have taken : (overBytes encryptByte sender (data.take len)).1.length = len := by
      rw [length_overBytes, List.length_take]
      exact Nat.min_eq_left long
    rw [overPrefix_eq encryptByte on long, overPrefix_eq decryptByte (inStep.initialized.trans on)]
    · rw [List.take_left' taken, List.drop_left' taken]
      exact ⟨by rw [same, List.take_append_drop], after⟩
    · rw [List.length_append, taken]
      exact Nat.le_add_right _ _

def overPackets (onByte : AuthCrypt → UInt8 → UInt8 × AuthCrypt) :
    AuthCrypt → List (Nat × List UInt8) → List (Nat × List UInt8) × AuthCrypt
  | crypt, [] => ([], crypt)
  | crypt, (len, data) :: packets =>
      let (data, crypt) := overPrefix onByte len crypt data
      let (packets, crypt) := overPackets onByte crypt packets
      ((len, data) :: packets, crypt)

theorem overPackets_inStep {sender receiver : AuthCrypt} (inStep : InStep sender receiver)
    (packets : List (Nat × List UInt8)) :
    (overPackets decryptByte receiver (overPackets encryptByte sender packets).1).1 = packets ∧
      InStep (overPackets encryptByte sender packets).2
        (overPackets decryptByte receiver (overPackets encryptByte sender packets).1).2 := by
  induction packets generalizing sender receiver with
  | nil => exact ⟨rfl, inStep⟩
  | cons packet packets ih =>
      obtain ⟨len, data⟩ := packet
      obtain ⟨same, after⟩ := overPrefix_inStep inStep len data
      obtain ⟨others, final⟩ := ih after
      simp only [overPackets]
      exact ⟨by rw [same, others], final⟩

/-- One end decrypts what the other has encrypted, and both stay in step. -/
theorem decrypt_encrypt_packets (key : List UInt8) (packets : List (Nat × List UInt8)) :
    (overPackets decryptByte (setKey key) (overPackets encryptByte (setKey key) packets).1).1 =
        packets ∧
      InStep (overPackets encryptByte (setKey key) packets).2
        (overPackets decryptByte (setKey key)
          (overPackets encryptByte (setKey key) packets).1).2 :=
  overPackets_inStep (inStep_setKey key) packets

/-- What the server sends and what it receives are two of these streams. -/
example (crypt : AuthCrypt) (data : List UInt8) :
    (overPackets encryptByte crypt [(cryptedSendLen, data)]).1 =
        [(cryptedSendLen, (crypt.encryptSend data).1)] ∧
      (overPackets decryptByte crypt [(cryptedRecvLen, data)]).1 =
        [(cryptedRecvLen, (crypt.decryptRecv data).1)] := ⟨rfl, rfl⟩

end TortoiseWow.Network.AuthCrypt
