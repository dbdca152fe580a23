import TortoiseWow.Network.Inbound

/-!
The cipher of the packet headers. Each direction keeps its place in the key and the last
encrypted byte, and until the session key is known nothing is encrypted.
-/

namespace TortoiseWow.Network

structure AuthCrypt where
  key : List UInt8 := []
  sendI : UInt8 := 0
  sendJ : UInt8 := 0
  recvI : UInt8 := 0
  recvJ : UInt8 := 0
  initialized : Bool := false
  deriving Repr, DecidableEq

namespace AuthCrypt

def cryptedSendLen : Nat := 4
def cryptedRecvLen : Nat := 6

/-- Setting the key and Init; an empty key becomes one zero byte. -/
def setKey (key : List UInt8) : AuthCrypt where
  key := if key.isEmpty then [0] else key
  initialized := true

def decryptByte (crypt : AuthCrypt) (byte : UInt8) : UInt8 × AuthCrypt :=
  let place := crypt.recvI.toNat % crypt.key.length
  ((byte - crypt.recvJ) ^^^ crypt.key.getD place 0,
    { crypt with recvI := UInt8.ofNat place + 1, recvJ := byte })

def encryptByte (crypt : AuthCrypt) (byte : UInt8) : UInt8 × AuthCrypt :=
  let place := crypt.sendI.toNat % crypt.key.length
  let encrypted := (byte ^^^ crypt.key.getD place 0) + crypt.sendJ
  (encrypted, { crypt with sendI := UInt8.ofNat place + 1, sendJ := encrypted })

/-- A loop over the bytes that carries the state along. -/
def overBytes (onByte : AuthCrypt → UInt8 → UInt8 × AuthCrypt) :
    AuthCrypt → List UInt8 → List UInt8 × AuthCrypt
  | crypt, [] => ([], crypt)
  | crypt, byte :: bytes =>
      let (byte, crypt) := onByte crypt byte
      let (bytes, crypt) := overBytes onByte crypt bytes
      (byte :: bytes, crypt)

def overPrefix (onByte : AuthCrypt → UInt8 → UInt8 × AuthCrypt) (len : Nat) (crypt : AuthCrypt)
    (data : List UInt8) : List UInt8 × AuthCrypt :=
  if crypt.initialized = false then (data, crypt)
  else if data.length < len then (data, crypt)
  else
    let (bytes, crypt) := overBytes onByte crypt (data.take len)
    (bytes ++ data.drop len, crypt)

def decryptRecv : AuthCrypt → List UInt8 → List UInt8 × AuthCrypt :=
  overPrefix decryptByte cryptedRecvLen

def encryptSend : AuthCrypt → List UInt8 → List UInt8 × AuthCrypt :=
  overPrefix encryptByte cryptedSendLen

theorem length_overBytes (onByte : AuthCrypt → UInt8 → UInt8 × AuthCrypt) (crypt : AuthCrypt)
    (data : List UInt8) : (overBytes onByte crypt data).1.length = data.length := by
  induction data generalizing crypt with
  | nil => rfl
  | cons byte data ih => simp only [overBytes, List.length_cons, ih]

theorem length_overPrefix (onByte : AuthCrypt → UInt8 → UInt8 × AuthCrypt) (len : Nat)
    (crypt : AuthCrypt) (data : List UInt8) :
    (overPrefix onByte len crypt data).1.length = data.length := by
  unfold overPrefix
  split
  · rfl
  · split
    · rfl
    · simp only [List.length_append, length_overBytes, List.length_take, List.length_drop]
      omega

/-- A socket whose headers are decrypted with this cipher. -/
def handlers {τ : Type} (processIncoming : AuthCrypt × τ → WorldPacket → Int × AuthCrypt × τ) :
    Handlers (AuthCrypt × τ) where
  decryptRecv := fun session bytes =>
    let (bytes, crypt) := session.1.decryptRecv bytes
    (bytes, crypt, session.2)
  processIncoming := processIncoming
  length_decryptRecv := fun _ _ => length_overPrefix ..

end AuthCrypt

end TortoiseWow.Network
