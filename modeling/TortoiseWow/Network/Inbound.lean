import TortoiseWow.Lib.Run

/-!
The receive path of a socket: header and payload are collected across the chunks that
TCP delivers. What the cipher and the session do is a parameter. Beside the code's loop
over a chunk stands the framing of the stream byte by byte, which the loop follows.
-/

namespace TortoiseWow.Network

/-- A message block: `data` was copied in, up to `capacity`. -/
structure Buffer where
  capacity : Nat := 0
  data : List UInt8 := []
  deriving Repr, DecidableEq

namespace Buffer

def space (buffer : Buffer) : Nat := buffer.capacity - buffer.data.length

def copy (buffer : Buffer) (bytes : List UInt8) : Buffer :=
  { buffer with data := buffer.data ++ bytes }

end Buffer

structure WorldPacket where
  opcode : UInt16
  contents : List UInt8
  deriving Repr, DecidableEq

structure ClientPktHeader where
  size : UInt16
  cmd : UInt32
  deriving Repr, DecidableEq

namespace ClientPktHeader

def length : Nat := 6

/-- The size is big-endian on the wire, the command little-endian. -/
def read (bytes : List UInt8) : ClientPktHeader where
  size := (bytes.getD 0 0).toUInt16 <<< 8 ||| (bytes.getD 1 0).toUInt16
  cmd := (bytes.getD 2 0).toUInt32 ||| (bytes.getD 3 0).toUInt32 <<< 8 |||
    (bytes.getD 4 0).toUInt32 <<< 16 ||| (bytes.getD 5 0).toUInt32 <<< 24

def malformed (header : ClientPktHeader) : Bool :=
  header.size < 4 || header.size > 10240 || header.cmd > 10240

end ClientPktHeader

/-- What the socket calls, over its other state `σ`: the cipher decrypts a header in
place, and ProcessIncoming returns -1 to reject the connection. -/
structure Handlers (σ : Type) where
  decryptRecv : σ → List UInt8 → List UInt8 × σ
  processIncoming : σ → WorldPacket → Int × σ
  length_decryptRecv : ∀ session bytes, (decryptRecv session bytes).1.length = bytes.length

/-- The receive buffers of the socket. The storage of the packet being received is
`recvPct`, so of the packet itself only the opcode is kept. `handed` lists the packets
given to ProcessIncoming with the state they met, and `consumed` counts the bytes
taken from the stream. -/
structure Receiver (σ : Type) where
  header : Buffer := { capacity := ClientPktHeader.length }
  recvPct : Buffer := {}
  recvWPct : Option UInt16 := none
  session : σ
  handed : List (WorldPacket × σ) := []
  consumed : Nat := 0

/-- How a call ends: -1 with EWOULDBLOCK or with EINVAL, or a failed assertion. -/
inductive Status where
  | ok
  | wouldBlock
  | einval
  | assertion
  deriving Repr, DecidableEq

namespace Receiver

variable {σ : Type} (h : Handlers σ)

def handleInputHeader (s : Receiver σ) : Receiver σ × Status :=
  if s.recvWPct ≠ none ∨ s.header.data.length ≠ ClientPktHeader.length then (s, .assertion)
  else
    let (bytes, session) := h.decryptRecv s.session s.header.data
    let s := { s with header := { s.header with data := bytes }, session }
    let header := ClientPktHeader.read bytes
    if header.malformed then (s, .einval)
    else
      let size := header.size - 4
      let s := { s with recvWPct := some header.cmd.toUInt16 }
      if size > 0 then ({ s with recvPct := { capacity := size.toNat } }, .ok)
      else if s.recvPct.space = 0 then (s, .ok)
      else (s, .assertion)

def handleInputPayload (s : Receiver σ) : Receiver σ × Status :=
  match s.recvWPct with
  | none => (s, .assertion)
  | some opcode =>
      if s.recvPct.space ≠ 0 ∨ s.header.space ≠ 0 then (s, .assertion)
      else
        let packet : WorldPacket := { opcode, contents := s.recvPct.data }
        let (ret, session) := h.processIncoming s.session packet
        let s := { s with
          recvPct := {}
          recvWPct := none
          header := { s.header with data := [] }
          session
          handed := s.handed ++ [(packet, s.session)] }
        (s, if ret = -1 then .einval else .ok)

/-- The part of the loop that completes the header. -/
def receiveHeader (s : Receiver σ) (block : List UInt8) : Receiver σ × List UInt8 × Status :=
  if s.header.space > 0 then
    let toHeader := if block.length > s.header.space then s.header.space else block.length
    let s := { s with
      header := s.header.copy (block.take toHeader)
      consumed := s.consumed + toHeader }
    let block := block.drop toHeader
    if s.header.space > 0 then (s, block, if block.length = 0 then .wouldBlock else .assertion)
    else
      let (s, status) := handleInputHeader h s
      (s, block, status)
  else (s, block, .ok)

/-- The part of the loop that completes the payload. -/
def receivePayload (s : Receiver σ) (block : List UInt8) : Receiver σ × List UInt8 × Status :=
  if s.recvPct.space > 0 then
    let toData := if block.length > s.recvPct.space then s.recvPct.space else block.length
    let s := { s with
      recvPct := s.recvPct.copy (block.take toData)
      consumed := s.consumed + toData }
    let block := block.drop toData
    if s.recvPct.space > 0 then (s, block, if block.length = 0 then .wouldBlock else .assertion)
    else (s, block, .ok)
  else (s, block, .ok)

def receivePacket (s : Receiver σ) (block : List UInt8) : Receiver σ × List UInt8 × Status :=
  match receiveHeader h s block with
  | (s, block, .ok) =>
      if s.recvWPct = none then (s, block, .einval)
      else
        match receivePayload s block with
        | (s, block, .ok) =>
            let (s, status) := handleInputPayload h s
            (s, block, status)
        | other => other
  | other => other

/-- The loop of handle_input_missing_data, with at most `fuel` passes. A loop that needs
more would count as a failed assertion. -/
def receiveLoop : Nat → Receiver σ → List UInt8 → Receiver σ × Status
  | _, s, [] => (s, .ok)
  | 0, s, _ :: _ => (s, .assertion)
  | fuel + 1, s, byte :: block =>
      match receivePacket h s (byte :: block) with
      | (s, block, .ok) => receiveLoop fuel s block
      | (s, _, status) => (s, status)

def handleInputMissingData (s : Receiver σ) (chunk : List UInt8) : Receiver σ × Status :=
  receiveLoop h chunk.length s chunk

/-- The chunks of a connection. After an error other than EWOULDBLOCK the connection is
closed and nothing more is received. -/
def receive (s : Receiver σ) : List (List UInt8) → Receiver σ × Status
  | [] => (s, .ok)
  | chunk :: chunks =>
      match handleInputMissingData h s chunk with
      | (s, .ok) | (s, .wouldBlock) => receive s chunks
      | (s, status) => (s, status)

end Receiver

/-- Where the framing of a stream stands. -/
inductive Stage where
  | header (bytes : List UInt8)
  | payload (opcode : UInt16) (size : Nat) (bytes : List UInt8)
  | rejected
  deriving Repr, DecidableEq

/-- The framing of a stream, byte by byte. -/
structure Framing (σ : Type) where
  stage : Stage := .header []
  session : σ
  handed : List (WorldPacket × σ) := []
  consumed : Nat := 0

namespace Framing

variable {σ : Type} (h : Handlers σ)

def deliver (f : Framing σ) (opcode : UInt16) (contents : List UInt8) : Framing σ :=
  let (ret, session) := h.processIncoming f.session { opcode, contents }
  { f with
    stage := if ret = -1 then .rejected else .header []
    session
    handed := f.handed ++ [({ opcode, contents }, f.session)] }

def complete (f : Framing σ) (bytes : List UInt8) : Framing σ :=
  let (bytes, session) := h.decryptRecv f.session bytes
  let f := { f with session }
  let header := ClientPktHeader.read bytes
  if header.malformed then { f with stage := .rejected }
  else if header.size - 4 > 0 then
    { f with stage := .payload header.cmd.toUInt16 (header.size - 4).toNat [] }
  else f.deliver h header.cmd.toUInt16 []

def feed (f : Framing σ) (byte : UInt8) : Framing σ :=
  match f.stage with
  | .rejected => f
  | .header bytes =>
      let f := { f with consumed := f.consumed + 1 }
      let bytes := bytes ++ [byte]
      if bytes.length < ClientPktHeader.length then { f with stage := .header bytes }
      else f.complete h bytes
  | .payload opcode size bytes =>
      let f := { f with consumed := f.consumed + 1 }
      let bytes := bytes ++ [byte]
      if bytes.length < size then { f with stage := .payload opcode size bytes }
      else f.deliver h opcode bytes

def feeds (f : Framing σ) (bytes : List UInt8) : Framing σ := Lib.run (feed h) f bytes

end Framing

namespace Framing

variable {σ : Type} (h : Handlers σ) {f : Framing σ} {bytes : List UInt8}

theorem feeds_append (f : Framing σ) (xs ys : List UInt8) :
    f.feeds h (xs ++ ys) = (f.feeds h xs).feeds h ys := Lib.run_append ..

theorem feeds_singleton (f : Framing σ) (x : UInt8) : f.feeds h [x] = f.feed h x := rfl

theorem feeds_rejected (hstage : f.stage = .rejected) (xs : List UInt8) : f.feeds h xs = f := by
  induction xs with
  | nil => rfl
  | cons x xs ih =>
      have hfeed : f.feed h x = f := by simp [feed, hstage]
      change (f.feed h x).feeds h xs = f
      rw [hfeed]
      exact ih

/-- Bytes of a part of the stream that is not complete with them. -/
theorem feeds_part (stage : List UInt8 → Stage) {limit : Nat}
    (hpart : ∀ (f : Framing σ) (bytes : List UInt8) (x : UInt8), f.stage = stage bytes →
      (bytes ++ [x]).length < limit →
        f.feed h x = { f with stage := stage (bytes ++ [x]), consumed := f.consumed + 1 })
    (hstage : f.stage = stage bytes) {xs : List UInt8} (hlen : bytes.length + xs.length < limit) :
    f.feeds h xs = { f with stage := stage (bytes ++ xs), consumed := f.consumed + xs.length } := by
  induction xs generalizing f bytes with
  | nil => simp [feeds, ← hstage]
  | cons x xs ih =>
      rw [List.length_cons] at hlen
      have hshort : (bytes ++ [x]).length + xs.length < limit := by
        rw [List.length_append, List.length_singleton]
        omega
      change (f.feed h x).feeds h xs = _
      rw [hpart f bytes x hstage (by omega), ih rfl hshort]
      simp only [List.append_assoc, List.singleton_append, List.length_cons, Framing.mk.injEq,
        true_and]
      omega

theorem feeds_header (hstage : f.stage = .header bytes) {xs : List UInt8}
    (hlen : bytes.length + xs.length < ClientPktHeader.length) :
    f.feeds h xs =
      { f with stage := .header (bytes ++ xs), consumed := f.consumed + xs.length } := by
  refine feeds_part h .header (fun f bytes x hstage hshort => ?_) hstage hlen
  simp only [feed, hstage, if_pos hshort]

theorem feeds_complete (hstage : f.stage = .header bytes) {xs : List UInt8} (hxs : xs ≠ [])
    (hlen : bytes.length + xs.length = ClientPktHeader.length) :
    f.feeds h xs = { f with consumed := f.consumed + xs.length }.complete h (bytes ++ xs) := by
  obtain ⟨init, last, rfl⟩ := List.eq_nil_or_concat xs |>.resolve_left hxs
  rw [List.concat_eq_append] at hlen ⊢
  rw [List.length_append, List.length_singleton] at hlen
  have hfull : ¬ bytes.length + (init.length + 1) < ClientPktHeader.length := by omega
  rw [feeds_append, feeds_header h hstage (by omega), feeds_singleton]
  simp only [feed, List.append_assoc, List.length_append, List.length_singleton, if_neg hfull]
  rfl

theorem feeds_payload {opcode : UInt16} {size : Nat} (hstage : f.stage = .payload opcode size bytes)
    {xs : List UInt8} (hlen : bytes.length + xs.length < size) :
    f.feeds h xs =
      { f with
        stage := .payload opcode size (bytes ++ xs)
        consumed := f.consumed + xs.length } := by
  refine feeds_part h (.payload opcode size) (fun f bytes x hstage hshort => ?_) hstage hlen
  simp only [feed, hstage, if_pos hshort]

theorem feeds_deliver {opcode : UInt16} {size : Nat} (hstage : f.stage = .payload opcode size bytes)
    {xs : List UInt8} (hxs : xs ≠ []) (hlen : bytes.length + xs.length = size) :
    f.feeds h xs = { f with consumed := f.consumed + xs.length }.deliver h opcode
      (bytes ++ xs) := by
  obtain ⟨init, last, rfl⟩ := List.eq_nil_or_concat xs |>.resolve_left hxs
  rw [List.concat_eq_append] at hlen ⊢
  rw [List.length_append, List.length_singleton] at hlen
  have hfull : ¬ bytes.length + (init.length + 1) < size := by omega
  rw [feeds_append, feeds_payload h hstage (by omega), feeds_singleton]
  simp only [feed, List.append_assoc, List.length_append, List.length_singleton, if_neg hfull]
  rfl

end Framing

namespace Receiver

variable {σ : Type} (h : Handlers σ)

/-- What the framing of the stream says about the socket, apart from its buffers. -/
structure Agrees (s : Receiver σ) (f : Framing σ) : Prop where
  session : s.session = f.session
  handed : s.handed = f.handed
  consumed : s.consumed = f.consumed

/-- The buffers hold what the framing has collected. -/
def Holds (s : Receiver σ) : Stage → Prop
  | .header bytes =>
      s.header = { capacity := ClientPktHeader.length, data := bytes } ∧
        bytes.length < ClientPktHeader.length ∧ s.recvPct = {} ∧ s.recvWPct = none
  | .payload opcode size bytes =>
      s.header.capacity = ClientPktHeader.length ∧
        s.header.data.length = ClientPktHeader.length ∧
        s.recvPct = { capacity := size, data := bytes } ∧ bytes.length < size ∧
        s.recvWPct = some opcode
  | .rejected => False

structure Follows (s : Receiver σ) (f : Framing σ) : Prop where
  agrees : s.Agrees f
  holds : s.Holds f.stage

/-- How a pass over a block ends: it used up some bytes and went on, or all of them and
waits, or it rejected the connection where the framing does. -/
def Passed (f : Framing σ) (block : List UInt8) : Receiver σ × List UInt8 × Status → Prop
  | (s, rest, .ok) => ∃ used, block = used ++ rest ∧ used ≠ [] ∧ s.Follows (f.feeds h used)
  | (s, _, .wouldBlock) => s.Follows (f.feeds h block)
  | (s, rest, .einval) => ∃ used, block = used ++ rest ∧ s.Agrees (f.feeds h used) ∧
      (f.feeds h used).stage = .rejected
  | (_, _, .assertion) => False

theorem handleInputPayload_deliver {s : Receiver σ} {f : Framing σ} (hagrees : s.Agrees f)
    {opcode : UInt16} (hopcode : s.recvWPct = some opcode)
    (hcapacity : s.header.capacity = ClientPktHeader.length)
    (hheader : s.header.data.length = ClientPktHeader.length) (hspace : s.recvPct.space = 0) :
    ((handleInputPayload h s).2 = .ok ∧
        (handleInputPayload h s).1.Follows (f.deliver h opcode s.recvPct.data)) ∨
      ((handleInputPayload h s).2 = .einval ∧
        (handleInputPayload h s).1.Agrees (f.deliver h opcode s.recvPct.data) ∧
        (f.deliver h opcode s.recvPct.data).stage = .rejected) := by
  obtain ⟨hsession, hhanded, hconsumed⟩ := hagrees
  have hfull : s.header.space = 0 := by simp [Buffer.space, hcapacity, hheader]
  simp only [handleInputPayload, hopcode, hspace, hfull, ne_eq, not_true, or_self, if_false,
    Framing.deliver, ← hsession, ← hhanded]
  by_cases hret : (h.processIncoming s.session { opcode, contents := s.recvPct.data }).1 = -1
  · refine Or.inr ⟨if_pos hret, ⟨rfl, rfl, hconsumed⟩, if_pos hret⟩
  · refine Or.inl ⟨if_neg hret, ⟨rfl, rfl, hconsumed⟩, ?_⟩
    rw [if_neg hret]
    exact ⟨by rw [← hcapacity], by decide, rfl, rfl⟩

/-- The number of bytes copied into a buffer is what fits. -/
theorem toCopy_eq (length space : Nat) :
    (if length > space then space else length) = min length space := by
  split <;> omega

theorem receivePayload_passed {s : Receiver σ} {f : Framing σ} (hfollows : s.Follows f)
    {opcode : UInt16} {size : Nat} {bytes : List UInt8}
    (hstage : f.stage = .payload opcode size bytes) (block : List UInt8) :
    Passed h f block
      (match receivePayload s block with
        | (s, block, .ok) =>
            let (s, status) := handleInputPayload h s
            (s, block, status)
        | other => other) := by
  obtain ⟨⟨hsession, hhanded, hconsumed⟩, hholds⟩ := hfollows
  rw [hstage] at hholds
  obtain ⟨hcapacity, hheader, hpct, hlen, hopcode⟩ := hholds
  have hspace : s.recvPct.space = size - bytes.length := by rw [hpct]; rfl
  have hopen : s.recvPct.space > 0 := by omega
  by_cases hshort : block.length < size - bytes.length
  · have hcopy : min block.length s.recvPct.space = block.length := by omega
    have hleft : (s.recvPct.copy block).space > 0 := by
      simp only [hpct, Buffer.copy, Buffer.space, List.length_append]
      omega
    have hwaits : receivePayload s block =
        ({ s with recvPct := s.recvPct.copy block, consumed := s.consumed + block.length }, [],
          .wouldBlock) := by
      simp only [receivePayload, if_pos hopen, toCopy_eq, hcopy, List.take_length,
        List.drop_length, if_pos hleft, List.length_nil, if_true]
    rw [hwaits]
    change Follows _ _
    rw [Framing.feeds_payload h hstage (by omega)]
    refine ⟨⟨hsession, hhanded, by rw [hconsumed]⟩, hcapacity, hheader, ?_, ?_, hopcode⟩
    · rw [hpct]
      rfl
    · rw [List.length_append]
      omega
  · have hcopy : min block.length s.recvPct.space = size - bytes.length := by omega
    have htaken : (block.take (size - bytes.length)).length = size - bytes.length := by
      rw [List.length_take]
      omega
    have hleft : (s.recvPct.copy (block.take (size - bytes.length))).space = 0 := by
      simp only [hpct, Buffer.copy, Buffer.space, List.length_append, htaken]
      omega
    have hgoes : receivePayload s block =
        ({ s with
          recvPct := s.recvPct.copy (block.take (size - bytes.length))
          consumed := s.consumed + (size - bytes.length) }, block.drop (size - bytes.length),
          .ok) := by
      simp only [receivePayload, if_pos hopen, toCopy_eq, hcopy, hleft, gt_iff_lt, Nat.lt_irrefl,
        if_false]
    rw [hgoes]
    have hused : block.take (size - bytes.length) ≠ [] := by
      intro hnil
      rw [hnil, List.length_nil] at htaken
      omega
    have hfeeds := Framing.feeds_deliver h hstage hused (by omega)
    have hdeliver := handleInputPayload_deliver h
      (s := { s with
        recvPct := s.recvPct.copy (block.take (size - bytes.length))
        consumed := s.consumed + (size - bytes.length) })
      (f := { f with consumed := f.consumed + (block.take (size - bytes.length)).length })
      ⟨hsession, hhanded, by rw [hconsumed, htaken]⟩ hopcode hcapacity hheader hleft
    have hdata : (s.recvPct.copy (block.take (size - bytes.length))).data =
        bytes ++ block.take (size - bytes.length) := by
      rw [hpct]
      rfl
    simp only [hdata, ← hfeeds] at hdeliver
    rcases hdeliver with ⟨hok, hfollows⟩ | ⟨hrejected, hagrees, hstop⟩
    · simp only [hok]
      exact ⟨_, (List.take_append_drop _ _).symm, hused, hfollows⟩
    · simp only [hrejected]
      exact ⟨_, (List.take_append_drop _ _).symm, hagrees, hstop⟩

theorem Passed.prepend {f : Framing σ} {used rest : List UInt8}
    {result : Receiver σ × List UInt8 × Status} (hpassed : Passed h (f.feeds h used) rest result)
    (hused : used ≠ []) : Passed h f (used ++ rest) result := by
  obtain ⟨s, left, status⟩ := result
  cases status with
  | ok =>
      obtain ⟨more, rfl, -, hfollows⟩ := hpassed
      rw [← Framing.feeds_append] at hfollows
      exact ⟨used ++ more, by rw [List.append_assoc], by simp [hused], hfollows⟩
  | wouldBlock =>
      change Follows _ _
      rw [Framing.feeds_append]
      exact hpassed
  | einval =>
      obtain ⟨more, rfl, hagrees, hstop⟩ := hpassed
      rw [← Framing.feeds_append] at hagrees hstop
      exact ⟨used ++ more, by rw [List.append_assoc], hagrees, hstop⟩
  | assertion => exact hpassed

theorem handleInputHeader_passed {s : Receiver σ} {f : Framing σ} (hagrees : s.Agrees f)
    (hcapacity : s.header.capacity = ClientPktHeader.length)
    (hheader : s.header.data.length = ClientPktHeader.length) (hpct : s.recvPct = {})
    (hnone : s.recvWPct = none) {used : List UInt8} {block rest : List UInt8} {f₀ : Framing σ}
    (hblock : block = used ++ rest) (hused : used ≠ [])
    (hfeeds : f₀.feeds h used = f.complete h s.header.data) :
    Passed h f₀ block
      (match ((handleInputHeader h s).1, rest, (handleInputHeader h s).2) with
        | (s, block, .ok) =>
            if s.recvWPct = none then (s, block, .einval)
            else
              match receivePayload s block with
              | (s, block, .ok) =>
                  let (s, status) := handleInputPayload h s
                  (s, block, status)
              | other => other
        | other => other) := by
  obtain ⟨hsession, hhanded, hconsumed⟩ := hagrees
  subst hblock
  have hpre : ¬ (s.recvWPct ≠ none ∨ s.header.data.length ≠ ClientPktHeader.length) := by
    simp [hnone, hheader]
  have hlength := h.length_decryptRecv s.session s.header.data
  obtain ⟨bytes, session, hdecrypted⟩ : ∃ bytes session,
      h.decryptRecv s.session s.header.data = (bytes, session) := ⟨_, _, rfl⟩
  rw [hdecrypted] at hlength
  simp only [Framing.complete, ← hsession, hdecrypted] at hfeeds
  simp only [handleInputHeader, if_neg hpre, hdecrypted]
  by_cases hmalformed : (ClientPktHeader.read bytes).malformed = true
  · rw [if_pos hmalformed] at hfeeds ⊢
    simp only
    exact ⟨used, rfl, by rw [hfeeds]; exact ⟨rfl, hhanded, hconsumed⟩, by rw [hfeeds]⟩
  · rw [if_neg hmalformed] at hfeeds ⊢
    by_cases hsize : (ClientPktHeader.read bytes).size - 4 > 0
    · rw [if_pos hsize] at hfeeds ⊢
      simp only [reduceCtorEq, if_false]
      refine Passed.prepend h ?_ hused
      rw [hfeeds]
      have hpositive :
        ([] : List UInt8).length < ((ClientPktHeader.read bytes).size - 4).toNat := by
        simpa using UInt16.lt_iff_toNat_lt.mp hsize
      exact receivePayload_passed h
        (s := { s with
          header := { s.header with data := bytes }
          session
          recvWPct := some (ClientPktHeader.read bytes).cmd.toUInt16
          recvPct := { capacity := ((ClientPktHeader.read bytes).size - 4).toNat } })
        (f := { f with
          session
          stage := .payload (ClientPktHeader.read bytes).cmd.toUInt16
            ((ClientPktHeader.read bytes).size - 4).toNat [] })
        ⟨⟨rfl, hhanded, hconsumed⟩, hcapacity, hlength.trans hheader, rfl, hpositive, rfl⟩ rfl rest
    · rw [if_neg hsize] at hfeeds ⊢
      have hempty : s.recvPct.space = 0 := by rw [hpct]; rfl
      simp only [hempty, if_true, reduceCtorEq, if_false, receivePayload, gt_iff_lt,
        Nat.lt_irrefl]
      have hdeliver := handleInputPayload_deliver h
        (s := { s with
          header := { s.header with data := bytes }
          session
          recvWPct := some (ClientPktHeader.read bytes).cmd.toUInt16 })
        (f := { f with session }) ⟨rfl, hhanded, hconsumed⟩ rfl hcapacity
        (hlength.trans hheader) hempty
      have hdata : s.recvPct.data = [] := by rw [hpct]
      simp only [hdata, ← hfeeds] at hdeliver
      rcases hdeliver with ⟨hok, hfollows⟩ | ⟨hrejected, hagrees, hstop⟩
      · simp only [hok]
        exact ⟨used, rfl, hused, hfollows⟩
      · simp only [hrejected]
        exact ⟨used, rfl, hagrees, hstop⟩

theorem receivePacket_passed {s : Receiver σ} {f : Framing σ} (hfollows : s.Follows f)
    (block : List UInt8) : Passed h f block (receivePacket h s block) := by
  have hagrees := hfollows.agrees
  have hholds := hfollows.holds
  cases hstage : f.stage with
  | rejected =>
      rw [hstage] at hholds
      exact hholds.elim
  | payload opcode size bytes =>
      rw [hstage] at hholds
      obtain ⟨hcapacity, hheader, hpct, hlen, hopcode⟩ := hholds
      have hfull : ¬ s.header.space > 0 := by simp [Buffer.space, hcapacity, hheader]
      have hskip : receiveHeader h s block = (s, block, .ok) := by
        simp only [receiveHeader, if_neg hfull]
      simp only [receivePacket, hskip, hopcode, reduceCtorEq, if_false]
      exact receivePayload_passed h hfollows hstage block
  | header bytes =>
      rw [hstage] at hholds
      obtain ⟨hheader, hlen, hpct, hnone⟩ := hholds
      obtain ⟨hsession, hhanded, hconsumed⟩ := hagrees
      have hspace : s.header.space = ClientPktHeader.length - bytes.length := by
        rw [hheader]
        rfl
      have hopen : s.header.space > 0 := by omega
      by_cases hshort : block.length < ClientPktHeader.length - bytes.length
      · have hcopy : min block.length s.header.space = block.length := by omega
        have hleft : (s.header.copy block).space > 0 := by
          simp only [hheader, Buffer.copy, Buffer.space, List.length_append]
          omega
        have hwaits : receiveHeader h s block =
            ({ s with header := s.header.copy block, consumed := s.consumed + block.length }, [],
              .wouldBlock) := by
          simp only [receiveHeader, if_pos hopen, toCopy_eq, hcopy, List.take_length,
            List.drop_length, if_pos hleft, List.length_nil, if_true]
        simp only [receivePacket, hwaits]
        change Follows _ _
        rw [Framing.feeds_header h hstage (by omega)]
        refine ⟨⟨hsession, hhanded, by rw [hconsumed]⟩, ?_, ?_, hpct, hnone⟩
        · rw [hheader]
          rfl
        · rw [List.length_append]
          omega
      · -- the header is complete within this block
        have hcopy : min block.length s.header.space = ClientPktHeader.length - bytes.length := by
          omega
        have htaken : (block.take (ClientPktHeader.length - bytes.length)).length =
            ClientPktHeader.length - bytes.length := by
          rw [List.length_take]
          omega
        have hdata : (s.header.copy (block.take (ClientPktHeader.length - bytes.length))).data =
            bytes ++ block.take (ClientPktHeader.length - bytes.length) := by
          rw [hheader]
          rfl
        have hfull :
          (s.header.copy (block.take (ClientPktHeader.length - bytes.length))).data.length =
            ClientPktHeader.length := by
          rw [hdata, List.length_append, htaken]
          omega
        have hcapacity : (s.header.copy
            (block.take (ClientPktHeader.length - bytes.length))).capacity =
              ClientPktHeader.length := by
          rw [hheader]
          rfl
        have hleft :
          (s.header.copy (block.take (ClientPktHeader.length - bytes.length))).space = 0 := by
          rw [Buffer.space, hfull, hcapacity, Nat.sub_self]
        have hused : block.take (ClientPktHeader.length - bytes.length) ≠ [] := by
          intro hnil
          rw [hnil, List.length_nil] at htaken
          omega
        have hfeeds := Framing.feeds_complete h hstage hused (by omega)
        simp only [receivePacket, receiveHeader, if_pos hopen, toCopy_eq, hcopy, hleft, gt_iff_lt,
          Nat.lt_irrefl, if_false]
        rw [← hdata] at hfeeds
        exact handleInputHeader_passed h
          (s := { s with
            header := s.header.copy (block.take (ClientPktHeader.length - bytes.length))
            consumed := s.consumed + (ClientPktHeader.length - bytes.length) })
          (f := { f with consumed := f.consumed +
            (block.take (ClientPktHeader.length - bytes.length)).length })
          ⟨hsession, hhanded, by rw [hconsumed, htaken]⟩ hcapacity hfull hpct hnone
          (List.take_append_drop _ _).symm hused hfeeds

/-- The socket after these bytes of the stream: it is where the framing is, or has
rejected the connection where the framing has. -/
def Received (f : Framing σ) (bytes : List UInt8) : Receiver σ × Status → Prop
  | (s, .ok) | (s, .wouldBlock) => s.Follows (f.feeds h bytes)
  | (s, .einval) => s.Agrees (f.feeds h bytes) ∧ (f.feeds h bytes).stage = .rejected
  | (_, .assertion) => False

theorem receiveLoop_received {fuel : Nat} {s : Receiver σ} {f : Framing σ} (hfollows : s.Follows f)
    {block : List UInt8} (hfuel : block.length ≤ fuel) :
    Received h f block (receiveLoop h fuel s block) := by
  induction fuel generalizing s f block with
  | zero =>
      rw [List.length_eq_zero_iff.mp (Nat.le_zero.mp hfuel), receiveLoop]
      exact hfollows
  | succ fuel ih =>
      cases block with
      | nil =>
          rw [receiveLoop]
          exact hfollows
      | cons byte block =>
          have hpassed := receivePacket_passed h hfollows (byte :: block)
          rw [receiveLoop]
          split
          next s' rest heq =>
            rw [heq] at hpassed
            obtain ⟨used, hblock, hused, hfollows'⟩ := hpassed
            have hlength := congrArg List.length hblock
            rw [List.length_append] at hlength
            have hpos := List.length_pos_of_ne_nil hused
            have hfewer : rest.length ≤ fuel := by omega
            have hrest := ih hfollows' hfewer
            rw [hblock]
            simpa only [Received, Framing.feeds_append] using hrest
          next s' rest status hnot heq =>
            rw [heq] at hpassed
            cases status with
            | ok => exact absurd rfl hnot
            | wouldBlock => exact hpassed
            | einval =>
                obtain ⟨used, hblock, hagrees, hstop⟩ := hpassed
                rw [hblock, Received, Framing.feeds_append, Framing.feeds_rejected h hstop]
                exact ⟨hagrees, hstop⟩
            | assertion => exact hpassed

theorem receive_received {s : Receiver σ} {f : Framing σ} (hfollows : s.Follows f)
    (chunks : List (List UInt8)) : Received h f chunks.flatten (receive h s chunks) := by
  induction chunks generalizing s f with
  | nil => exact hfollows
  | cons chunk chunks ih =>
      have hchunk : Received h f chunk (handleInputMissingData h s chunk) :=
        receiveLoop_received h hfollows (Nat.le_refl _)
      rw [receive, List.flatten_cons]
      generalize handleInputMissingData h s chunk = result at hchunk
      obtain ⟨s', status⟩ := result
      cases status with
      | ok | wouldBlock =>
          have hrest := ih hchunk
          simpa only [Received, Framing.feeds_append] using hrest
      | einval =>
          obtain ⟨hagrees, hstop⟩ := hchunk
          rw [Received, Framing.feeds_append, Framing.feeds_rejected h hstop]
          exact ⟨hagrees, hstop⟩
      | assertion => exact hchunk

theorem follows_start (session : σ) : Follows { session } { session } where
  agrees := ⟨rfl, rfl, rfl⟩
  holds := ⟨rfl, by decide, rfl, rfl⟩

/-- What the framing says after a stream decides everything that can be seen of it. -/
theorem Received.observed {f : Framing σ} {bytes : List UInt8} {result : Receiver σ × Status}
    (hreceived : Received h f bytes result) :
    result.2 ≠ .assertion ∧ result.1.Agrees (f.feeds h bytes) ∧
      (result.2 = .einval ↔ (f.feeds h bytes).stage = .rejected) := by
  obtain ⟨s, status⟩ := result
  cases status with
  | ok | wouldBlock =>
      have hfollows : s.Follows (f.feeds h bytes) := hreceived
      refine ⟨by simp, hfollows.agrees, ?_⟩
      simp only [reduceCtorEq, false_iff]
      intro hstop
      have hholds := hfollows.holds
      rw [hstop] at hholds
      exact hholds
  | einval => exact ⟨by simp, hreceived.1, iff_of_true rfl hreceived.2⟩
  | assertion => exact hreceived.elim

/-- However the stream is cut into chunks, the same packets are handed over in the same
states, the connection is rejected at the same byte or not at all, and no assertion
fails: it is what the framing says of the stream. -/
theorem receive_chunks (session : σ) (chunks : List (List UInt8)) :
    (receive h { session } chunks).2 ≠ .assertion ∧
      (receive h { session } [chunks.flatten]).2 ≠ .assertion ∧
      (receive h { session } chunks).1.handed = (receive h { session } [chunks.flatten]).1.handed ∧
      (receive h { session } chunks).1.session =
        (receive h { session } [chunks.flatten]).1.session ∧
      ((receive h { session } chunks).2 = .einval ↔
        (receive h { session } [chunks.flatten]).2 = .einval) ∧
      (receive h { session } chunks).1.consumed =
        (receive h { session } [chunks.flatten]).1.consumed ∧
      (receive h { session } chunks).1.Agrees (Framing.feeds h { session } chunks.flatten) ∧
      ((receive h { session } chunks).2 = .einval ↔
        (Framing.feeds h { session } chunks.flatten).stage = .rejected) := by
  have hsplit := receive_received h (follows_start session) chunks
  have hwhole := receive_received h (follows_start session) [chunks.flatten]
  rw [List.flatten_singleton] at hwhole
  obtain ⟨hfine, hagrees, hrejected⟩ := hsplit.observed
  obtain ⟨hfine', hagrees', hrejected'⟩ := hwhole.observed
  refine ⟨hfine, hfine', ?_, ?_, hrejected.trans hrejected'.symm, ?_, hagrees, hrejected⟩
  · rw [hagrees.handed, hagrees'.handed]
  · rw [hagrees.session, hagrees'.session]
  · rw [hagrees.consumed, hagrees'.consumed]

end Receiver

end TortoiseWow.Network
