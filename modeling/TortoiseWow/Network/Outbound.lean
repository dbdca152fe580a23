import TortoiseWow.Network.AuthCrypt

/-!
The send path of a socket. A packet is encoded, and its header encrypted, when it enters
the output buffer; while packets wait in the queue, later ones wait behind them. What
the kernel takes in one call, the write quota and the allocator answer is arbitrary.
-/

namespace TortoiseWow.Network

/-- A message block with a read pointer: `written` is everything before the write pointer. -/
structure MessageBlock where
  capacity : Nat
  written : List UInt8 := []
  rdPtr : Nat := 0
  deriving Repr, DecidableEq

namespace MessageBlock

def data (block : MessageBlock) : List UInt8 := block.written.drop block.rdPtr

def length (block : MessageBlock) : Nat := block.written.length - block.rdPtr

def space (block : MessageBlock) : Nat := block.capacity - block.written.length

def copy (block : MessageBlock) (bytes : List UInt8) : Option MessageBlock :=
  if block.space < bytes.length then none
  else some { block with written := block.written ++ bytes }

def advance (block : MessageBlock) (n : Nat) : MessageBlock :=
  { block with rdPtr := block.rdPtr + n }

/-- The unread bytes move to the base. -/
def crunch (block : MessageBlock) : MessageBlock :=
  { block with written := block.data, rdPtr := 0 }

def reset (block : MessageBlock) : MessageBlock := { block with written := [], rdPtr := 0 }

end MessageBlock

/-- The cipher of a socket, which changes headers in place. -/
structure SendCrypt (κ : Type) where
  encryptSend : κ → List UInt8 → List UInt8 × κ
  length_encryptSend : ∀ crypt bytes, (encryptSend crypt bytes).1.length = bytes.length

def AuthCrypt.sendCrypt : SendCrypt AuthCrypt where
  encryptSend := AuthCrypt.encryptSend
  length_encryptSend := fun _ _ => AuthCrypt.length_overPrefix ..

structure ServerPktHeader where
  size : UInt16
  cmd : UInt16
  deriving Repr, DecidableEq

namespace ServerPktHeader

def length : Nat := 4

/-- The size is big-endian on the wire, the command little-endian. -/
def bytes (header : ServerPktHeader) : List UInt8 :=
  [(header.size >>> 8).toUInt8, header.size.toUInt8, header.cmd.toUInt8,
    (header.cmd >>> 8).toUInt8]

end ServerPktHeader

def WorldPacket.serverHeader (packet : WorldPacket) : ServerPktHeader where
  size := UInt16.ofNat packet.contents.length + 2
  cmd := packet.opcode

/-- The output side of a socket. `wire` is what the kernel took, `accepted` what SendPacket
returned 0 for, and `framed` what entered the buffer. -/
structure Sender (κ : Type) where
  outBufferSize : Nat
  crypt : κ
  outBuffer : MessageBlock := { capacity := outBufferSize }
  packetQueue : List WorldPacket := []
  closing : Bool := false
  outActive : Bool := false
  wire : List UInt8 := []
  accepted : List WorldPacket := []
  framed : List WorldPacket := []

/-- What the allocator and the write quota answer to a packet that must wait. -/
inductive Queued where
  | granted
  | refused
  deriving Repr, DecidableEq

inductive Sent where
  | bytes (n : Nat)
  | wouldBlock
  | error
  deriving Repr, DecidableEq

namespace Sender

variable {κ : Type} (c : SendCrypt κ)

/-- `none` stands for ENOBUFS; then nothing changed. The inner `none` is a failed
assertion. -/
def iSendPacket (s : Sender κ) (packet : WorldPacket) : Option (Option (Sender κ)) :=
  if s.outBuffer.space < packet.contents.length + ServerPktHeader.length then none
  else
    let (header, crypt) := c.encryptSend s.crypt packet.serverHeader.bytes
    some <| do
      let outBuffer ← s.outBuffer.copy header
      let outBuffer ← if packet.contents.isEmpty then some outBuffer
        else outBuffer.copy packet.contents
      return { s with outBuffer, crypt, framed := s.framed ++ [packet] }

def closeSocket (s : Sender κ) : Sender κ :=
  if s.closing then s else { s with closing := true, packetQueue := [] }

def accept (s : Sender κ) (packet : WorldPacket) : Sender κ :=
  { s with accepted := s.accepted ++ [packet] }

def sendPacket (s : Sender κ) (packet : WorldPacket) (queued : Queued) : Option (Sender κ) :=
  if s.closing then some s
  else if packet.contents.length > 65533 ∨
      packet.contents.length + ServerPktHeader.length > s.outBufferSize then
    some s.closeSocket
  else
    let enqueue : Sender κ :=
      match queued with
      | .granted => { s with packetQueue := s.packetQueue ++ [packet] }.accept packet
      | .refused => s.closeSocket
    if s.packetQueue.isEmpty then
      match iSendPacket c s packet with
      | some sent => sent.map (·.accept packet)
      | none => some enqueue
    else some enqueue

/-- The loop over the queue; `requeues` says whether a packet that does not fit can be put
back at the head. Also whether anything was moved. -/
def iFlushPacketQueue (requeues : Bool) (haveone : Bool) :
    List WorldPacket → Sender κ → Option (Sender κ × Bool)
  | [], s => some ({ s with packetQueue := [] }, haveone)
  | packet :: rest, s =>
      match iSendPacket c s packet with
      | none =>
          if requeues then some ({ s with packetQueue := packet :: rest }, haveone)
          else some ({ s with packetQueue := rest }, false)
      | some none => none
      | some (some s) => iFlushPacketQueue requeues true rest s

def cancelWakeupOutput (s : Sender κ) : Sender κ := { s with outActive := false }

def scheduleWakeupOutput (s : Sender κ) : Sender κ := { s with outActive := true }

def handleOutput (s : Sender κ) (sent : Sent) (requeues : Bool) : Option (Sender κ) :=
  if s.closing then some s
  else
    let sendLen := s.outBuffer.length
    if sendLen = 0 then some s.cancelWakeupOutput
    else
      match sent with
      | .bytes 0 | .error => some s
      | .wouldBlock => some s.scheduleWakeupOutput
      | .bytes n =>
          let s := { s with wire := s.wire ++ s.outBuffer.data.take n }
          if n < sendLen then
            some { s with outBuffer := (s.outBuffer.advance n).crunch }.scheduleWakeupOutput
          else
            let s := { s with outBuffer := s.outBuffer.reset }
            (iFlushPacketQueue c requeues false s.packetQueue s).map fun (s, haveone) =>
              if haveone then s.scheduleWakeupOutput else s.cancelWakeupOutput

def handleClose (s : Sender κ) : Sender κ := { s with closing := true }

end Sender

inductive OutEvent where
  | sendPacket (packet : WorldPacket) (queued : Queued)
  | handleOutput (sent : Sent) (requeues : Bool)
  | closeSocket
  | handleClose
  deriving Repr, DecidableEq

namespace Sender

variable {κ : Type} (c : SendCrypt κ)

def step (s : Sender κ) : OutEvent → Option (Sender κ)
  | .sendPacket packet queued => s.sendPacket c packet queued
  | .handleOutput sent requeues => s.handleOutput c sent requeues
  | .closeSocket => some s.closeSocket
  | .handleClose => some s.handleClose

/-- `none` when an assertion failed on the way. -/
def run (s : Sender κ) : List OutEvent → Option (Sender κ)
  | [] => some s
  | event :: events => (s.step c event).bind fun s => run s events

end Sender

namespace SendCrypt

variable {κ : Type} (c : SendCrypt κ)

/-- A complete frame, with the cipher state it leaves. -/
def frame (crypt : κ) (packet : WorldPacket) : List UInt8 × κ :=
  let (header, crypt) := c.encryptSend crypt packet.serverHeader.bytes
  (header ++ packet.contents, crypt)

/-- The concatenation of the frames, each encrypted with the state the previous one left. -/
def frames : κ → List WorldPacket → List UInt8 × κ
  | crypt, [] => ([], crypt)
  | crypt, packet :: packets =>
      let (bytes, crypt) := c.frame crypt packet
      let (rest, crypt) := frames crypt packets
      (bytes ++ rest, crypt)

theorem frames_append (crypt : κ) (packets later : List WorldPacket) :
    (c.frames crypt (packets ++ later)).1 = (c.frames crypt packets).1 ++
      (c.frames (c.frames crypt packets).2 later).1 := by
  induction packets generalizing crypt with
  | nil => rfl
  | cons first packets ih => simp only [List.cons_append, frames, ih, List.append_assoc]

theorem frames_concat (crypt : κ) (packets : List WorldPacket) (packet : WorldPacket) :
    c.frames crypt (packets ++ [packet]) =
      ((c.frames crypt packets).1 ++ (c.frame (c.frames crypt packets).2 packet).1,
        (c.frame (c.frames crypt packets).2 packet).2) := by
  induction packets generalizing crypt with
  | nil => simp [frames]
  | cons first packets ih => simp only [List.cons_append, frames, ih, List.append_assoc]

end SendCrypt

namespace Sender

variable {κ : Type} (c : SendCrypt κ)

def push (s : Sender κ) (packet : WorldPacket) : Sender κ :=
  { s with
    outBuffer := { s.outBuffer with
      written := s.outBuffer.written ++ (c.frame s.crypt packet).1 }
    crypt := (c.frame s.crypt packet).2
    framed := s.framed ++ [packet] }

theorem iSendPacket_fits {s : Sender κ} {packet : WorldPacket}
    (h : packet.contents.length + ServerPktHeader.length ≤ s.outBuffer.space) :
    iSendPacket c s packet = some (some (push c s packet)) := by
  have hheader : (c.encryptSend s.crypt packet.serverHeader.bytes).1.length =
      ServerPktHeader.length := by
    rw [c.length_encryptSend]
    rfl
  simp only [Sender.iSendPacket, if_neg (Nat.not_lt.mpr h), Option.some.injEq]
  have hcopy : s.outBuffer.copy (c.encryptSend s.crypt packet.serverHeader.bytes).1 =
      some { s.outBuffer with written :=
        s.outBuffer.written ++ (c.encryptSend s.crypt packet.serverHeader.bytes).1 } := by
    rw [MessageBlock.copy, if_neg (by omega)]
  rw [hcopy]
  by_cases hempty : packet.contents = []
  · simp [hempty, push, SendCrypt.frame]
  · have hroom : ¬ ({ s.outBuffer with written := s.outBuffer.written ++
        (c.encryptSend s.crypt packet.serverHeader.bytes).1 } : MessageBlock).space <
          packet.contents.length := by
      simp only [MessageBlock.space, List.length_append, hheader] at h ⊢
      omega
    simp [hempty, push, SendCrypt.frame, MessageBlock.copy, hroom]

theorem iSendPacket_full {s : Sender κ} {packet : WorldPacket}
    (h : s.outBuffer.space < packet.contents.length + ServerPktHeader.length) :
    iSendPacket c s packet = none := by
  simp only [Sender.iSendPacket, if_pos h]

def Sized (s : Sender κ) (packet : WorldPacket) : Prop :=
  packet.contents.length ≤ 65533 ∧
    packet.contents.length + ServerPktHeader.length ≤ s.outBufferSize

/-- The state of the output buffer between two calls. -/
structure Buffered (start : κ) (s : Sender κ) : Prop where
  capacity : s.outBuffer.capacity = s.outBufferSize
  rdPtr : s.outBuffer.rdPtr = 0
  stream : c.frames start s.framed = (s.wire ++ s.outBuffer.written, s.crypt)

theorem Buffered.push {start : κ} {s : Sender κ} (h : Buffered c start s) (packet : WorldPacket) :
    Buffered c start (s.push c packet) where
  capacity := h.capacity
  rdPtr := h.rdPtr
  stream := by
    simp only [Sender.push, c.frames_concat, h.stream, List.append_assoc]

/-- The first packets of the queue are encoded and the others wait on, but for one that
cannot be put back. -/
structure Moved (requeues : Bool) (queue : List WorldPacket) (s s' : Sender κ)
    (moved dropped : List WorldPacket) : Prop where
  split : queue = moved ++ dropped ++ s'.packetQueue
  framed : s'.framed = s.framed ++ moved
  lost : dropped.length ≤ 1 ∧ (requeues = true → dropped = [])

/-- What the loop over the queue leaves. -/
structure Flushed (start : κ) (requeues : Bool) (queue : List WorldPacket) (s s' : Sender κ) :
    Prop where
  buffered : Buffered c start s'
  kept : s'.outBufferSize = s.outBufferSize ∧ s'.closing = s.closing ∧ s'.accepted = s.accepted ∧
    s'.wire = s.wire
  written : s'.packetQueue ≠ [] → s'.outBuffer.written ≠ []
  moved : ∃ moved dropped, Moved requeues queue s s' moved dropped
  progress : s.outBuffer.written = [] → queue ≠ [] → s'.framed ≠ s.framed

theorem Flushed.sublist {start : κ} {requeues : Bool} {queue : List WorldPacket}
    {s s' : Sender κ} (h : Flushed c start requeues queue s s') :
    (s'.framed ++ s'.packetQueue).Sublist (s.framed ++ queue) := by
  obtain ⟨moved, dropped, h⟩ := h.moved
  rw [h.framed, h.split, List.append_assoc, List.append_assoc]
  exact ((List.sublist_append_right _ _).append_left _).append_left _

theorem Flushed.lossless {start : κ} {queue : List WorldPacket} {s s' : Sender κ}
    (h : Flushed c start true queue s s') :
    s'.framed ++ s'.packetQueue = s.framed ++ queue := by
  obtain ⟨moved, dropped, h⟩ := h.moved
  rw [h.framed, h.split, h.lost.2 rfl, List.append_nil, List.append_assoc]

theorem Buffered.written_of_full {start : κ} {s : Sender κ} (h : Buffered c start s)
    {packet : WorldPacket} (hsized : s.Sized packet)
    (hfull : s.outBuffer.space < packet.contents.length + ServerPktHeader.length) :
    s.outBuffer.written ≠ [] := by
  intro hempty
  have hfits := hsized.2
  rw [MessageBlock.space, h.capacity, hempty, List.length_nil] at hfull
  omega

theorem iFlushPacketQueue_flushed {start : κ} {requeues haveone : Bool}
    {queue : List WorldPacket} {s : Sender κ} (h : Buffered c start s)
    (hsized : ∀ packet ∈ queue, s.Sized packet) :
    ∃ s' moved, iFlushPacketQueue c requeues haveone queue s = some (s', moved) ∧
      Flushed c start requeues queue s s' := by
  induction queue generalizing s haveone with
  | nil =>
      refine ⟨_, _, rfl, ⟨h.capacity, h.rdPtr, h.stream⟩, ⟨rfl, rfl, rfl, rfl⟩, ?_,
        ⟨[], [], rfl, (List.append_nil _).symm, Nat.zero_le _, fun _ => rfl⟩, ?_⟩
      · exact fun hne => absurd rfl hne
      · exact fun _ hne => absurd rfl hne
  | cons packet rest ih =>
      by_cases hfull : s.outBuffer.space < packet.contents.length + ServerPktHeader.length
      · have hwritten := h.written_of_full c (hsized packet List.mem_cons_self) hfull
        simp only [iFlushPacketQueue, iSendPacket_full c hfull]
        cases requeues with
        | true =>
            exact ⟨_, _, rfl, ⟨h.capacity, h.rdPtr, h.stream⟩, ⟨rfl, rfl, rfl, rfl⟩,
              fun _ => hwritten,
              ⟨[], [], rfl, (List.append_nil _).symm, Nat.zero_le _, fun _ => rfl⟩,
              fun hempty => absurd hempty hwritten⟩
        | false =>
            exact ⟨_, _, rfl, ⟨h.capacity, h.rdPtr, h.stream⟩, ⟨rfl, rfl, rfl, rfl⟩,
              fun _ => hwritten,
              ⟨[], [packet], rfl, (List.append_nil _).symm, Nat.le_refl _, nofun⟩,
              fun hempty => absurd hempty hwritten⟩
      · have hpush : Buffered c start (s.push c packet) := h.push c packet
        obtain ⟨s', again, hloop, hflushed⟩ := ih hpush
          (fun p hp => hsized p (List.mem_cons_of_mem _ hp))
        obtain ⟨moved, dropped, hmoved⟩ := hflushed.moved
        have hframed : s'.framed = s.framed ++ packet :: moved := by
          rw [hmoved.framed]
          simp [push]
        refine ⟨s', again, ?_, hflushed.buffered, hflushed.kept, hflushed.written,
          ⟨packet :: moved, dropped, congrArg (packet :: ·) hmoved.split, hframed, hmoved.lost⟩,
          fun _ _ hsame => ?_⟩
        · simp only [iFlushPacketQueue, iSendPacket_fits c (Nat.not_lt.mp hfull)]
          exact hloop
        · simp [hframed] at hsame

/-- What every state of a socket satisfies. -/
structure Intact (start : κ) (s : Sender κ) : Prop where
  buffered : Buffered c start s
  flushable : s.packetQueue ≠ [] → s.outBuffer.written ≠ []
  sized : ∀ packet ∈ s.accepted, s.Sized packet
  order : (s.framed ++ s.packetQueue).Sublist s.accepted

/-- Nothing accepted is missing unless the socket was closed. -/
structure Lossless (s : Sender κ) : Prop where
  framed : s.framed <+: s.accepted
  waiting : s.closing = false → s.framed ++ s.packetQueue = s.accepted

theorem Intact.queue_sized {start : κ} {s : Sender κ} (h : Intact c start s) :
    ∀ packet ∈ s.packetQueue, s.Sized packet :=
  fun packet hpacket => h.sized packet (h.order.mem (List.mem_append_right _ hpacket))

theorem Intact.closeSocket {start : κ} {s : Sender κ} (h : Intact c start s) :
    Intact c start s.closeSocket := by
  unfold Sender.closeSocket
  split
  · exact h
  · refine ⟨⟨h.buffered.capacity, h.buffered.rdPtr, h.buffered.stream⟩,
      fun hne => absurd rfl hne, h.sized, ?_⟩
    exact (List.Sublist.append_left (List.nil_sublist _) _).trans h.order

theorem Lossless.closeSocket {s : Sender κ} (h : s.Lossless) : s.closeSocket.Lossless := by
  unfold Sender.closeSocket
  split
  · exact h
  · exact ⟨h.framed, by simp⟩

theorem Intact.enqueue {start : κ} {s : Sender κ} (h : Intact c start s) {packet : WorldPacket}
    (hsized : s.Sized packet) (hwritten : s.outBuffer.written ≠ []) (queued : Queued)
    (hopen : s.closing = false) :
    let s' := match queued with
      | .granted => { s with packetQueue := s.packetQueue ++ [packet] }.accept packet
      | .refused => s.closeSocket
    Intact c start s' ∧ (s.Lossless → s'.Lossless) := by
  cases queued with
  | refused => exact ⟨h.closeSocket, Lossless.closeSocket⟩
  | granted =>
      refine ⟨⟨⟨h.buffered.capacity, h.buffered.rdPtr, h.buffered.stream⟩, fun _ => hwritten,
        ?_, ?_⟩, fun hlossless => ⟨?_, fun _ => ?_⟩⟩
      · intro p hp
        rcases List.mem_append.mp hp with hp | hp
        · exact h.sized p hp
        · exact List.mem_singleton.mp hp ▸ hsized
      · change (s.framed ++ (s.packetQueue ++ [packet])).Sublist (s.accepted ++ [packet])
        rw [← List.append_assoc]
        exact h.order.append (List.Sublist.refl _)
      · exact hlossless.framed.trans (List.prefix_append _ _)
      · change s.framed ++ (s.packetQueue ++ [packet]) = s.accepted ++ [packet]
        rw [← List.append_assoc, hlossless.waiting hopen]

theorem Intact.sendPacket {start : κ} {s : Sender κ} (h : Intact c start s) (packet : WorldPacket)
    (queued : Queued) : ∃ s', s.sendPacket c packet queued = some s' ∧ Intact c start s' ∧
      (s.Lossless → s'.Lossless) := by
  simp only [Sender.sendPacket]
  by_cases hclosing : s.closing = true
  · exact ⟨s, by rw [if_pos hclosing], h, id⟩
  rw [if_neg hclosing]
  have hopen : s.closing = false := by simpa using hclosing
  by_cases hlarge : packet.contents.length > 65533 ∨
      packet.contents.length + ServerPktHeader.length > s.outBufferSize
  · exact ⟨_, by rw [if_pos hlarge], h.closeSocket, Lossless.closeSocket⟩
  rw [if_neg hlarge]
  have hsized : s.Sized packet := by
    simp only [not_or, gt_iff_lt, Nat.not_lt] at hlarge
    exact hlarge
  cases hqueue : s.packetQueue with
  | cons first rest =>
      have hwritten := h.flushable (by simp [hqueue])
      simp only [List.isEmpty_cons, Bool.false_eq_true, if_false]
      have henqueue := h.enqueue c hsized hwritten queued hopen
      rw [hqueue] at henqueue
      exact ⟨_, rfl, henqueue⟩
  | nil =>
      simp only [List.isEmpty_nil, if_true]
      by_cases hfull : s.outBuffer.space < packet.contents.length + ServerPktHeader.length
      · have hwritten := h.buffered.written_of_full c hsized hfull
        rw [iSendPacket_full c hfull]
        have henqueue := h.enqueue c hsized hwritten queued hopen
        rw [hqueue] at henqueue
        exact ⟨_, rfl, henqueue⟩
      · rw [iSendPacket_fits c (Nat.not_lt.mp hfull)]
        have hpush := h.buffered.push c packet
        have horder := h.order
        rw [hqueue, List.append_nil] at horder
        refine ⟨_, rfl, ⟨⟨hpush.capacity, hpush.rdPtr, hpush.stream⟩, ?_, ?_, ?_⟩,
          fun hlossless => ?_⟩
        · exact fun hne => absurd hqueue hne
        · intro p hp
          rcases List.mem_append.mp hp with hp | hp
          · exact h.sized p hp
          · exact List.mem_singleton.mp hp ▸ hsized
        · change ((s.framed ++ [packet]) ++ s.packetQueue).Sublist (s.accepted ++ [packet])
          rw [hqueue, List.append_nil]
          exact horder.append (List.Sublist.refl _)
        · have hall := hlossless.waiting hopen
          rw [hqueue, List.append_nil] at hall
          refine ⟨?_, fun _ => ?_⟩
          · change s.framed ++ [packet] <+: s.accepted ++ [packet]
            rw [hall]
          · change (s.framed ++ [packet]) ++ s.packetQueue = s.accepted ++ [packet]
            rw [hqueue, List.append_nil, hall]

theorem Buffered.data_eq {start : κ} {s : Sender κ} (h : Buffered c start s) :
    s.outBuffer.data = s.outBuffer.written := by
  rw [MessageBlock.data, h.rdPtr, List.drop_zero]

theorem Intact.setActive {start : κ} {s : Sender κ} (h : Intact c start s) (outActive : Bool) :
    Intact c start { s with outActive } :=
  ⟨⟨h.buffered.capacity, h.buffered.rdPtr, h.buffered.stream⟩, h.flushable, h.sized, h.order⟩

theorem Lossless.setActive {s : Sender κ} (h : s.Lossless) (outActive : Bool) :
    Lossless { s with outActive } := ⟨h.framed, h.waiting⟩

theorem Intact.partialSend {start : κ} {s : Sender κ} (h : Intact c start s) {n : Nat}
    (hn : n < s.outBuffer.written.length) :
    Intact c start { s with
      wire := s.wire ++ s.outBuffer.data.take n
      outBuffer := (s.outBuffer.advance n).crunch } := by
  have hrest : (s.outBuffer.advance n).crunch.written = s.outBuffer.written.drop n := by
    simp only [MessageBlock.crunch, MessageBlock.advance, MessageBlock.data, h.buffered.rdPtr,
      Nat.zero_add]
  refine ⟨⟨h.buffered.capacity, rfl, ?_⟩, fun _ => ?_, h.sized, h.order⟩
  · simp only [hrest, h.buffered.data_eq, List.append_assoc, List.take_append_drop,
      h.buffered.stream]
  · simp only [hrest, ne_eq, List.drop_eq_nil_iff]
    omega

/-- A complete send empties the buffer before the queue is moved into it. -/
theorem Buffered.reset {start : κ} {s : Sender κ} (h : Buffered c start s) {n : Nat}
    (hn : s.outBuffer.written.length ≤ n) :
    Buffered c start { s with
      wire := s.wire ++ s.outBuffer.data.take n
      outBuffer := s.outBuffer.reset } := by
  refine ⟨h.capacity, rfl, ?_⟩
  simp only [MessageBlock.reset, h.data_eq, List.take_of_length_le hn, List.append_nil, h.stream]

theorem Intact.handleOutput {start : κ} {s : Sender κ} (h : Intact c start s) (sent : Sent)
    (requeues : Bool) : ∃ s', s.handleOutput c sent requeues = some s' ∧ Intact c start s' ∧
      (requeues = true → s.Lossless → s'.Lossless) := by
  have hlength : s.outBuffer.length = s.outBuffer.written.length := by
    rw [MessageBlock.length, h.buffered.rdPtr, Nat.sub_zero]
  simp only [Sender.handleOutput]
  by_cases hclosing : s.closing = true
  · exact ⟨s, by rw [if_pos hclosing], h, fun _ => id⟩
  rw [if_neg hclosing]
  by_cases hempty : s.outBuffer.length = 0
  · exact ⟨s.cancelWakeupOutput, by rw [if_pos hempty], h.setActive c false,
      fun _ hlossless => hlossless.setActive false⟩
  rw [if_neg hempty]
  match sent with
  | .error => exact ⟨s, rfl, h, fun _ => id⟩
  | .bytes 0 => exact ⟨s, rfl, h, fun _ => id⟩
  | .wouldBlock =>
      exact ⟨s.scheduleWakeupOutput, rfl, h.setActive c true,
        fun _ hlossless => hlossless.setActive true⟩
  | .bytes (n + 1) =>
      simp only
      by_cases hpartial : n + 1 < s.outBuffer.length
      · rw [if_pos hpartial]
        rw [hlength] at hpartial
        exact ⟨_, rfl, (h.partialSend c hpartial).setActive c true,
          fun _ hlossless => ⟨hlossless.framed, hlossless.waiting⟩⟩
      · rw [if_neg hpartial]
        rw [hlength] at hpartial
        have hreset := h.buffered.reset c (Nat.not_lt.mp hpartial)
        obtain ⟨s', moved, hloop, hflushed⟩ :=
          @iFlushPacketQueue_flushed _ c start requeues false _ _
          hreset h.queue_sized
        obtain ⟨hsize, hclosed, haccepted, -⟩ := hflushed.kept
        have hintact : Intact c start s' := by
          refine ⟨hflushed.buffered, hflushed.written, ?_, ?_⟩
          · intro packet hpacket
            rw [haccepted] at hpacket
            have hpacket' := h.sized packet hpacket
            rw [Sized] at hpacket' ⊢
            rw [hsize]
            exact hpacket'
          · rw [haccepted]
            exact hflushed.sublist.trans h.order
        have hkept : requeues = true → s.Lossless → s'.Lossless := by
          intro hrequeues hall
          subst hrequeues
          have heq : s'.framed ++ s'.packetQueue = s.framed ++ s.packetQueue :=
            hflushed.lossless
          have hopen := hall.waiting (by simpa using hclosing)
          refine ⟨?_, fun _ => ?_⟩
          · rw [haccepted]
            change s'.framed <+: s.accepted
            rw [← hopen, ← heq]
            exact List.prefix_append _ _
          · rw [haccepted, heq]
            exact hopen
        simp only [hloop, Option.map_some]
        cases moved with
        | true =>
            exact ⟨_, rfl, hintact.setActive c true, fun hr hl => (hkept hr hl).setActive true⟩
        | false =>
            exact ⟨_, rfl, hintact.setActive c false, fun hr hl => (hkept hr hl).setActive false⟩

theorem Intact.step {start : κ} {s : Sender κ} (h : Intact c start s) (event : OutEvent) :
    ∃ s', s.step c event = some s' ∧ Intact c start s' ∧
      ((∀ sent, event ≠ .handleOutput sent false) → s.Lossless → s'.Lossless) := by
  cases event with
  | sendPacket packet queued =>
      obtain ⟨s', hstep, hintact, hlossless⟩ := h.sendPacket c packet queued
      exact ⟨s', hstep, hintact, fun _ => hlossless⟩
  | handleOutput sent requeues =>
      obtain ⟨s', hstep, hintact, hlossless⟩ := h.handleOutput c sent requeues
      refine ⟨s', hstep, hintact, fun hnot => hlossless ?_⟩
      cases requeues with
      | true => rfl
      | false => exact absurd rfl (hnot sent)
  | closeSocket => exact ⟨_, rfl, h.closeSocket, fun _ => Lossless.closeSocket⟩
  | handleClose =>
      refine ⟨_, rfl, ⟨⟨h.buffered.capacity, h.buffered.rdPtr, h.buffered.stream⟩, h.flushable,
        h.sized, h.order⟩, fun _ hlossless => ⟨hlossless.framed, ?_⟩⟩
      simp [Sender.handleClose]

theorem Intact.run {start : κ} {s : Sender κ} (h : Intact c start s) (events : List OutEvent) :
    ∃ s', s.run c events = some s' ∧ Intact c start s' ∧
      ((∀ sent, .handleOutput sent false ∉ events) → s.Lossless → s'.Lossless) := by
  induction events generalizing s with
  | nil => exact ⟨s, rfl, h, fun _ => id⟩
  | cons event events ih =>
      obtain ⟨next, hstep, hnext, hlossless⟩ := h.step c event
      obtain ⟨s', hrun, hintact, hrest⟩ := ih hnext
      refine ⟨s', ?_, hintact, fun hnot hall => hrest ?_ (hlossless ?_ hall)⟩
      · rw [Sender.run, hstep, Option.bind_some]
        exact hrun
      · exact fun sent hmem => hnot sent (List.mem_cons_of_mem _ hmem)
      · exact fun sent heq => hnot sent (heq ▸ List.mem_cons_self)

/-- What a send of `n` bytes does: they are on the wire, and the rest of the buffer stays in
it, or, if that is nothing, packets of the queue come into it, at least one. -/
structure Delivered (requeues : Bool) (n : Nat) (s s' : Sender κ) : Prop where
  closing : s'.closing = s.closing
  wire : s'.wire = s.wire ++ s.outBuffer.data.take n
  partly : n < s.outBuffer.length → s'.outBuffer.data = s.outBuffer.data.drop n ∧
    s'.framed = s.framed ∧ s'.packetQueue = s.packetQueue
  wholly : s.outBuffer.length ≤ n → ∃ moved dropped,
    Moved requeues s.packetQueue s s' moved dropped ∧ (s.packetQueue ≠ [] → moved ≠ [])

theorem Intact.delivered {start : κ} {s : Sender κ} (h : Intact c start s)
    (hopen : s.closing = false) (hfilled : s.outBuffer.length ≠ 0) {n : Nat} (hsent : n ≠ 0)
    (requeues : Bool) :
    ∃ s', s.handleOutput c (.bytes n) requeues = some s' ∧ Delivered requeues n s s' := by
  obtain ⟨n, rfl⟩ := Nat.exists_eq_succ_of_ne_zero hsent
  have hlength : s.outBuffer.length = s.outBuffer.written.length := by
    rw [MessageBlock.length, h.buffered.rdPtr, Nat.sub_zero]
  simp only [Sender.handleOutput]
  rw [if_neg (by simp [hopen]), if_neg hfilled]
  by_cases hpartial : n + 1 < s.outBuffer.length
  · rw [if_pos hpartial]
    refine ⟨_, rfl, rfl, rfl, fun _ => ⟨?_, rfl, rfl⟩,
      fun hwhole => absurd hpartial (Nat.not_lt.mpr hwhole)⟩
    simp [scheduleWakeupOutput, MessageBlock.crunch, MessageBlock.advance, MessageBlock.data,
      List.drop_drop]
  · rw [if_neg hpartial]
    have hreset := h.buffered.reset c (hlength ▸ Nat.not_lt.mp hpartial)
    obtain ⟨s', again, hloop, hflushed⟩ := @iFlushPacketQueue_flushed _ c start requeues false _ _
      hreset h.queue_sized
    obtain ⟨-, hclosing, -, hwire⟩ := hflushed.kept
    obtain ⟨moved, dropped, hmoved⟩ := hflushed.moved
    have hdelivered : ∀ outActive, Delivered requeues (n + 1) s { s' with outActive } := by
      refine fun outActive => ⟨hclosing, hwire, fun hless => absurd hless hpartial,
        fun _ => ⟨moved, dropped, ⟨hmoved.split, hmoved.framed, hmoved.lost⟩, ?_⟩⟩
      intro hqueue hnone
      refine hflushed.progress rfl hqueue ?_
      rw [hmoved.framed, hnone, List.append_nil]
    simp only [hloop, Option.map_some]
    cases again with
    | true => exact ⟨_, rfl, hdelivered true⟩
    | false => exact ⟨_, rfl, hdelivered false⟩

/-- A send with bytes in the buffer brings the wire on, and all frames stay what they are. -/
theorem Delivered.all {n : Nat} {s s' : Sender κ} (h : Delivered true n s s') :
    s'.framed ++ s'.packetQueue = s.framed ++ s.packetQueue := by
  by_cases hpartial : n < s.outBuffer.length
  · obtain ⟨-, hframed, hqueue⟩ := h.partly hpartial
    rw [hframed, hqueue]
  · obtain ⟨moved, dropped, hmoved, -⟩ := h.wholly (Nat.not_lt.mp hpartial)
    rw [hmoved.framed, hmoved.split, hmoved.lost.2 rfl, List.append_nil, List.append_assoc]

theorem Intact.idle {start : κ} {s : Sender κ} (h : Intact c start s)
    (hempty : s.outBuffer.length = 0) :
    s.packetQueue = [] ∧ s.wire = (c.frames start (s.framed ++ s.packetQueue)).1 := by
  rw [MessageBlock.length, h.buffered.rdPtr, Nat.sub_zero, List.length_eq_zero_iff] at hempty
  have hqueue : s.packetQueue = [] := by
    by_contra hne
    exact h.flushable hne hempty
  rw [hqueue, List.append_nil, h.buffered.stream, hempty, List.append_nil]
  exact ⟨rfl, rfl⟩

/-- As many sends as there are bytes left bring all of them onto the wire. -/
theorem Intact.drained {start : κ} {s : Sender κ} (h : Intact c start s)
    (hopen : s.closing = false) (counts : List Nat) (hsent : ∀ n ∈ counts, n ≠ 0)
    (henough : (c.frames start (s.framed ++ s.packetQueue)).1.length ≤
      s.wire.length + counts.length) :
    ∃ s', s.run c (counts.map fun n => .handleOutput (.bytes n) true) = some s' ∧
      s'.packetQueue = [] ∧ s'.outBuffer.length = 0 ∧
      s'.wire = (c.frames start (s.framed ++ s.packetQueue)).1 := by
  have hlength : s.outBuffer.length = s.outBuffer.written.length := by
    rw [MessageBlock.length, h.buffered.rdPtr, Nat.sub_zero]
  induction counts generalizing s with
  | nil =>
      have htotal := congrArg List.length (c.frames_append start s.framed s.packetQueue)
      rw [h.buffered.stream, List.length_append, List.length_append] at htotal
      rw [List.length_nil] at henough
      have hempty : s.outBuffer.length = 0 := by omega
      exact ⟨s, rfl, (h.idle c hempty).1, hempty, (h.idle c hempty).2⟩
  | cons n counts ih =>
      have hrest : ∀ n ∈ counts, n ≠ 0 := fun n hn => hsent n (List.mem_cons_of_mem _ hn)
      by_cases hempty : s.outBuffer.length = 0
      · have hstep : s.handleOutput c (.bytes n) true = some s.cancelWakeupOutput := by
          simp only [Sender.handleOutput, hopen, Bool.false_eq_true, if_false, if_pos hempty]
        obtain ⟨s', hrun, hdone⟩ := @ih s.cancelWakeupOutput (h.setActive c false) hopen hrest
          ((h.idle c hempty).2 ▸ Nat.le_add_right _ _) hlength
        refine ⟨s', ?_, hdone⟩
        rw [List.map_cons, Sender.run, Sender.step, hstep, Option.bind_some]
        exact hrun
      · obtain ⟨next, hstep, hdelivered⟩ :=
          h.delivered c hopen hempty (hsent n List.mem_cons_self) true
        obtain ⟨next', hstep', hnext, -⟩ := h.handleOutput c (.bytes n) true
        obtain rfl := Option.some.inj (hstep.symm.trans hstep')
        have hgrown : s.wire.length + 1 ≤ next.wire.length := by
          have hn := hsent n List.mem_cons_self
          rw [hdelivered.wire, List.length_append, List.length_take, h.buffered.data_eq]
          omega
        obtain ⟨s', hrun, hdone⟩ := ih hnext (hdelivered.closing.trans hopen) hrest
          (by rw [hdelivered.all]; rw [List.length_cons] at henough; omega)
          (by rw [MessageBlock.length, hnext.buffered.rdPtr, Nat.sub_zero])
        refine ⟨s', ?_, hdelivered.all ▸ hdone⟩
        rw [List.map_cons, Sender.run, Sender.step, hstep, Option.bind_some]
        exact hrun

/-- In every run no assertion fails; what is on the wire and in the buffer are the complete
frames of accepted packets in order, with the cipher carried from frame to frame, and
nothing is left out while the socket is open and the queue can be written back; a
packet waits only behind a buffer that is not empty. So while the socket is open, a send
brings bytes of the buffer onto the wire and then packets of the queue into the buffer,
and enough sends bring all of them onto the wire. No size field wraps. -/
theorem stream_intact (outBufferSize : Nat) (crypt : κ) (events : List OutEvent) :
    ∃ s, run c { outBufferSize, crypt } events = some s ∧
      c.frames crypt s.framed = (s.wire ++ s.outBuffer.data, s.crypt) ∧
      (s.framed ++ s.packetQueue).Sublist s.accepted ∧
      ((∀ sent, .handleOutput sent false ∉ events) →
        s.framed <+: s.accepted ∧ (s.closing = false → s.framed ++ s.packetQueue = s.accepted)) ∧
      (s.packetQueue ≠ [] → s.outBuffer.length ≠ 0) ∧
      (s.closing = false →
        (s.outBuffer.length ≠ 0 → ∀ n, n ≠ 0 → ∀ requeues,
          ∃ s', s.handleOutput c (.bytes n) requeues = some s' ∧ Delivered requeues n s s') ∧
        ∀ counts : List Nat, (∀ n ∈ counts, n ≠ 0) →
          (c.frames crypt (s.framed ++ s.packetQueue)).1.length ≤ s.wire.length + counts.length →
          ∃ s', s.run c (counts.map fun n => .handleOutput (.bytes n) true) = some s' ∧
            s'.packetQueue = [] ∧ s'.outBuffer.length = 0 ∧
            s'.wire = (c.frames crypt (s.framed ++ s.packetQueue)).1) ∧
      ∀ packet ∈ s.accepted,
        packet.serverHeader.size.toNat = packet.contents.length + 2 := by
  have hstart : Intact c crypt { outBufferSize, crypt } :=
    ⟨⟨rfl, rfl, rfl⟩, fun hne => absurd rfl hne, by simp, List.Sublist.refl _⟩
  obtain ⟨s, hrun, hintact, hlossless⟩ := hstart.run c events
  refine ⟨s, hrun, ?_, hintact.order, fun hnot => ?_, ?_, fun hopen => ⟨?_, ?_⟩, ?_⟩
  · rw [hintact.buffered.data_eq]
    exact hintact.buffered.stream
  · have hall := hlossless hnot ⟨List.prefix_refl _, fun _ => rfl⟩
    exact ⟨hall.framed, hall.waiting⟩
  · intro hqueue
    rw [MessageBlock.length, hintact.buffered.rdPtr, Nat.sub_zero]
    exact fun hzero => hintact.flushable hqueue (List.length_eq_zero_iff.mp hzero)
  · exact fun hfilled n hsent requeues => hintact.delivered c hopen hfilled hsent requeues
  · exact hintact.drained c hopen
  · intro packet hpacket
    have hsize := (hintact.sized packet hpacket).1
    have htwo : (2 : UInt16).toNat = 2 := rfl
    rw [WorldPacket.serverHeader, UInt16.toNat_add, UInt16.toNat_ofNat', htwo]
    omega

end Sender

end TortoiseWow.Network
