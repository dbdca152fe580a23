import TortoiseWow.Lib.ListRef
import TortoiseWow.Lib.Run

/-!
Bytes reserved for outgoing payloads, against a limit of one socket and a limit of
all sockets. Every event is one atomic access of one call of Acquire or of one
token's destructor, so a list of events is any interleaving of any number of them.
-/

namespace TortoiseWow.Memory

/-- What one pass of the compare-exchange loop comes to. -/
inductive Attempt where
  | refused
  | again (old : UInt64)
  | reserved (bytes : UInt64)
  deriving Repr, DecidableEq

/-- WriteBudget::Reserve after `old` was read. A weak compare-exchange may fail
spuriously; it then reads the counter again. -/
def reserve (counter old n limit : UInt64) (spurious : Bool) : Attempt :=
  if limit < n ∨ limit - n < old then .refused
  else if counter = old ∧ spurious = false then .reserved (old + n)
  else .again counter

/-- Where a call of Acquire stands, or the token that it returned. -/
inductive Phase where
  | loadSocket
  | reserveSocket (old : UInt64)
  | loadGlobal
  | reserveGlobal (old : UInt64)
  | refusedGlobal
  | makeToken
  | failedSocket
  | failedGlobal
  | token
  | destroyGlobal
  | destroySocket
  | finished
  deriving Repr, DecidableEq

structure Reservation where
  socket : Nat
  n : UInt64
  socketLimit : UInt64
  globalLimit : UInt64
  phase : Phase := .loadSocket
  deriving Repr, DecidableEq

/-- The counters, `state->bytes` of each socket and `globalBytes`, with every call of
Acquire so far. -/
structure WriteBudgets where
  socketBytes : Nat → UInt64 := fun _ => 0
  globalBytes : UInt64 := 0
  reservations : List Reservation := []

namespace WriteBudgets

def setPhase (s : WriteBudgets) (i : Nat) (r : Reservation) (phase : Phase) : WriteBudgets :=
  { s with reservations := s.reservations.set i { r with phase } }

def setSocket (s : WriteBudgets) (socket : Nat) (bytes : UInt64) : WriteBudgets :=
  { s with socketBytes := Function.update s.socketBytes socket bytes }

def setGlobal (s : WriteBudgets) (bytes : UInt64) : WriteBudgets :=
  { s with globalBytes := bytes }

/-- The next atomic access of a call or a destructor. `fails` stands for a spurious
failure of the compare-exchange and for a failing allocation. -/
def advance (s : WriteBudgets) (i : Nat) (r : Reservation) (fails : Bool) : WriteBudgets :=
  let socketBytes := s.socketBytes r.socket
  match r.phase with
  | .loadSocket => s.setPhase i r (.reserveSocket socketBytes)
  | .reserveSocket old =>
      match reserve socketBytes old r.n r.socketLimit fails with
      | .refused => s.setPhase i r .finished
      | .again old => s.setPhase i r (.reserveSocket old)
      | .reserved bytes => (s.setSocket r.socket bytes).setPhase i r .loadGlobal
  | .loadGlobal => s.setPhase i r (.reserveGlobal s.globalBytes)
  | .reserveGlobal old =>
      match reserve s.globalBytes old r.n r.globalLimit fails with
      | .refused => s.setPhase i r .refusedGlobal
      | .again old => s.setPhase i r (.reserveGlobal old)
      | .reserved bytes => (s.setGlobal bytes).setPhase i r .makeToken
  | .refusedGlobal => (s.setSocket r.socket (socketBytes - r.n)).setPhase i r .finished
  | .makeToken => s.setPhase i r (if fails then .failedSocket else .token)
  | .failedSocket => (s.setSocket r.socket (socketBytes - r.n)).setPhase i r .failedGlobal
  | .failedGlobal => (s.setGlobal (s.globalBytes - r.n)).setPhase i r .finished
  | .token => s
  | .destroyGlobal => (s.setGlobal (s.globalBytes - r.n)).setPhase i r .destroySocket
  | .destroySocket => (s.setSocket r.socket (socketBytes - r.n)).setPhase i r .finished
  | .finished => s

end WriteBudgets

inductive BudgetEvent where
  | acquire (socket : Nat) (n socketLimit globalLimit : UInt64)
  | advance (call : Nat) (fails : Bool)
  | destroy (call : Nat)
  deriving Repr, DecidableEq

namespace WriteBudgets

def step (s : WriteBudgets) : BudgetEvent → WriteBudgets
  | .acquire socket n socketLimit globalLimit =>
      { s with reservations := s.reservations ++ [{ socket, n, socketLimit, globalLimit }] }
  | .advance i fails =>
      match s.reservations[i]? with
      | some r => s.advance i r fails
      | none => s
  | .destroy i =>
      match s.reservations[i]? with
      | some r => if r.phase = .token then s.setPhase i r .destroyGlobal else s
      | none => s

def run (s : WriteBudgets) (events : List BudgetEvent) : WriteBudgets := Lib.run step s events

end WriteBudgets

def Phase.inSocket : Phase → Bool
  | .loadGlobal | .reserveGlobal _ | .refusedGlobal | .makeToken | .failedSocket | .token
  | .destroyGlobal | .destroySocket => true
  | .loadSocket | .reserveSocket _ | .failedGlobal | .finished => false

def Phase.inGlobal : Phase → Bool
  | .makeToken | .failedSocket | .failedGlobal | .token | .destroyGlobal => true
  | .loadSocket | .reserveSocket _ | .loadGlobal | .reserveGlobal _ | .refusedGlobal
  | .destroySocket | .finished => false

/-- The next access subtracts from the socket's counter. -/
def Phase.leavesSocket : Phase → Bool
  | .refusedGlobal | .failedSocket | .destroySocket => true
  | _ => false

/-- The next access subtracts from the global counter. -/
def Phase.leavesGlobal : Phase → Bool
  | .failedGlobal | .destroyGlobal => true
  | _ => false

namespace Reservation

def socketHeld (socket : Nat) (r : Reservation) : Nat :=
  if r.socket = socket ∧ r.phase.inSocket then r.n.toNat else 0

def globalHeld (r : Reservation) : Nat :=
  if r.phase.inGlobal then r.n.toNat else 0

end Reservation

theorem reserve_reserved {counter old n limit bytes : UInt64} {spurious : Bool}
    (h : reserve counter old n limit spurious = .reserved bytes) :
    bytes.toNat = counter.toNat + n.toNat ∧ bytes ≤ limit := by
  unfold reserve at h
  split at h
  next => simp at h
  next hfits =>
    split at h
    next hsame =>
      simp only [Attempt.reserved.injEq] at h
      obtain ⟨rfl, -⟩ := hsame
      subst h
      simp only [not_or, UInt64.not_lt, UInt64.le_iff_toNat_le] at hfits ⊢
      obtain ⟨hn, hold⟩ := hfits
      rw [UInt64.toNat_sub_of_le _ _ hn] at hold
      have hlimit := limit.toNat_lt
      rw [UInt64.toNat_add, Nat.mod_eq_of_lt (by omega)]
      omega
    next => simp at h

namespace WriteBudgets

/-- Each counter is the sum of what the tokens and the calls in progress hold. -/
structure Accounted (s : WriteBudgets) : Prop where
  socket : ∀ socket, (s.socketBytes socket).toNat =
    Lib.weight (Reservation.socketHeld socket) s.reservations
  all : s.globalBytes.toNat = Lib.weight Reservation.globalHeld s.reservations

theorem Accounted.change {s s' : WriteBudgets} (h : s.Accounted) {i : Nat} {r : Reservation}
    (hr : s.reservations[i]? = some r) {phase : Phase}
    (hphase : s'.reservations = s.reservations.set i { r with phase })
    (hsocket : ∀ socket, (s'.socketBytes socket).toNat + r.socketHeld socket =
      (s.socketBytes socket).toNat + Reservation.socketHeld socket { r with phase })
    (hglobal : s'.globalBytes.toNat + r.globalHeld =
      s.globalBytes.toNat + Reservation.globalHeld { r with phase }) : s'.Accounted where
  socket := by
    intro socket
    have hset := Lib.weight_set (Reservation.socketHeld socket) { r with phase } hr
    have hbefore := h.socket socket
    have hchange := hsocket socket
    rw [hphase]
    omega
  all := by
    have hset := Lib.weight_set Reservation.globalHeld { r with phase } hr
    have hbefore := h.all
    rw [hphase]
    omega

section Release

variable {s : WriteBudgets} {i : Nat} {r : Reservation}

/-- A call or token that still counts in its socket's counter can be subtracted. -/
theorem Accounted.socket_ge (h : s.Accounted) (hr : s.reservations[i]? = some r)
    (hheld : r.phase.inSocket = true) : r.n ≤ s.socketBytes r.socket := by
  have hge := Lib.weight_ge (Reservation.socketHeld r.socket) hr
  rw [← h.socket, Reservation.socketHeld, if_pos ⟨rfl, hheld⟩] at hge
  exact UInt64.le_iff_toNat_le.mpr hge

theorem Accounted.global_ge (h : s.Accounted) (hr : s.reservations[i]? = some r)
    (hheld : r.phase.inGlobal = true) : r.n ≤ s.globalBytes := by
  have hge := Lib.weight_ge Reservation.globalHeld hr
  rw [← h.all, Reservation.globalHeld, if_pos hheld] at hge
  exact UInt64.le_iff_toNat_le.mpr hge

/-- Nothing is reserved or given back. -/
theorem Accounted.setPhase (h : s.Accounted) (hr : s.reservations[i]? = some r) {phase : Phase}
    (hsocket : phase.inSocket = r.phase.inSocket) (hglobal : phase.inGlobal = r.phase.inGlobal) :
    (s.setPhase i r phase).Accounted := by
  refine h.change hr rfl (fun socket => ?_) ?_
  · simp only [Reservation.socketHeld, hsocket, WriteBudgets.setPhase]
  · simp only [Reservation.globalHeld, hglobal, WriteBudgets.setPhase]

theorem Accounted.setSocket (h : s.Accounted) (hr : s.reservations[i]? = some r) {phase : Phase}
    {bytes : UInt64}
    (hbytes : bytes.toNat + r.socketHeld r.socket =
      (s.socketBytes r.socket).toNat + Reservation.socketHeld r.socket { r with phase })
    (hglobal : phase.inGlobal = r.phase.inGlobal) :
    ((s.setSocket r.socket bytes).setPhase i r phase).Accounted := by
  refine h.change hr rfl (fun socket => ?_) ?_
  · by_cases hsame : socket = r.socket
    · subst hsame
      simpa [WriteBudgets.setSocket, WriteBudgets.setPhase] using hbytes
    · have hother : r.socket ≠ socket := fun heq => hsame heq.symm
      simp [WriteBudgets.setSocket, WriteBudgets.setPhase, Function.update_of_ne hsame,
        Reservation.socketHeld, hother]
  · simp only [Reservation.globalHeld, hglobal, WriteBudgets.setSocket, WriteBudgets.setPhase]

theorem Accounted.setGlobal (h : s.Accounted) (hr : s.reservations[i]? = some r) {phase : Phase}
    {bytes : UInt64}
    (hbytes : bytes.toNat + r.globalHeld =
      s.globalBytes.toNat + Reservation.globalHeld { r with phase })
    (hsocket : phase.inSocket = r.phase.inSocket) :
    ((s.setGlobal bytes).setPhase i r phase).Accounted := by
  refine h.change hr rfl (fun socket => ?_) hbytes
  simp only [Reservation.socketHeld, hsocket, WriteBudgets.setGlobal, WriteBudgets.setPhase]

theorem Accounted.releaseSocket (h : s.Accounted) (hr : s.reservations[i]? = some r) {phase : Phase}
    (hheld : r.phase.inSocket = true) (hnext : phase.inSocket = false)
    (hglobal : phase.inGlobal = r.phase.inGlobal) :
    ((s.setSocket r.socket (s.socketBytes r.socket - r.n)).setPhase i r phase).Accounted := by
  have hge := h.socket_ge hr hheld
  refine h.setSocket hr ?_ hglobal
  rw [UInt64.toNat_sub_of_le _ _ hge]
  simp only [Reservation.socketHeld, hheld, hnext]
  have hle := UInt64.le_iff_toNat_le.mp hge
  simp
  omega

theorem Accounted.releaseGlobal (h : s.Accounted) (hr : s.reservations[i]? = some r) {phase : Phase}
    (hheld : r.phase.inGlobal = true) (hnext : phase.inGlobal = false)
    (hsocket : phase.inSocket = r.phase.inSocket) :
    ((s.setGlobal (s.globalBytes - r.n)).setPhase i r phase).Accounted := by
  have hge := h.global_ge hr hheld
  refine h.setGlobal hr ?_ hsocket
  rw [UInt64.toNat_sub_of_le _ _ hge]
  simp only [Reservation.globalHeld, hheld, hnext]
  have hle := UInt64.le_iff_toNat_le.mp hge
  simp
  omega

theorem Accounted.advance (h : s.Accounted) (hr : s.reservations[i]? = some r) (fails : Bool) :
    (s.advance i r fails).Accounted := by
  unfold WriteBudgets.advance
  cases hphase : r.phase with
  | loadSocket => exact h.setPhase hr (by rw [hphase]; rfl) (by rw [hphase]; rfl)
  | reserveSocket old =>
      dsimp only
      split
      next => exact h.setPhase hr (by rw [hphase]; rfl) (by rw [hphase]; rfl)
      next => exact h.setPhase hr (by rw [hphase]; rfl) (by rw [hphase]; rfl)
      next bytes hreserved =>
        refine h.setSocket hr ?_ (by rw [hphase]; rfl)
        simp [Reservation.socketHeld, hphase, Phase.inSocket, (reserve_reserved hreserved).1]
  | loadGlobal => exact h.setPhase hr (by rw [hphase]; rfl) (by rw [hphase]; rfl)
  | reserveGlobal old =>
      dsimp only
      split
      next => exact h.setPhase hr (by rw [hphase]; rfl) (by rw [hphase]; rfl)
      next => exact h.setPhase hr (by rw [hphase]; rfl) (by rw [hphase]; rfl)
      next bytes hreserved =>
        refine h.setGlobal hr ?_ (by rw [hphase]; rfl)
        simp [Reservation.globalHeld, hphase, Phase.inGlobal, (reserve_reserved hreserved).1]
  | makeToken =>
      cases fails with
      | false => exact h.setPhase hr (by rw [hphase]; rfl) (by rw [hphase]; rfl)
      | true => exact h.setPhase hr (by rw [hphase]; rfl) (by rw [hphase]; rfl)
  | refusedGlobal | failedSocket | destroySocket =>
      exact h.releaseSocket hr (by rw [hphase]; rfl) rfl (by rw [hphase]; rfl)
  | failedGlobal | destroyGlobal =>
      exact h.releaseGlobal hr (by rw [hphase]; rfl) rfl (by rw [hphase]; rfl)
  | token => exact h
  | finished => exact h

end Release

theorem Accounted.step {s : WriteBudgets} (h : s.Accounted) (event : BudgetEvent) :
    (s.step event).Accounted := by
  cases event with
  | acquire socket n socketLimit globalLimit =>
      refine ⟨fun k => ?_, ?_⟩
      · simp [WriteBudgets.step, h.socket k, Reservation.socketHeld, Phase.inSocket]
      · simp [WriteBudgets.step, h.all, Reservation.globalHeld, Phase.inGlobal]
  | advance i fails =>
      simp only [WriteBudgets.step]
      split
      next r hr => exact h.advance hr fails
      next => exact h
  | destroy i =>
      simp only [WriteBudgets.step]
      split
      next r hr =>
        split
        next htoken => exact h.setPhase hr (by rw [htoken]; rfl) (by rw [htoken]; rfl)
        next => exact h
      next => exact h

/-- What holds of every step of every call: no subtraction goes below zero, and a
successful reservation stays within the limit passed to the call. -/
def Safe (s : WriteBudgets) (event : BudgetEvent) : Prop :=
  ∀ i fails r, event = .advance i fails → s.reservations[i]? = some r →
    (r.phase.leavesSocket = true → r.n ≤ s.socketBytes r.socket) ∧
    (r.phase.leavesGlobal = true → r.n ≤ s.globalBytes) ∧
    ∀ r', (s.step event).reservations[i]? = some r' →
      (r.phase.inSocket = false → r'.phase.inSocket = true →
        (s.step event).socketBytes r.socket ≤ r.socketLimit) ∧
      (r.phase.inGlobal = false → r'.phase.inGlobal = true →
        (s.step event).globalBytes ≤ r.globalLimit)

theorem reservations_setPhase {s : WriteBudgets} {i : Nat} {r r' : Reservation} {phase : Phase}
    (h : (s.setPhase i r phase).reservations[i]? = some r') : r'.phase = phase := by
  simp only [WriteBudgets.setPhase, List.getElem?_set_self'] at h
  obtain ⟨_, -, rfl⟩ := Option.map_eq_some_iff.mp h
  rfl

/-- A reservation is made by the compare-exchange of its own loop only. -/
theorem advance_within {s : WriteBudgets} {i : Nat} {r r' : Reservation} {fails : Bool}
    (hr : s.reservations[i]? = some r) (hr' : (s.advance i r fails).reservations[i]? = some r') :
    (r.phase.inSocket = false → r'.phase.inSocket = true →
        (s.advance i r fails).socketBytes r.socket ≤ r.socketLimit) ∧
      (r.phase.inGlobal = false → r'.phase.inGlobal = true →
        (s.advance i r fails).globalBytes ≤ r.globalLimit) := by
  unfold WriteBudgets.advance at hr' ⊢
  cases hphase : r.phase with
  | reserveSocket old =>
      simp only [hphase] at hr' ⊢
      split at hr'
      next => simp [reservations_setPhase hr', Phase.inSocket, Phase.inGlobal]
      next => simp [reservations_setPhase hr', Phase.inSocket, Phase.inGlobal]
      next bytes hreserved =>
        refine ⟨fun _ _ => ?_, by simp [reservations_setPhase hr', Phase.inGlobal]⟩
        simpa [WriteBudgets.setSocket, WriteBudgets.setPhase] using (reserve_reserved hreserved).2
  | reserveGlobal old =>
      simp only [hphase] at hr' ⊢
      split at hr'
      next => simp [Phase.inSocket, reservations_setPhase hr', Phase.inGlobal]
      next => simp [Phase.inSocket, reservations_setPhase hr', Phase.inGlobal]
      next bytes hreserved =>
        refine ⟨by simp [Phase.inSocket], fun _ _ => ?_⟩
        simpa [WriteBudgets.setGlobal, WriteBudgets.setPhase] using (reserve_reserved hreserved).2
  | token | finished =>
      simp only [hphase, hr, Option.some.injEq] at hr'
      subst hr'
      simp [hphase, Phase.inSocket, Phase.inGlobal]
  | makeToken | loadSocket | loadGlobal | refusedGlobal | failedSocket | failedGlobal
  | destroyGlobal | destroySocket =>
      simp only [hphase] at hr'
      simp [reservations_setPhase hr', Phase.inSocket, Phase.inGlobal]

theorem Accounted.safe {s : WriteBudgets} (h : s.Accounted) (event : BudgetEvent) :
    s.Safe event := by
  rintro i fails r rfl hr
  refine ⟨fun hleaves => h.socket_ge hr ?_, fun hleaves => h.global_ge hr ?_, fun r' hr' => ?_⟩
  · cases hphase : r.phase <;> simp_all [Phase.leavesSocket, Phase.inSocket]
  · cases hphase : r.phase <;> simp_all [Phase.leavesGlobal, Phase.inGlobal]
  · have hstep : s.step (.advance i fails) = s.advance i r fails := by
      simp only [WriteBudgets.step, hr]
    rw [hstep] at hr' ⊢
    exact advance_within hr hr'

/-- With all tokens destroyed and no call in progress nothing is reserved. -/
theorem Accounted.zero {s : WriteBudgets} (h : s.Accounted)
    (hfinished : ∀ r ∈ s.reservations, r.phase = .finished) :
    (∀ socket, s.socketBytes socket = 0) ∧ s.globalBytes = 0 := by
  have hnone : ∀ w : Reservation → Nat, (∀ r ∈ s.reservations, w r = 0) →
      Lib.weight w s.reservations = 0 := by
    intro w hw
    rw [Lib.weight, List.sum_eq_zero_iff]
    simpa using hw
  refine ⟨fun socket => ?_, ?_⟩
  · rw [← UInt64.toNat_inj, h.socket socket]
    refine hnone _ fun r hr => ?_
    simp [Reservation.socketHeld, hfinished r hr, Phase.inSocket]
  · rw [← UInt64.toNat_inj, h.all]
    refine hnone _ fun r hr => ?_
    simp [Reservation.globalHeld, hfinished r hr, Phase.inGlobal]

theorem accounted_in_every_state (events : List BudgetEvent) : (run {} events).Accounted := by
  refine Lib.run_always (fun s event h => h.step event) ?_ events
  exact ⟨fun socket => rfl, rfl⟩

/-- In every interleaving the counters are right, every step is safe, and the
counters return to zero. -/
theorem budgets_accounted (events : List BudgetEvent) :
    (run {} events).Accounted ∧ Lib.Along step Safe {} events ∧
      ((∀ r ∈ (run {} events).reservations, r.phase = .finished) →
        (∀ socket, (run {} events).socketBytes socket = 0) ∧ (run {} events).globalBytes = 0) := by
  have haccounted := accounted_in_every_state events
  refine ⟨haccounted, ?_, haccounted.zero⟩
  exact Lib.along_always (I := Accounted) (fun s event h => h.step event)
    (fun s event h => h.safe event) ⟨fun socket => rfl, rfl⟩ events

end WriteBudgets

end TortoiseWow.Memory
