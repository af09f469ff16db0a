import Capybara.Tcp.Established.Faults
import Capybara.Tcp.Established.Transmission

/-!
# Accounting of the receive window

The window is the receive buffer less `receive_next - reader_next`. It is right
as long as everything joined in order fits into it. Arriving text is cut to the
window, and stored entries ended inside it when they were stored; but a FIN that
an in-order segment carries is counted after the stored data that continues the
segment. When that data reaches the right edge, the FIN no longer fits: one
number too many is received, the window wraps, and building the acknowledgement
fails.

Positions are counted without wrapping from the first sequence number on. Stored
entries that `receive_next` has passed stay in the store. Only a whole turn of
the sequence space later can they look like entries of the window again.
-/

namespace Capybara

open OutOfOrder

variable {κ ρ : Type}

namespace ControlBlock

/-- The right edge of the receive window. -/
def rightEdge (cb : ControlBlock κ ρ) : SeqNumber := cb.receiver.receiveNext.advanced cb.window

/-- No stored entry that begins in the window, or right at its edge, reaches
across the edge, and no FIN is remembered there. -/
def EdgeClear (cb : ControlBlock κ ρ) : Prop :=
  (∀ entry ∈ cb.outOfOrder, cb.receiver.receiveNext.ahead entry.1 ≤ cb.window →
    cb.receiver.receiveNext.ahead entry.1 + entry.2.length ≤ cb.window) ∧
  cb.outOfOrderFin ≠ some cb.rightEdge

/-- If the segment brings in-order text with its FIN in the window, no stored run
that continues the text ends at the right edge. -/
def FinClear (cb : ControlBlock κ ρ) (header : TcpHeader) (data : Buffer) : Prop :=
  let text := cb.textInWindow header data
  cb.ReachesText header data → cb.state.receivesData = true → text.offset = 0 → text.bytes ≠ [] →
    text.fin = true → ∀ front rest, cb.outOfOrder = front ++ rest →
      Laid (cb.receiver.receiveNext.advanced text.bytes.length) front →
        text.bytes.length + storedLength front ≠ cb.window

/-- A stored run stays in the window if each of its entries does. -/
theorem laid_within {cb : ControlBlock κ ρ} (small : cb.window < 2 ^ 31)
    {front : List (SeqNumber × Buffer)} (clear : ∀ entry ∈ front,
      cb.receiver.receiveNext.ahead entry.1 ≤ cb.window →
        cb.receiver.receiveNext.ahead entry.1 + entry.2.length ≤ cb.window)
    {here : Nat} (within : here ≤ cb.window)
    (laid : Laid (cb.receiver.receiveNext.advanced here) front) :
    here + storedLength front ≤ cb.window := by
  induction front generalizing here with
  | nil => simpa using within
  | cons entry front inductionHypothesis =>
    obtain ⟨starts, laid⟩ := laid
    have place : cb.receiver.receiveNext.ahead entry.1 = here := by
      rw [starts, SeqNumber.ahead_advanced_of_lt _ (by omega)]
    have reach := clear entry (List.mem_cons_self ..) (by omega)
    rw [SeqNumber.advanced_advanced] at laid
    have := inductionHypothesis (fun later member => clear later (List.mem_cons_of_mem _ member))
      (show here + entry.2.length ≤ cb.window by omega) laid
    rw [storedLength_cons]
    omega

/-- With a clear edge, in-order text and what it is joined with fit the window. -/
theorem joinFits_of_clear {cb : ControlBlock κ ρ} (settled : cb.Settled) {header : TcpHeader}
    {data : Buffer} (edge : cb.EdgeClear) (fin : cb.FinClear header data)
    (reaches : cb.ReachesText header data) (receives : cb.state.receivesData = true)
    (inOrder : (cb.textInWindow header data).offset = 0)
    (some : (cb.textInWindow header data).bytes ≠ []) :
    cb.JoinFits (cb.textInWindow header data) := by
  have small := settled.window_lt
  have fits := cb.text_fits header data some
  rintro front rest taken ⟨split, laid, -, why⟩
  have members (entry : SeqNumber × Buffer) (member : entry ∈ front) : entry ∈ cb.outOfOrder := by
    rw [show cb.outOfOrder = front ++ rest from split]
    simp [member]
  have within := laid_within small (fun entry member => edge.1 entry (members entry member))
    (show (cb.textInWindow header data).bytes.length ≤ cb.window by omega) laid
  cases taken with
  | false => simpa using within
  | true =>
    have strict : (cb.textInWindow header data).bytes.length + storedLength front ≠ cb.window := by
      rw [eq_comm, Bool.or_eq_true] at why
      rcases why with own | remembered
      · exact fin reaches receives inOrder some own front rest split laid
      · intro atEdge
        rw [atEdge, Bool.and_eq_true, beq_iff_eq] at remembered
        exact edge.2 remembered.2
    rw [Bool.toNat_true]
    omega

end ControlBlock

/-- Bytes at a position counted from `base`, reaching no further than `edge`. -/
def PlacedBelow (base : SeqNumber) (edge : Nat) (start : SeqNumber) (bytes : Buffer) : Prop :=
  ∃ place, start = base.advanced place ∧ place + bytes.length ≤ edge

/-- What is cut off the front of a stored segment leaves it below the edge. -/
theorem placedBelow_hereditary (base : SeqNumber) (edge : Nat) : Hereditary (PlacedBelow base edge) := by
  constructor
  · rintro start bytes count within ⟨place, rfl, reach⟩
    refine ⟨place + count, SeqNumber.advanced_advanced _ _ _, ?_⟩
    rw [List.length_drop]
    omega
  · rintro start bytes count - ⟨place, rfl, reach⟩
    refine ⟨place, rfl, ?_⟩
    rw [List.length_take]
    omega

/-- `received` numbers have been received and `popped` of them read; the rest
fits the receive buffer, and everything stored ends inside it. -/
structure Accounted (base : SeqNumber) (received popped : Nat) (cb : ControlBlock κ ρ) : Prop where
  granted : cb.Granted
  receiveNext : cb.receiver.receiveNext = base.advanced received
  readerNext : cb.receiver.readerNext = base.advanced popped
  queue : popped + cb.receiver.recvQueue.flatten.length ≤ received
  room : received ≤ popped + cb.receiveBufferSize.toNat
  stored : AllParts (PlacedBelow base (popped + cb.receiveBufferSize.toNat)) cb.outOfOrder
  fin : ∀ number, cb.outOfOrderFin = some number →
    ∃ place, number = base.advanced place ∧ place < popped + cb.receiveBufferSize.toNat

namespace Accounted

variable {base : SeqNumber} {received popped : Nat} {cb cb' : ControlBlock κ ρ}

/-- What is unread is what was received and not read. -/
theorem unread_eq (accounted : Accounted base received popped cb) : cb.unread = received - popped := by
  have queue := accounted.queue
  have room := accounted.room
  have small := accounted.granted.size_lt
  rw [ControlBlock.unread, accounted.receiveNext, accounted.readerNext,
    show received = popped + (received - popped) by omega, ← SeqNumber.advanced_advanced,
    SeqNumber.ahead_advanced_of_lt _ (by omega)]
  omega

/-- What is unread fits in the buffer. -/
theorem fits (accounted : Accounted base received popped cb) :
    cb.unread ≤ cb.receiveBufferSize.toNat := by
  have room := accounted.room
  rw [accounted.unread_eq]
  omega

/-- A connection whose window is accounted for is settled. -/
theorem settled (accounted : Accounted base received popped cb) : cb.Settled :=
  accounted.granted.settled accounted.fits

/-- What was received and the window reach as far as what was read and the buffer: the right
edge moves only with what is read. -/
theorem window_edge (accounted : Accounted base received popped cb) :
    received + cb.window = popped + cb.receiveBufferSize.toNat := by
  have queue := accounted.queue
  have room := accounted.room
  rw [ControlBlock.window, accounted.unread_eq]
  omega

/-- The right edge lies one buffer past what has been read. -/
theorem rightEdge_eq (accounted : Accounted base received popped cb) :
    cb.rightEdge = base.advanced (popped + cb.receiveBufferSize.toNat) := by
  rw [ControlBlock.rightEdge, accounted.receiveNext, SeqNumber.advanced_advanced,
    accounted.window_edge]

/-- Within the first turn of the sequence space the edge is always clear. -/
theorem edgeClear (accounted : Accounted base received popped cb)
    (turn : received + cb.receiveBufferSize.toNat < 2 ^ 32) : cb.EdgeClear := by
  have edge := accounted.window_edge
  have window : cb.window ≤ cb.receiveBufferSize.toNat := Nat.sub_le _ _
  -- A position at most at the edge is not ahead of `receive_next` by way of a turn.
  have ahead {place : Nat} (below : place ≤ received + cb.window)
      (near : (base.advanced received).ahead (base.advanced place) ≤ cb.window) :
      (base.advanced received).ahead (base.advanced place) + received = place := by
    have placed := SeqNumber.ahead_advanced_of_lt base (show place < 2 ^ 32 by omega)
    have here := SeqNumber.ahead_advanced_of_lt base (show received < 2 ^ 32 by omega)
    rcases Nat.lt_or_ge place received with behind | after
    · have around := SeqNumber.ahead_around base
        (show base.ahead (base.advanced place) < base.ahead (base.advanced received) by omega)
      omega
    · have between := SeqNumber.ahead_between base
        (show base.ahead (base.advanced received) ≤ base.ahead (base.advanced place) by omega)
      omega
  constructor
  · intro entry member near
    obtain ⟨-, -, place, begins, reach⟩ := accounted.stored entry member
    rw [accounted.receiveNext, begins] at near ⊢
    have := ahead (by omega) near
    omega
  · intro remembered
    obtain ⟨place, number, below⟩ := accounted.fin _ remembered
    rw [accounted.rightEdge_eq] at number
    have same := congrArg base.ahead number
    rw [SeqNumber.ahead_advanced_of_lt _ (by omega), SeqNumber.ahead_advanced_of_lt _ (by omega)] at same
    omega

/-- Only the reception matters. -/
theorem of_eq (accounted : Accounted base received popped cb) (same : cb'.reception = cb.reception) :
    Accounted base received popped cb' := by
  obtain ⟨granted, receiveNext, readerNext, queue, room, stored, fin⟩ := accounted
  have size := ControlBlock.receiveBufferSize_eq same
  rw [← ControlBlock.receiver_eq same] at receiveNext readerNext queue
  rw [← size] at room stored fin
  rw [← ControlBlock.outOfOrder_eq same] at stored
  rw [← ControlBlock.outOfOrderFin_eq same] at fin
  exact ⟨granted.of_eq size (ControlBlock.windowScale_eq same), receiveNext, readerNext, queue, room,
    stored, fin⟩

/-- Reading moves the right edge by what was read. -/
theorem pollRecv (accounted : Accounted base received popped cb) (waker : Waker) :
    Accounted base received (popped + (((cb.pollRecv waker).2).getD []).length)
      (cb.pollRecv waker).1 := by
  obtain ⟨granted, receiveNext, readerNext, queue, room, stored, fin⟩ := accounted
  cases front : cb.receiver.recvQueue with
  | nil =>
    simp only [ControlBlock.pollRecv, Receiver.pop, front, Option.getD_none, List.length_nil,
      Nat.add_zero]
    exact ⟨granted.of_eq rfl rfl, receiveNext, readerNext, queue, room, stored, fin⟩
  | cons buf rest =>
    rw [front, List.flatten_cons, List.length_append] at queue
    have wider : popped + cb.receiveBufferSize.toNat ≤
        popped + buf.length + cb.receiveBufferSize.toNat := by omega
    simp only [ControlBlock.pollRecv, Receiver.pop, front, Option.getD_some]
    refine ⟨granted.of_eq rfl rfl, receiveNext, ?_, ?_, Nat.le_trans room wider, ?_, ?_⟩
    · rw [SeqNumber.advanced_asU32, readerNext, SeqNumber.advanced_advanced]
    · dsimp only
      omega
    · intro entry member
      obtain ⟨occupied, bound, place, begins, reach⟩ := stored entry member
      exact ⟨occupied, bound, place, begins, Nat.le_trans reach wider⟩
    · intro number remembered
      obtain ⟨place, begins, below⟩ := fin number remembered
      exact ⟨place, begins, Nat.lt_of_lt_of_le below wider⟩

/-- Received numbers that fit the window. -/
theorem advance (accounted : Accounted base received popped cb) {count : Nat}
    (fits : count ≤ cb.window)
    (next : cb'.receiver.receiveNext = cb.receiver.receiveNext.advanced count)
    (reader : cb'.receiver.readerNext = cb.receiver.readerNext)
    (queue : cb'.receiver.recvQueue.flatten.length ≤ cb.receiver.recvQueue.flatten.length + count)
    (size : cb'.receiveBufferSize = cb.receiveBufferSize)
    (scale : cb'.windowScale = cb.windowScale)
    (fewer : ∀ entry ∈ cb'.outOfOrder, entry ∈ cb.outOfOrder)
    (fin : cb'.outOfOrderFin = cb.outOfOrderFin) :
    Accounted base (received + count) popped cb' := by
  have edge := accounted.window_edge
  have held := accounted.queue
  refine ⟨accounted.granted.of_eq size scale, ?_, by rw [reader, accounted.readerNext], by omega,
    by rw [size]; omega, ?_, ?_⟩
  · rw [next, accounted.receiveNext, SeqNumber.advanced_advanced]
  · rw [size]
    exact fun entry member => accounted.stored entry (fewer entry member)
  · rw [size, fin]
    exact accounted.fin

/-- Text stored for later lies below the right edge. -/
theorem store_text (accounted : Accounted base received popped cb) {profile : Profile} {text : Text}
    (fits : text.bytes ≠ [] → text.offset + text.bytes.length ≤ cb.window)
    (finRoom : text.fin = true → text.offset + text.bytes.length < cb.window)
    {store : List (SeqNumber × Buffer)} (inserts : cb.reception.storeText profile text = .ok store)
    (reception : cb'.reception = { cb.reception with
      outOfOrder := store
      outOfOrderFin := cb.reception.rememberFin text }) :
    Accounted base received popped cb' := by
  have edge := accounted.window_edge
  have small := accounted.settled.window_lt
  have receiver : cb'.receiver = cb.receiver := congrArg Reception.receiver reception
  have size : cb'.receiveBufferSize = cb.receiveBufferSize :=
    congrArg Reception.receiveBufferSize reception
  have bounded : text.bytes.length ≤ 2 ^ 31 := by
    by_cases none : text.bytes = []
    · simp [none]
    · have := fits none
      omega
  obtain ⟨store', inserts', parts⟩ := storeText_parts profile
    (placedBelow_hereditary base (popped + cb.receiveBufferSize.toNat)) cb.reception text
    accounted.stored bounded (fun some => ⟨received + text.offset,
      by rw [← SeqNumber.advanced_advanced, ← accounted.receiveNext]; rfl,
      by have := fits some; omega⟩)
  cases Except.ok.inj (inserts'.symm.trans inserts)
  refine ⟨accounted.granted.of_eq size (congrArg Reception.windowScale reception),
    by rw [receiver, accounted.receiveNext], by rw [receiver, accounted.readerNext],
    by rw [receiver]; exact accounted.queue, by rw [size]; exact accounted.room, ?_, ?_⟩
  · rw [size, show cb'.outOfOrder = store from congrArg Reception.outOfOrder reception]
    exact parts
  · rw [size, show cb'.outOfOrderFin = cb.reception.rememberFin text from
      congrArg Reception.outOfOrderFin reception]
    intro number remembered
    unfold Reception.rememberFin at remembered
    split at remembered
    · rename_i fin
      have := finRoom fin
      refine ⟨received + (text.offset + text.bytes.length), ?_, by omega⟩
      rw [← Option.some.inj remembered, ← SeqNumber.advanced_advanced base, ← accounted.receiveNext]
      rfl
    · exact accounted.fin number remembered

/-- The stored bytes are as many as the lengths of the stored segments add up to. -/
theorem flatten_stored (front : List (SeqNumber × Buffer)) :
    (front.map Prod.snd).flatten.length = storedLength front := by
  induction front with
  | nil => rfl
  | cons entry front inductionHypothesis => simp [inductionHypothesis]

/-- Text that fits the window when joined keeps the account. -/
theorem text (accounted : Accounted base received popped cb) {profile : Profile} {text : Text}
    {state : State} (fits : text.bytes ≠ [] → text.offset + text.bytes.length ≤ cb.window)
    (finRoom : text.fin = true → text.offset + text.bytes.length < cb.window)
    (joinFits : ∀ front rest fin, text.offset = 0 → text.bytes ≠ [] → state.receivesData = true →
      cb.reception.Joins text front rest fin →
      cb'.reception = cb.reception.joined text.bytes front rest fin →
      ControlBlock.FinTaken profile state fin cb' →
        text.bytes.length + storedLength front + fin.toNat ≤ cb.window)
    (outcome : cb.TextOutcome profile text state cb') :
    ∃ count ≤ cb.window, cb'.receiver.receiveNext = cb.receiver.receiveNext.advanced count ∧
      Accounted base (received + count) popped cb' := by
  cases outcome with
  | ignored _ _ reception _ =>
    refine ⟨0, Nat.zero_le _, ?_, accounted.of_eq reception⟩
    rw [ControlBlock.receiver_eq reception, SeqNumber.advanced_zero]
  | stored _ _ _ inserts reception _ =>
    refine ⟨0, Nat.zero_le _, ?_, accounted.store_text fits finRoom inserts reception⟩
    rw [show cb'.receiver = cb.receiver from congrArg Reception.receiver reception,
      SeqNumber.advanced_zero]
  | @joined front rest fin inOrder some receives joins reception taken =>
    have room := joinFits front rest fin inOrder some receives joins reception taken
    have next := congrArg (fun after => after.receiver.receiveNext) reception
    refine ⟨_, room, next, accounted.advance room next
      (congrArg (fun after => after.receiver.readerNext) reception) ?_
      (congrArg Reception.receiveBufferSize reception) (congrArg Reception.windowScale reception) ?_
      (congrArg Reception.outOfOrderFin reception)⟩
    · rw [show cb'.receiver.recvQueue = cb.receiver.recvQueue ++ text.bytes :: front.map Prod.snd from
        congrArg (fun after => after.receiver.recvQueue) reception]
      simp only [List.flatten_append, List.flatten_cons, List.length_append, flatten_stored]
      omega
    · intro entry member
      rw [show cb.outOfOrder = front ++ rest from joins.store]
      rw [show cb'.outOfOrder = rest from congrArg Reception.outOfOrder reception] at member
      exact List.mem_append_right _ member
  | finished inOrder none fin reception _ =>
    have room := finRoom fin
    have next := congrArg (fun after => after.receiver.receiveNext) reception
    have queue : cb'.receiver.recvQueue = cb.receiver.recvQueue :=
      congrArg (fun after => after.receiver.recvQueue) reception
    have store : cb'.outOfOrder = cb.outOfOrder := congrArg Reception.outOfOrder reception
    exact ⟨1, by omega, next, accounted.advance (by omega) next
      (congrArg (fun after => after.receiver.readerNext) reception) (by rw [queue]; omega)
      (congrArg Reception.receiveBufferSize reception) (congrArg Reception.windowScale reception)
      (by rw [store]; exact fun _ member => member) (congrArg Reception.outOfOrderFin reception)⟩

end Accounted

/-- The numbers received so far, counted without wrapping. -/
def Connection.received (past : List (Connection.Transition κ ρ)) : Nat :=
  Runs.advance (fun c : Connection κ ρ => c.cb.receiver.receiveNext.value) past

/-- Arriving segments are shorter than half the sequence space, and no FIN is
counted at the right edge. -/
def FinCounted (c : Connection κ ρ) : Action → Prop
  | .receive _ header data =>
    sequenceLength header data ≤ 2 ^ 31 ∧ c.cb.FinClear header data
  | _ => True

/-- A segment whose FIN is counted is not longer than half a turn. -/
theorem FinCounted.short {c : Connection κ ρ} {action : Action} (counted : FinCounted c action)
    (env : Env) (header : TcpHeader) (data : Buffer) (arrives : action = .receive env header data) :
    sequenceLength header data ≤ 2 ^ 31 := by
  subst arrives
  exact counted.1

/-- The right edge is clear when a segment arrives. -/
def EdgeCounted (c : Connection κ ρ) : Action → Prop
  | .receive _ _ _ => c.cb.EdgeClear
  | _ => True

variable [CongestionControl κ] [RtoCalculator ρ]

/-- Every action keeps the account. -/
theorem Accounted.step {profile : Profile} {base : SeqNumber} {received popped : Nat}
    {source target : Connection κ ρ} {action : Action}
    (accounted : Accounted base received popped source.cb) (fin : FinCounted source action)
    (edge : EdgeCounted source action) (advanced : source.step profile action = .ok target) :
    Accounted base
      (received + source.cb.receiver.receiveNext.ahead target.cb.receiver.receiveNext)
      (popped + (Connection.popped ⟨source, action, target⟩).length) target.cb := by
  have small := accounted.settled.window_lt
  by_cases sends : action.sends = true
  · have undisturbed := Connection.step_undisturbed sends advanced
    have nothing : Connection.popped ⟨source, action, target⟩ = [] := by
      cases action <;> first | rfl | cases sends
    have same := ControlBlock.receiver_eq undisturbed.reception
    rw [nothing, same, SeqNumber.ahead_self]
    exact accounted.of_eq undisturbed.reception
  cases action with
  | receive env header data =>
    obtain ⟨short, fin⟩ := fin
    obtain ⟨cb, received', advanced⟩ := bind_ok.mp advanced
    cases advanced
    have outcome := (ControlBlock.receive_cases accounted.settled short received').text
    simp only [Connection.popped, List.length_nil, Nat.add_zero]
    split at outcome
    · rename_i reaches
      obtain ⟨count, within, next, after⟩ := accounted.text (source.cb.text_fits header data)
        (source.cb.text_fin_room header data) (fun front rest taken inOrder some receives joins _ _ =>
          ControlBlock.joinFits_of_clear accounted.settled edge fin reaches
            (by rwa [ControlBlock.stateAfterAck_receivesData] at receives) inOrder some front rest
            taken joins) outcome
      rw [next, SeqNumber.ahead_advanced_of_lt _ (by omega)]
      exact after
    · rw [ControlBlock.receiver_eq outcome.1, SeqNumber.ahead_self]
      exact accounted.of_eq outcome.1
  | pollRecv waker =>
    cases advanced
    have same : (source.cb.pollRecv waker).1.receiver.receiveNext =
        source.cb.receiver.receiveNext := by
      unfold ControlBlock.pollRecv Receiver.pop
      cases source.cb.receiver.recvQueue <;> rfl
    rw [same, SeqNumber.ahead_self]
    exact accounted.pollRecv waker
  | send | close | senderRound | retransmitterRound | acknowledgerRound => exact absurd rfl sends

/-- The receive buffer keeps its size. -/
theorem Connection.step_size {profile : Profile} {source target : Connection κ ρ} {action : Action}
    (settled : source.cb.Settled)
    (short : ∀ env header data, action = .receive env header data →
      sequenceLength header data ≤ 2 ^ 31)
    (advanced : source.step profile action = .ok target) :
    target.cb.receiveBufferSize = source.cb.receiveBufferSize := by
  by_cases sends : action.sends = true
  · exact ControlBlock.receiveBufferSize_eq (Connection.step_undisturbed sends advanced).reception
  cases action with
  | receive env header data =>
    obtain ⟨cb, received, advanced⟩ := bind_ok.mp advanced
    cases advanced
    have outcome := (ControlBlock.receive_cases settled (short env header data rfl) received).text
    split at outcome
    · cases outcome with
      | ignored _ _ reception _ => exact congrArg Reception.receiveBufferSize reception
      | stored _ _ _ _ reception _ => exact congrArg Reception.receiveBufferSize reception
      | joined _ _ _ _ reception _ => exact congrArg Reception.receiveBufferSize reception
      | finished _ _ _ reception _ => exact congrArg Reception.receiveBufferSize reception
    · exact ControlBlock.receiveBufferSize_eq outcome.1
  | pollRecv waker =>
    cases advanced
    simp only [ControlBlock.pollRecv]
    split <;> rfl
  | send | close | senderRound | retransmitterRound | acknowledgerRound => exact absurd rfl sends

omit [CongestionControl κ] [RtoCalculator ρ] in
/-- No more is read at once than the receive buffer holds. -/
theorem Accounted.popped_le {base : SeqNumber} {received popped : Nat} {c target : Connection κ ρ}
    (accounted : Accounted base received popped c.cb) (action : Action) :
    (Connection.popped ⟨c, action, target⟩).length ≤ c.cb.receiveBufferSize.toNat := by
  have held := accounted.queue
  have room := accounted.room
  cases action with
  | pollRecv waker =>
    simp only [Connection.popped, ControlBlock.pollRecv, Receiver.pop]
    cases queue : c.cb.receiver.recvQueue with
    | nil => simp
    | cons buf rest =>
      rw [queue, List.flatten_cons, List.length_append] at held
      simp only [Option.getD_some]
      omega
  | receive | send | close | senderRound | retransmitterRound | acknowledgerRound =>
    simp [Connection.popped]

/-- The right edge moves forward by exactly what was read, at most one buffer. -/
theorem Accounted.step_edge {profile : Profile} {base : SeqNumber} {received popped : Nat}
    {source target : Connection κ ρ} {action : Action}
    (accounted : Accounted base received popped source.cb) (fin : FinCounted source action)
    (edge : EdgeCounted source action) (advanced : source.step profile action = .ok target) :
    target.cb.rightEdge = source.cb.rightEdge.advanced
      (Connection.popped ⟨source, action, target⟩).length ∧
    (Connection.popped ⟨source, action, target⟩).length ≤ source.cb.receiveBufferSize.toNat := by
  refine ⟨?_, accounted.popped_le action⟩
  rw [(accounted.step fin edge advanced).rightEdge_eq, accounted.rightEdge_eq,
    Connection.step_size accounted.settled fin.short advanced, SeqNumber.advanced_advanced]
  congr 1
  omega

/-- What a fault of the window accounting looks like. -/
def Fault.ofWindow : Fault → Bool
  | .windowSizeOverflow | .receiveWindowUnderflow => true
  | _ => false

/-- Removing acknowledged data has nothing to do with the receive window. -/
theorem Sender.removeAcknowledged_windowless {profile : Profile} {now : Instant}
    {queue : List UnackedSegment} {bytesRemaining : Nat} {rto : ρ} {fault : Fault}
    (fails : Sender.removeAcknowledged profile now queue bytesRemaining rto = .error fault) :
    fault.ofWindow = false := by
  induction queue generalizing bytesRemaining rto with
  | nil =>
    simp only [Sender.removeAcknowledged] at fails
    split at fails
    · cases fails
    split at fails <;> cases fails <;> rfl
  | cons segment queue inductionHypothesis =>
    simp only [Sender.removeAcknowledged] at fails
    split at fails
    · cases fails
    split at fails
    · obtain adjusts | ⟨_, -, rest⟩ := bind_error.mp fails
      · unfold Buffer.adjust at adjusts
        split at adjusts <;> cases adjusts
        rfl
      · cases rest
    split at fails
    · obtain asserts | ⟨_, -, rest⟩ := bind_error.mp fails
      · unfold debugAssert at asserts
        split at asserts <;> cases asserts
        rfl
      · cases rest
    · exact inductionHypothesis fails

/-- The ACK section has nothing to do with the receive window. -/
theorem ControlBlock.processAck_windowless {profile : Profile} {env : Env} {cb : ControlBlock κ ρ}
    {header : TcpHeader} {fault : Fault} (fails : cb.processAck profile env header = .error fault) :
    fault.ofWindow = false := by
  unfold ControlBlock.processAck at fails
  dsimp only at fails
  split at fails
  · split at fails
    · obtain removes | ⟨_, -, fails⟩ := bind_error.mp fails
      · exact Sender.removeAcknowledged_windowless removes
      obtain updates | ⟨_, -, fails⟩ := bind_error.mp fails
      · unfold Sender.updateSendWindow shlU32 at updates
        split at updates
        · obtain shifts | ⟨_, -, rest⟩ := bind_error.mp updates
          · split at shifts
            · cases shifts
            · split at shifts <;> cases shifts
              rfl
          · cases rest
        · cases updates
      · split at fails <;> cases fails
    · cases fails
  · cases fails

/-- With joined text that fits, receiving fails for other reasons than the window. -/
theorem Accounted.receive_windowless {profile : Profile} {base : SeqNumber} {received popped : Nat}
    {cb : ControlBlock κ ρ} (accounted : Accounted base received popped cb) {env : Env}
    {header : TcpHeader} {data : Buffer} {fault : Fault}
    (short : sequenceLength header data ≤ 2 ^ 31) (fin : cb.FinClear header data)
    (edge : cb.EdgeClear) (fails : cb.receive profile env header data = .error fault) :
    fault.ofWindow = false := by
  have stored : AllParts (fun _ _ => True) cb.outOfOrder := fun entry member =>
    ⟨(accounted.stored entry member).1, (accounted.stored entry member).2.1, trivial⟩
  obtain ⟨-, rfl | rfl⟩ | ⟨-, processed⟩ | ⟨-, rfl, -⟩ := ControlBlock.receive_fault accounted.granted
    accounted.settled short stored (fun reaches inOrder some receives =>
      ControlBlock.joinFits_of_clear accounted.settled edge fin reaches receives inOrder some) fails
  · rfl
  · rfl
  · exact ControlBlock.processAck_windowless processed
  · rfl

/-- A connection made by a handshake starts with nothing received. -/
theorem Accounted.new (args : NewConnection) (scale : args.receiverWindowScale.toNat ≤ 14)
    (size : ∃ window < 2 ^ 16,
      args.receiverWindowSize.toNat = window <<< args.receiverWindowScale.toNat) :
    Accounted args.receiverSeqNo 0 0 (ControlBlock.new args : ControlBlock κ ρ) := by
  refine ⟨⟨scale, size⟩, ?_, ?_, ?_, Nat.zero_le _, ?_, ?_⟩
  · simp [ControlBlock.new, Receiver.new]
  · simp [ControlBlock.new, Receiver.new]
  · simp [ControlBlock.new, Receiver.new]
  · simp [ControlBlock.new, AllParts]
  · simp [ControlBlock.new]

omit [CongestionControl κ] [RtoCalculator ρ] in
/-- What keeps the edge clear up to a step keeps it clear before that step. -/
theorem Connection.edge_before {size : Nat} {past : List (Transition κ ρ)}
    {transition : Transition κ ρ}
    (edge : received (transition :: past) + size < 2 ^ 32 ∨
      Runs.Meets EdgeCounted (transition :: past)) :
    received past + size < 2 ^ 32 ∨ Runs.Meets EdgeCounted past := by
  refine edge.imp (fun turn => ?_) (fun clear => ((Runs.meets_cons _ _ _).mp clear).2)
  simp only [received, Runs.advance] at turn ⊢
  omega

omit [CongestionControl κ] [RtoCalculator ρ] in
/-- What keeps the edge clear up to a step keeps it clear at that step. -/
theorem Accounted.edgeCounted {base : SeqNumber} {popped : Nat}
    {past : List (Connection.Transition κ ρ)} {source target : Connection κ ρ} {action : Action}
    (accounted : Accounted base (Connection.received past) popped source.cb)
    (edge : Connection.received (⟨source, action, target⟩ :: past) +
      source.cb.receiveBufferSize.toNat < 2 ^ 32 ∨
      Runs.Meets EdgeCounted (⟨source, action, target⟩ :: past)) : EdgeCounted source action := by
  rcases edge with turn | clear
  · have first : Connection.received past + source.cb.receiveBufferSize.toNat < 2 ^ 32 := by
      simp only [Connection.received, Runs.advance] at turn ⊢
      omega
    cases action <;> first | exact accounted.edgeClear first | trivial
  · exact ((Runs.meets_cons _ _ _).mp clear).1

/-- Along a run in which no FIN is counted at the right edge, and the edge is kept
clear after the first turn, the account is kept. -/
theorem Connection.accounted {profile : Profile} {args : NewConnection}
    (scale : args.receiverWindowScale.toNat ≤ 14)
    (size : ∃ window < 2 ^ 16,
      args.receiverWindowSize.toNat = window <<< args.receiverWindowScale.toNat)
    {past : List (Transition κ ρ)} {state : Connection κ ρ}
    (run : Run profile (Connection.new args) past state) (fin : Runs.Meets FinCounted past)
    (edge : received past + args.receiverWindowSize.toNat < 2 ^ 32 ∨ Runs.Meets EdgeCounted past) :
    state.cb.receiveBufferSize = args.receiverWindowSize ∧
    Accounted args.receiverSeqNo (received past) (allPopped past).length state.cb ∧
    ∀ transition ∈ past, transition.target.cb.rightEdge =
      transition.source.cb.rightEdge.advanced (popped transition).length ∧
      (popped transition).length ≤ args.receiverWindowSize.toNat := by
  refine Runs.run_invariant (fun past (state : Connection κ ρ) =>
    (received past + args.receiverWindowSize.toNat < 2 ^ 32 ∨ Runs.Meets EdgeCounted past) →
      state.cb.receiveBufferSize = args.receiverWindowSize ∧
      Accounted args.receiverSeqNo (received past) (allPopped past).length state.cb ∧
      ∀ transition ∈ past, transition.target.cb.rightEdge =
        transition.source.cb.rightEdge.advanced (popped transition).length ∧
        (popped transition).length ≤ args.receiverWindowSize.toNat) ?_ ?_ run fin edge
  · exact fun _ => ⟨rfl, .new args scale size, by simp⟩
  intro past source action target _ fin earlier advanced edge
  obtain ⟨same, accounted, edges⟩ := earlier (edge_before edge)
  have clear : EdgeCounted source action := accounted.edgeCounted (by rw [same]; exact edge)
  refine ⟨(step_size accounted.settled fin.short advanced).trans same, ?_, ?_⟩
  · rw [allPopped, List.length_append]
    exact accounted.step fin clear advanced
  · intro transition member
    obtain rfl | member := List.mem_cons.mp member
    · rw [← same]
      exact accounted.step_edge fin clear advanced
    · exact edges transition member

/-- Receive-window accounting. Along every run of a connection made by a
handshake in which no FIN is counted at the right edge, the unread numbers fit
the receive buffer, the window and its header field can be computed, the right
edge moves only by what is read, and no further segment fails on the window. The
edge has to be kept clear of leftovers only after a whole turn of the sequence
space.

Proof: `Accounted` is kept by every step in which no FIN is counted at the right edge,
and says that the unread numbers fit the buffer. The window is the difference, its
header field loses only the bits below the scale, and a fault of the window would be a
subtraction that `Accounted` bounds. -/
theorem Connection.window_accounted (profile : Profile) (args : NewConnection)
    (scale : args.receiverWindowScale.toNat ≤ 14)
    (size : ∃ window < 2 ^ 16,
      args.receiverWindowSize.toNat = window <<< args.receiverWindowScale.toNat)
    {past : List (Transition κ ρ)} {state : Connection κ ρ}
    (run : Run profile (Connection.new args) past state) (fin : Runs.Meets FinCounted past)
    (edge : received past + args.receiverWindowSize.toNat < 2 ^ 32 ∨ Runs.Meets EdgeCounted past) :
    state.cb.unread ≤ args.receiverWindowSize.toNat ∧
    state.cb.getReceiveWindowSize profile = .ok (args.receiverWindowSize.toNat - state.cb.unread) ∧
    (∃ field, state.cb.hdrWindowSize profile = .ok field) ∧
    (∀ transition ∈ past, transition.target.cb.rightEdge =
      transition.source.cb.rightEdge.advanced (popped transition).length ∧
      (popped transition).length ≤ args.receiverWindowSize.toNat) ∧
    (∀ env header data fault, FinCounted state (.receive env header data) →
      (received past + args.receiverWindowSize.toNat < 2 ^ 32 ∨ state.cb.EdgeClear) →
      state.cb.receive profile env header data = .error fault → fault.ofWindow = false) := by
  obtain ⟨same, accounted, edges⟩ := accounted scale size run fin edge
  refine ⟨?_, ?_, accounted.granted.hdrWindowSize accounted.fits profile, edges, ?_⟩
  · rw [← same]
    exact accounted.fits
  · rw [← same]
    exact ControlBlock.getReceiveWindowSize_settled profile accounted.settled
  · intro env header data fault fin clear fails
    refine accounted.receive_windowless fin.1 fin.2 ?_ fails
    rcases clear with turn | clear
    · exact accounted.edgeClear (by rw [same]; exact turn)
    · exact clear

/-- Two segments and a read, all inside the window. -/
theorem Connection.window_accounted_reading :
    ∃ past state, Run .dev (Connection.sample 3 1000 536) past state ∧
      Runs.Meets FinCounted past ∧ received past = 3 ∧ state.cb.unread = 2 ∧
      state.cb.unread ≤ 3 ∧ ∃ field, state.cb.hdrWindowSize .dev = .ok field := by
  have executed : ∃ past state, execute .dev (Connection.sample 3 1000 536)
      [.segment 101 1000 [2, 3] false, .segment 100 1000 [1] false, .pollRecv 1] =
        .ok (past, state) ∧ Runs.Meets FinCounted past ∧ received past = 3 ∧
        state.cb.unread = 2 := by
    refine ⟨_, _, rfl, ?_, by decide, by decide⟩
    refine (Runs.meets_cons _ _ _).mpr ⟨trivial, (Runs.meets_cons _ _ _).mpr ⟨?_,
      (Runs.meets_cons _ _ _).mpr ⟨?_, Runs.meets_nil _⟩⟩⟩
    · exact ⟨by decide, fun _ _ _ _ fin => absurd fin (by decide)⟩
    · exact ⟨by decide, fun _ _ _ _ fin => absurd fin (by decide)⟩
  obtain ⟨past, state, executed, fin, total, left⟩ := executed
  have run := run_of_execute executed
  have accounted := window_accounted .dev (NewConnection.sample 3 1000 536) (by decide)
    ⟨3, by decide, rfl⟩ run fin (.inl (by rw [total]; decide))
  exact ⟨past, state, run, fin, total, left, accounted.1, accounted.2.2.1⟩

/-- Three bytes of buffer, two bytes stored up to the right edge, and then the
missing byte with a FIN: the FIN is counted past the edge, and the acknowledgement
cannot be built, in either profile. -/
theorem Connection.fin_past_edge_fails :
    (∃ past state, Run .release (Connection.sample 3 1000 536) past state ∧
      state.step .release (.segment 100 1000 [1] true) = .error .windowSizeOverflow) ∧
    (∃ past state, Run .dev (Connection.sample 3 1000 536) past state ∧
      state.step .dev (.segment 100 1000 [1] true) = .error .receiveWindowUnderflow) := by
  constructor
  · have executed : ∃ past state, execute .release (Connection.sample 3 1000 536)
        [.segment 101 1000 [2, 3] false] = .ok (past, state) ∧
        state.step .release (.segment 100 1000 [1] true) = .error .windowSizeOverflow :=
      ⟨_, _, rfl, rfl⟩
    obtain ⟨past, state, executed, fails⟩ := executed
    exact ⟨past, state, run_of_execute executed, fails⟩
  · have executed : ∃ past state, execute .dev (Connection.sample 3 1000 536)
        [.segment 101 1000 [2, 3] false] = .ok (past, state) ∧
        state.step .dev (.segment 100 1000 [1] true) = .error .receiveWindowUnderflow :=
      ⟨_, _, rfl, rfl⟩
    obtain ⟨past, state, executed, fails⟩ := executed
    exact ⟨past, state, run_of_execute executed, fails⟩

end Capybara
