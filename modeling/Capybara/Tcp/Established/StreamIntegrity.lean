import Capybara.Lib.Slices
import Capybara.Tcp.Established.OutOfOrderStore
import Capybara.Tcp.Established.Reception
import Capybara.Tcp.Established.Transmission

/-!
# Integrity of the received stream

A peer sends one byte stream, in segments of any size, in any order, with
duplicates and overlaps. Whatever the layout of the out-of-order store becomes,
every stored entry is a slice of that stream at its own place, and the received
data is the prefix of the stream up to `receive_next`.

Positions in the stream are natural numbers below half the sequence space, so
sequence numbers are compared without ambiguity although they may wrap.
-/

namespace Capybara

open OutOfOrder

variable {κ ρ : Type}

/-- No data is received after the FIN. -/
theorem stateAfterFin_receivesData {state after : State}
    (taken : ControlBlock.stateAfterFin state = some after) : after.receivesData = false := by
  cases state <;> cases taken <;> rfl

/-- A slice of the peer's stream at its place, reaching no further than `edge`. -/
def SlicedAt (stream : Buffer) (base : SeqNumber) (edge : Nat) (start : SeqNumber) (bytes : Buffer) :
    Prop :=
  ∃ offset, start = base.advanced offset ∧ Slices.At stream offset bytes ∧
    offset + bytes.length ≤ edge

/-- What is cut off the front of a slice of the stream leaves a slice of the stream. -/
theorem slicedAt_hereditary (stream : Buffer) (base : SeqNumber) (edge : Nat) :
    Hereditary (SlicedAt stream base edge) := by
  constructor
  · rintro start bytes count within ⟨offset, rfl, slice, reach⟩
    refine ⟨offset + count, SeqNumber.advanced_advanced _ _ _, slice.drop (Nat.le_of_lt within), ?_⟩
    rw [List.length_drop]
    omega
  · rintro start bytes count - ⟨offset, rfl, slice, reach⟩
    refine ⟨offset, rfl, slice.take count, ?_⟩
    rw [List.length_take]
    omega

/-- A segment of the peer's stream: no SYN or RST, and, unless it is a bare
acknowledgement, a slice of the stream at its sequence number, with the FIN only
at the end of the stream. -/
def StreamSegment (stream : Buffer) (base : SeqNumber) (header : TcpHeader) (data : Buffer) : Prop :=
  header.syn = false ∧ header.rst = false ∧
    ((data = [] ∧ header.fin = false) ∨
    ∃ offset, header.seqNum = base.advanced offset ∧ Slices.At stream offset data ∧
      (header.fin = true → offset + data.length = stream.length))

/-- Text of the stream, seen from the position `next` with a window ahead. -/
structure StreamText (stream : Buffer) (next window : Nat) (text : Text) : Prop where
  slice : text.bytes ≠ [] → Slices.At stream (next + text.offset) text.bytes
  fits : text.bytes ≠ [] → text.offset + text.bytes.length ≤ window
  atEnd : text.fin = true →
    next + text.offset + text.bytes.length = stream.length ∧ stream.length < next + window

/-- The actions of a run in which every arriving segment is of the stream. -/
def OfStream (stream : Buffer) (base : SeqNumber) (_ : Connection κ ρ) : Action → Prop
  | .receive _ header data => StreamSegment stream base header data
  | _ => True

/-- The received data is the prefix of the stream up to `next`, everything stored
is of the stream and inside the receive buffer, and the FIN is remembered only at
the end of the stream. -/
structure Streamed (stream : Buffer) (base : SeqNumber) (popped : Buffer) (cb : ControlBlock κ ρ)
    (next : Nat) : Prop where
  receiveNext : cb.receiver.receiveNext = base.advanced next
  readerNext : cb.receiver.readerNext = base.advanced popped.length
  received : popped ++ cb.receiver.recvQueue.flatten = stream.take next
  position : if cb.state.receivesData then next ≤ stream.length else next = stream.length + 1
  room : next ≤ popped.length + cb.receiveBufferSize.toNat
  small : cb.receiveBufferSize.toNat < 2 ^ 31
  stored : AllParts (SlicedAt stream base (popped.length + cb.receiveBufferSize.toNat)) cb.outOfOrder
  fin : ∀ number, cb.outOfOrderFin = some number → number = base.advanced stream.length ∧
    stream.length < popped.length + cb.receiveBufferSize.toNat

namespace Streamed

variable {stream popped : Buffer} {base : SeqNumber} {cb cb' : ControlBlock κ ρ} {next : Nat}

/-- No more is expected than the stream and its FIN. -/
theorem next_le (streamed : Streamed stream base popped cb next) : next ≤ stream.length + 1 := by
  have position := streamed.position
  split at position <;> omega

/-- What was read has been received. -/
theorem popped_le (streamed : Streamed stream base popped cb next) : popped.length ≤ next := by
  have lengths := congrArg List.length streamed.received
  rw [List.length_append, List.length_take] at lengths
  omega

/-- What is unread is what was received and not read. -/
theorem unread_eq (streamed : Streamed stream base popped cb next) (short : stream.length < 2 ^ 31) :
    cb.unread = next - popped.length := by
  have behind := streamed.popped_le
  have bound := streamed.next_le
  rw [ControlBlock.unread, streamed.receiveNext, streamed.readerNext,
    show next = popped.length + (next - popped.length) by omega, ← SeqNumber.advanced_advanced,
    SeqNumber.ahead_advanced_of_lt _ (by omega)]
  omega

/-- A connection that has received a prefix of the stream is settled. -/
theorem settled (streamed : Streamed stream base popped cb next) (short : stream.length < 2 ^ 31) :
    cb.Settled := by
  have room := streamed.room
  refine ⟨?_, streamed.small⟩
  rw [streamed.unread_eq short]
  omega

/-- The window ends where the receive buffer does. -/
theorem window_edge (streamed : Streamed stream base popped cb next) (short : stream.length < 2 ^ 31) :
    next + cb.window = popped.length + cb.receiveBufferSize.toNat := by
  have room := streamed.room
  have behind := streamed.popped_le
  rw [ControlBlock.window, streamed.unread_eq short]
  omega

/-- The text of a stream segment in the window is text of the stream. -/
theorem streamText (streamed : Streamed stream base popped cb next) (short : stream.length < 2 ^ 31)
    {header : TcpHeader} {data : Buffer} (ofStream : StreamSegment stream base header data) :
    StreamText stream next cb.window (cb.textInWindow header data) := by
  have fits := cb.text_fits header data
  obtain ⟨plain, -, ⟨rfl, noFin⟩ | ⟨offset, number, slice, atEnd⟩⟩ := ofStream
  · exact ⟨by simp [ControlBlock.textInWindow], fits, by simp [ControlBlock.textInWindow, noFin]⟩
  have bound := streamed.next_le
  have inside := slice.inside
  have position : cb.textPosition header = (offset : Int) - next := by
    rw [ControlBlock.textPosition, streamed.receiveNext, number, plain,
      SeqNumber.position_advanced base (by omega) (by omega)]
    simp
  have skipped : (-((offset : Int) - next)).toNat = next - offset := by omega
  have reached : ((offset : Int) - next).toNat = offset - next := by omega
  refine ⟨?_, fits, ?_⟩
  all_goals
    simp only [ControlBlock.textInWindow, position]
    rw [skipped, reached]
  · intro some
    have within : next - offset ≤ data.length := by
      by_contra beyond
      rw [List.drop_eq_nil_of_le (by omega)] at some
      exact some List.take_nil
    rw [show next + (offset - next) = offset + (next - offset) by omega]
    exact (slice.drop within).take _
  · simp only [Bool.and_eq_true, decide_eq_true_eq]
    rintro ⟨⟨fin, started⟩, fits⟩
    have ends := atEnd fin
    simp only [List.length_take, List.length_drop]
    omega

/-- Stored entries laid from a position of the stream continue it. -/
theorem laid_slices {edge : Nat} {front : List (SeqNumber × Buffer)} {here : Nat}
    (short : stream.length < 2 ^ 31) (near : here ≤ stream.length)
    (laid : Laid (base.advanced here) front)
    (parts : ∀ entry ∈ front, SlicedAt stream base edge entry.1 entry.2) :
    stream.take here ++ (front.map Prod.snd).flatten = stream.take (here + storedLength front) ∧
      here + storedLength front ≤ stream.length ∧
      (front ≠ [] → here + storedLength front ≤ edge) := by
  induction front generalizing here with
  | nil => simpa using near
  | cons entry front inductionHypothesis =>
    obtain ⟨starts, laid⟩ := laid
    obtain ⟨offset, begins, slice, reach⟩ := parts entry (List.mem_cons_self ..)
    have inside := slice.inside
    have same : offset = here := by
      have both := congrArg base.ahead (begins.symm.trans starts)
      rwa [SeqNumber.ahead_advanced_of_lt _ (by omega),
        SeqNumber.ahead_advanced_of_lt _ (by omega)] at both
    subst same
    rw [SeqNumber.advanced_advanced] at laid
    obtain ⟨joined, bound, further⟩ := inductionHypothesis (by omega) laid
      (fun later member => parts later (List.mem_cons_of_mem _ member))
    refine ⟨?_, ?_, ?_⟩
    · rw [List.map_cons, List.flatten_cons, ← List.append_assoc, slice.append_take, joined,
        storedLength_cons, Nat.add_assoc]
    · rw [storedLength_cons]
      omega
    · intro _
      rw [storedLength_cons]
      cases front with
      | nil => simpa using reach
      | cons second rest =>
        have := further (by simp)
        omega

/-- Nothing changes for the stream while the receiving side stays the same. -/
theorem of_eq (streamed : Streamed stream base popped cb next) (same : cb'.reception = cb.reception)
    (state : cb'.state.receivesData = cb.state.receivesData) :
    Streamed stream base popped cb' next := by
  obtain ⟨receiveNext, readerNext, received, position, room, small, stored, fin⟩ := streamed
  rw [← ControlBlock.receiver_eq same] at receiveNext readerNext received
  rw [← ControlBlock.receiveBufferSize_eq same] at room small stored fin
  rw [← ControlBlock.outOfOrder_eq same] at stored
  rw [← ControlBlock.outOfOrderFin_eq same] at fin
  rw [← state] at position
  exact ⟨receiveNext, readerNext, received, position, room, small, stored, fin⟩

/-- Reading moves the front of the receive queue to the application. -/
theorem pollRecv (streamed : Streamed stream base popped cb next) (waker : Waker) :
    Streamed stream base (popped ++ ((cb.pollRecv waker).2).getD []) (cb.pollRecv waker).1 next := by
  obtain ⟨receiveNext, readerNext, received, position, room, small, stored, fin⟩ := streamed
  cases queue : cb.receiver.recvQueue with
  | nil =>
    simp only [ControlBlock.pollRecv, Receiver.pop, queue, Option.getD_none, List.append_nil]
    exact ⟨receiveNext, readerNext, received, position, room, small, stored, fin⟩
  | cons buf rest =>
    have wider : popped.length + cb.receiveBufferSize.toNat ≤
        (popped ++ buf).length + cb.receiveBufferSize.toNat := by
      rw [List.length_append]
      omega
    simp only [ControlBlock.pollRecv, Receiver.pop, queue, Option.getD_some]
    refine ⟨receiveNext, ?_, ?_, position, Nat.le_trans room wider, small, ?_, ?_⟩
    · rw [SeqNumber.advanced_asU32, readerNext, SeqNumber.advanced_advanced, List.length_append]
    · rw [← received, queue, List.flatten_cons, List.append_assoc]
    · intro entry member
      obtain ⟨occupied, bound, offset, begins, slice, reach⟩ := stored entry member
      exact ⟨occupied, bound, offset, begins, slice, Nat.le_trans reach wider⟩
    · intro number remembered
      obtain ⟨place, inside⟩ := fin number remembered
      exact ⟨place, Nat.lt_of_lt_of_le inside wider⟩

/-- Text stored for later. -/
theorem stored_text (streamed : Streamed stream base popped cb next) (short : stream.length < 2 ^ 31)
    {profile : Profile} {text : Text} (ofStream : StreamText stream next cb.window text)
    {store : List (SeqNumber × Buffer)} (inserts : cb.reception.storeText profile text = .ok store)
    (reception : cb'.reception = { cb.reception with
      outOfOrder := store
      outOfOrderFin := cb.reception.rememberFin text })
    (state : cb'.state.receivesData = cb.state.receivesData) :
    Streamed stream base popped cb' next := by
  have window := streamed.window_edge short
  have small := (streamed.settled short).window_lt
  have receiver : cb'.receiver = cb.receiver := congrArg Reception.receiver reception
  have size : cb'.receiveBufferSize = cb.receiveBufferSize :=
    congrArg Reception.receiveBufferSize reception
  have bounded : text.bytes.length ≤ 2 ^ 31 := by
    by_cases none : text.bytes = []
    · simp [none]
    · have := ofStream.fits none
      omega
  obtain ⟨store', inserts', parts⟩ := storeText_parts profile
    (slicedAt_hereditary stream base (popped.length + cb.receiveBufferSize.toNat))
    cb.reception text streamed.stored bounded
    (fun some => ⟨next + text.offset,
      by rw [← SeqNumber.advanced_advanced, ← streamed.receiveNext]; rfl, ofStream.slice some,
      by have := ofStream.fits some; omega⟩)
  cases Except.ok.inj (inserts'.symm.trans inserts)
  refine ⟨by rw [receiver, streamed.receiveNext], by rw [receiver, streamed.readerNext],
    by rw [receiver, streamed.received], by rw [state]; exact streamed.position,
    by rw [size]; exact streamed.room, by rw [size]; exact streamed.small, ?_, ?_⟩
  · rw [size, show cb'.outOfOrder = store from congrArg Reception.outOfOrder reception]
    exact parts
  · rw [size, show cb'.outOfOrderFin = cb.reception.rememberFin text from
      congrArg Reception.outOfOrderFin reception]
    intro number remembered
    unfold Reception.rememberFin at remembered
    split at remembered
    · rename_i fin
      obtain ⟨place, inside⟩ := ofStream.atEnd fin
      refine ⟨?_, by omega⟩
      rw [← Option.some.inj remembered, ← place, Nat.add_assoc next,
        ← SeqNumber.advanced_advanced base, ← streamed.receiveNext]
      rfl
    · exact streamed.fin number remembered

/-- Text joined in order, with the stored run that continues it and the FIN. -/
theorem joined_text (streamed : Streamed stream base popped cb next) (short : stream.length < 2 ^ 31)
    {profile : Profile} {text : Text} (ofStream : StreamText stream next cb.window text)
    {front rest : List (SeqNumber × Buffer)} {fin : Bool} {state : State} (inOrder : text.offset = 0)
    (some : text.bytes ≠ []) (receives : cb.state.receivesData = true)
    (kept : state.receivesData = true) (joins : cb.reception.Joins text front rest fin)
    (reception : cb'.reception = cb.reception.joined text.bytes front rest fin)
    (taken : ControlBlock.FinTaken profile state fin cb') :
    Streamed stream base popped cb'
      (next + text.bytes.length + storedLength front + fin.toNat) := by
  have window := streamed.window_edge short
  have size : cb'.receiveBufferSize = cb.receiveBufferSize :=
    congrArg Reception.receiveBufferSize reception
  have position : next ≤ stream.length := by
    have := streamed.position
    rwa [receives, if_pos rfl] at this
  have nextAt : cb.reception.receiver.receiveNext = base.advanced next := streamed.receiveNext
  obtain ⟨split, laid, -, finWhy⟩ := joins
  obtain ⟨slice, fits, atEnd⟩ := ofStream
  have slice := slice some
  have fits := fits some
  rw [inOrder, Nat.add_zero] at slice atEnd
  rw [inOrder, Nat.zero_add] at fits
  have inside := slice.inside
  rw [nextAt, SeqNumber.advanced_advanced] at laid finWhy
  have parts (entry : SeqNumber × Buffer) (member : entry ∈ front) :
      SlicedAt stream base (popped.length + cb.receiveBufferSize.toNat) entry.1 entry.2 :=
    (streamed.stored entry (by rw [show cb.outOfOrder = front ++ rest from split]; simp [member])).2.2
  obtain ⟨continues, bound, reach⟩ := laid_slices short inside laid parts
  -- A FIN is taken only where the stream ends.
  have finAt : fin = true → next + text.bytes.length + storedLength front = stream.length ∧
      stream.length < popped.length + cb.receiveBufferSize.toNat := by
    intro isFin
    rw [isFin, eq_comm, Bool.or_eq_true] at finWhy
    rcases finWhy with own | remembered
    · obtain ⟨place, before⟩ := atEnd own
      omega
    · rw [Bool.and_eq_true, beq_iff_eq] at remembered
      obtain ⟨place, before⟩ := streamed.fin _ remembered.2
      refine ⟨?_, before⟩
      have both := congrArg base.ahead place
      rw [SeqNumber.ahead_advanced_of_lt _ (by omega),
        SeqNumber.ahead_advanced_of_lt _ (by omega)] at both
      omega
  have edge : next + text.bytes.length + storedLength front ≤
      popped.length + cb.receiveBufferSize.toNat := by
    cases front with
    | nil => simp only [storedLength_nil]; omega
    | cons entry front => exact reach (by simp)
  refine ⟨?_, ?_, ?_, ?_, ?_, by rw [size]; exact streamed.small, ?_, ?_⟩
  · rw [show cb'.receiver.receiveNext = cb.receiver.receiveNext.advanced
      (text.bytes.length + storedLength front + fin.toNat) from
        congrArg (fun after => after.receiver.receiveNext) reception,
      streamed.receiveNext, SeqNumber.advanced_advanced]
    congr 1
    omega
  · rw [show cb'.receiver.readerNext = cb.receiver.readerNext from
      congrArg (fun after => after.receiver.readerNext) reception, streamed.readerNext]
  · rw [show cb'.receiver.recvQueue = cb.receiver.recvQueue ++ text.bytes :: front.map Prod.snd from
      congrArg (fun after => after.receiver.recvQueue) reception, List.flatten_append,
      List.flatten_cons, ← List.append_assoc, ← List.append_assoc, streamed.received,
      slice.append_take, continues]
    cases fin with
    | false => rfl
    | true =>
      have whole := (finAt rfl).1
      rw [List.take_of_length_le (by omega), List.take_of_length_le (by rw [Bool.toNat_true]; omega)]
  · cases fin with
    | false =>
      rw [show cb'.state = state from taken, kept, if_pos rfl]
      simpa using bound
    | true =>
      rw [stateAfterFin_receivesData taken.1, if_neg (by simp), (finAt rfl).1]
      rfl
  · rw [size]
    cases fin with
    | false => simpa using edge
    | true =>
      have := finAt rfl
      rw [Bool.toNat_true]
      omega
  · rw [size, show cb'.outOfOrder = rest from congrArg Reception.outOfOrder reception]
    exact fun entry member => streamed.stored entry
      (by rw [show cb.outOfOrder = front ++ rest from split]; simp [member])
  · rw [size, show cb'.outOfOrderFin = cb.outOfOrderFin from
      congrArg Reception.outOfOrderFin reception]
    exact streamed.fin

/-- A FIN without text, which can only be the end of the stream. -/
theorem finished_text (streamed : Streamed stream base popped cb next) (short : stream.length < 2 ^ 31)
    {profile : Profile} {text : Text} (ofStream : StreamText stream next cb.window text)
    {state : State} (inOrder : text.offset = 0)
    (none : text.bytes = [] ∨ cb.state.receivesData = false) (fin : text.fin = true)
    (reception : cb'.reception = cb.reception.pastFin)
    (taken : ControlBlock.FinTaken profile state true cb') :
    Streamed stream base popped cb' (next + 1) := by
  have window := streamed.window_edge short
  have size : cb'.receiveBufferSize = cb.receiveBufferSize :=
    congrArg Reception.receiveBufferSize reception
  obtain ⟨place, before⟩ := ofStream.atEnd fin
  have position := streamed.position
  have complete : next = stream.length := by
    rcases none with empty | after
    · rw [empty] at place
      simpa [inOrder] using place
    · rw [after, if_neg (by simp)] at position
      omega
  refine ⟨?_, ?_, ?_, ?_, by rw [size]; omega, by rw [size]; exact streamed.small, ?_, ?_⟩
  · rw [show cb'.receiver.receiveNext = cb.receiver.receiveNext.advanced 1 from
      congrArg (fun after => after.receiver.receiveNext) reception, streamed.receiveNext,
      SeqNumber.advanced_advanced]
  · rw [show cb'.receiver.readerNext = cb.receiver.readerNext from
      congrArg (fun after => after.receiver.readerNext) reception, streamed.readerNext]
  · rw [show cb'.receiver.recvQueue = cb.receiver.recvQueue from
      congrArg (fun after => after.receiver.recvQueue) reception, streamed.received,
      List.take_of_length_le (by omega), List.take_of_length_le (by omega)]
  · rw [stateAfterFin_receivesData taken.1, if_neg (by simp), complete]
  · rw [size, show cb'.outOfOrder = cb.outOfOrder from congrArg Reception.outOfOrder reception]
    exact streamed.stored
  · rw [size, show cb'.outOfOrderFin = cb.outOfOrderFin from
      congrArg Reception.outOfOrderFin reception]
    exact streamed.fin

/-- The text of a stream segment keeps the received data a prefix of the stream, and takes
nothing of it back. -/
theorem text (streamed : Streamed stream base popped cb next) (short : stream.length < 2 ^ 31)
    {profile : Profile} {text : Text} (ofStream : StreamText stream next cb.window text)
    {state : State} (receives : state.receivesData = cb.state.receivesData)
    (outcome : cb.TextOutcome profile text state cb') :
    ∃ next', next ≤ next' ∧ Streamed stream base popped cb' next' := by
  cases outcome with
  | ignored _ _ reception kept =>
    exact ⟨next, Nat.le_refl _, streamed.of_eq reception (by rw [kept, receives])⟩
  | stored _ _ _ inserts reception kept =>
    exact ⟨next, Nat.le_refl _,
      streamed.stored_text short ofStream inserts reception (by rw [kept, receives])⟩
  | joined inOrder some takes joins reception taken =>
    refine ⟨_, ?_, streamed.joined_text short ofStream inOrder some (receives.symm.trans takes) takes
      joins reception taken⟩
    omega
  | finished inOrder none fin reception taken =>
    refine ⟨_, ?_, streamed.finished_text short ofStream inOrder (by rwa [receives] at none) fin
      reception taken⟩
    omega

end Streamed

/-- Sending a FIN does not change whether data may be received. -/
theorem stateAfterFinSent_receivesData (state : State) :
    (ControlBlock.stateAfterFinSent state).receivesData = state.receivesData := by
  cases state <;> rfl

variable [CongestionControl κ] [RtoCalculator ρ]

/-- A segment of the stream is short enough for signed comparisons. -/
theorem StreamSegment.short {stream : Buffer} {base : SeqNumber} {header : TcpHeader} {data : Buffer}
    (ofStream : StreamSegment stream base header data) (short : stream.length < 2 ^ 31) :
    sequenceLength header data ≤ 2 ^ 31 := by
  have finBound := Bool.toNat_le header.fin
  obtain ⟨plain, -, ⟨rfl, -⟩ | ⟨offset, -, slice, -⟩⟩ := ofStream
  · simp only [sequenceLength, plain, List.length_nil, Bool.toNat_false]
    omega
  · have inside := slice.inside
    simp only [sequenceLength, plain, Bool.toNat_false]
    omega

/-- Every action of a stream run keeps the received data a prefix of the stream, and takes
nothing of it back. -/
theorem Streamed.step_forward {profile : Profile} {stream popped : Buffer} {base : SeqNumber}
    {source target : Connection κ ρ} {action : Action} {next : Nat}
    (short : stream.length < 2 ^ 31) (streamed : Streamed stream base popped source.cb next)
    (ofStream : OfStream stream base source action)
    (advanced : source.step profile action = .ok target) :
    ∃ next', next ≤ next' ∧
      Streamed stream base (popped ++ Connection.popped ⟨source, action, target⟩) target.cb next' := by
  by_cases sends : action.sends = true
  · have undisturbed := Connection.step_undisturbed sends advanced
    have nothing : Connection.popped ⟨source, action, target⟩ = [] := by
      cases action <;> first | rfl | cases sends
    rw [nothing, List.append_nil]
    refine ⟨next, Nat.le_refl _, streamed.of_eq undisturbed.reception ?_⟩
    rcases undisturbed.state with same | sent
    · exact congrArg State.receivesData same
    · exact (congrArg State.receivesData sent).trans (stateAfterFinSent_receivesData _)
  cases action with
  | receive env header data =>
    obtain ⟨cb, received, advanced⟩ := bind_ok.mp advanced
    cases advanced
    have outcome := (ControlBlock.receive_cases (streamed.settled short)
      (StreamSegment.short ofStream short) received).text
    simp only [Connection.popped, List.append_nil]
    split at outcome
    · exact streamed.text short (streamed.streamText short ofStream)
        (source.cb.stateAfterAck_receivesData header) outcome
    · obtain ⟨same, kept | ⟨-, reset⟩⟩ := outcome
      · exact ⟨next, Nat.le_refl _, streamed.of_eq same (congrArg State.receivesData kept)⟩
      · rw [ofStream.1, ofStream.2.1] at reset
        simp at reset
  | pollRecv waker =>
    cases advanced
    exact ⟨next, Nat.le_refl _, streamed.pollRecv waker⟩
  | send | close | senderRound | retransmitterRound | acknowledgerRound => exact absurd rfl sends

/-- Every action of a stream run keeps the received data a prefix of the stream. -/
theorem Streamed.step {profile : Profile} {stream popped : Buffer} {base : SeqNumber}
    {source target : Connection κ ρ} {action : Action} {next : Nat}
    (short : stream.length < 2 ^ 31) (streamed : Streamed stream base popped source.cb next)
    (ofStream : OfStream stream base source action)
    (advanced : source.step profile action = .ok target) :
    ∃ next, Streamed stream base (popped ++ Connection.popped ⟨source, action, target⟩)
      target.cb next :=
  (streamed.step_forward short ofStream advanced).imp fun _ further => further.2

/-- Receive-side stream integrity: along every run in which the arriving segments
are of one stream, what the application has read followed by what waits to be
read is the prefix of the stream up to `receive_next`, less the number of a
consumed FIN.

Proof: `Streamed` is kept by every step of the connection: an arriving segment is
trimmed to a slice of the stream at its own number, whatever leaves the store continues
what waits to be read, and reading moves bytes to the history. The statement reads the
invariant's two fields, with the position below half the sequence space. -/
theorem Connection.received_prefix (profile : Profile) (stream : Buffer) (isn : SeqNumber)
    (start : Connection κ ρ) (short : stream.length < 2 ^ 31)
    (small : start.cb.receiveBufferSize.toNat < 2 ^ 31)
    (established : start.cb.state = .established)
    (fresh : start.cb.receiver = Receiver.new (isn.advanced 1) (isn.advanced 1))
    (empty : start.cb.outOfOrder = []) (noFin : start.cb.outOfOrderFin = none)
    {past : List (Transition κ ρ)} {state : Connection κ ρ} (run : Run profile start past state)
    (ofStream : Runs.Meets (OfStream stream (isn.advanced 1)) past) :
    allPopped past ++ state.cb.receiver.recvQueue.flatten =
        stream.take ((isn.advanced 1).ahead state.cb.receiver.receiveNext) ∧
      (if state.cb.state.receivesData then
        (isn.advanced 1).ahead state.cb.receiver.receiveNext ≤ stream.length
      else (isn.advanced 1).ahead state.cb.receiver.receiveNext = stream.length + 1) := by
  have streamed : ∃ next, Streamed stream (isn.advanced 1) (allPopped past) state.cb next := by
    refine Runs.run_invariant (fun past state =>
      ∃ next, Streamed stream (isn.advanced 1) (allPopped past) state.cb next) ?_ ?_ run ofStream
    · refine ⟨0, ?_, ?_, ?_, ?_, Nat.zero_le _, small, ?_, ?_⟩
      · simp [fresh, Receiver.new]
      · simp [fresh, Receiver.new, allPopped]
      · simp [fresh, Receiver.new, allPopped]
      · simp [established, State.receivesData]
      · simp [empty, AllParts]
      · simp [noFin]
    · rintro past source action target - ofStream ⟨next, streamed⟩ advanced
      exact streamed.step short ofStream advanced
  obtain ⟨next, streamed⟩ := streamed
  have bound := streamed.next_le
  have reached : (isn.advanced 1).ahead state.cb.receiver.receiveNext = next := by
    rw [streamed.receiveNext, SeqNumber.ahead_advanced_of_lt _ (by omega)]
  rw [reached]
  exact ⟨streamed.received, streamed.position⟩

/-- Two segments that arrive in the wrong order. -/
theorem Connection.received_prefix_reordered :
    ∃ past state, Run .dev (Connection.sample 1000 1000 536) past state ∧
      Runs.Meets (OfStream [1, 2, 3, 4] (SeqNumber.ofU32 100)) past ∧
      allPopped past = [1, 2] ∧ state.cb.receiver.recvQueue = [[3, 4]] ∧
      allPopped past ++ state.cb.receiver.recvQueue.flatten =
        [1, 2, 3, 4].take ((SeqNumber.ofU32 100).ahead state.cb.receiver.receiveNext) := by
  have executed : ∃ past state, execute .dev (Connection.sample 1000 1000 536)
      [.segment 102 1000 [3, 4] false, .segment 100 1000 [1, 2] false, .pollRecv 1] =
        .ok (past, state) ∧ Runs.Meets (OfStream [1, 2, 3, 4] (SeqNumber.ofU32 100)) past ∧
      allPopped past = [1, 2] ∧ state.cb.receiver.recvQueue = [[3, 4]] := by
    refine ⟨_, _, rfl, ?_, by decide, by decide⟩
    refine (Runs.meets_cons _ _ _).mpr ⟨trivial, (Runs.meets_cons _ _ _).mpr ⟨?_,
      (Runs.meets_cons _ _ _).mpr ⟨?_, Runs.meets_nil _⟩⟩⟩
    · exact ⟨rfl, rfl, .inr ⟨0, by decide, ⟨by decide, by decide⟩, by decide⟩⟩
    · exact ⟨rfl, rfl, .inr ⟨2, by decide, ⟨by decide, by decide⟩, by decide⟩⟩
  obtain ⟨past, state, executed, ofStream, popped, waiting⟩ := executed
  have run := run_of_execute executed
  have integrity := received_prefix .dev [1, 2, 3, 4] (SeqNumber.ofU32 99) _ (by decide) (by decide)
    rfl rfl rfl rfl run ofStream
  exact ⟨past, state, run, ofStream, popped, waiting, integrity.1⟩

end Capybara
