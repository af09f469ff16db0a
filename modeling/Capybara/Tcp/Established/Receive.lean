import Capybara.Tcp.Established.ControlBlock

/-!
# The receive routine of an established connection

`ControlBlock::receive` with `store_out_of_order_segment` and `receive_data`.
The routine is cut at its own section comments: the acceptability test with its
trimming (`trimToWindow`), the RST, SYN and ACK sections (`processAck`), the
out-of-order path (`receiveOutOfOrder`) and the in-order path with the FIN
(`receiveInOrder`). Each part is written in the order of the source.
-/

namespace Capybara

variable {κ ρ : Type} [CongestionControl κ] [RtoCalculator ρ]

/-! ## The out-of-order store -/

namespace OutOfOrder

/-- The new segment while it is compared with the stored ones. -/
structure NewSegment where
  newStart : SeqNumber
  newEnd : SeqNumber
  buf : Buffer
  deriving DecidableEq, Repr

/-- How one pass over the store ends. -/
inductive Pass where
  /-- The new segment is a complete duplicate and is dropped. -/
  | duplicate
  /-- The segment stored at the index is encompassed; remove it and start over. -/
  | encompassed (index : Nat) (segment : NewSegment)
  /-- Insert the new segment at the index. -/
  | insert (index : Nat) (segment : NewSegment)
  deriving DecidableEq, Repr

/-- The `for` loop of `store_out_of_order_segment`, from `index` on. `total` is
the length of the whole store, the action index unless a branch sets another. -/
def pass (profile : Profile) (total : Nat) :
    List (SeqNumber × Buffer) → (index : Nat) → NewSegment → Checked Pass
  | [], _, segment => .ok (.insert total segment)
  | (storedStart, stored) :: rest, index, segment => do
    let storedLen := asU32 stored.length
    debugAssert profile (storedLen != 0) .emptyStoredSegment
    let last ← subU32 profile storedLen 1
    let storedEnd := storedStart + SeqNumber.ofU32 last
    if segment.newStart.lt storedStart then
      if segment.newEnd.lt storedStart then
        .ok (.insert index segment)
      else if storedEnd.lt segment.newEnd then
        .ok (.encompassed index segment)
      else
        -- The front of the stored segment overlaps; the action index stays at the end.
        let excess ← addU32 profile (segment.newEnd - storedStart).toU32 1
        let buf ← segment.buf.trim excess
        .ok (.insert total { segment with newEnd := segment.newEnd - SeqNumber.ofU32 excess, buf })
    else if segment.newEnd.le storedEnd then
      .ok .duplicate
    else if storedEnd.lt segment.newStart then
      pass profile total rest (index + 1) segment
    else
      -- The end of the stored segment overlaps; `stored_end` is inclusive.
      let duplicate := (storedEnd - segment.newStart).toU32
      let buf ← segment.buf.adjust duplicate
      pass profile total rest (index + 1)
        { segment with newStart := segment.newStart + SeqNumber.ofU32 duplicate, buf }

/-- The `while another_pass_needed` loop, with whether the new segment was
inserted. Every repetition has removed a stored segment, so one pass more than
there are stored segments is enough. -/
def insertPasses (profile : Profile) : (passes : Nat) → List (SeqNumber × Buffer) → NewSegment →
    Checked (List (SeqNumber × Buffer) × Bool)
  | 0, store, _ => .ok (store, false)
  | passes + 1, store, segment => do
    match ← pass profile store.length store 0 segment with
    | .duplicate => .ok (store, false)
    | .encompassed index segment => insertPasses profile passes (store.eraseIdx index) segment
    | .insert index segment => .ok (store.insertIdx index (segment.newStart, segment.buf), true)

/-- The store after the insertion loop, before the capacity cut. -/
def inserted (profile : Profile) (store : List (SeqNumber × Buffer)) (segment : NewSegment) :
    Checked (List (SeqNumber × Buffer) × Bool) :=
  insertPasses profile (store.length + 1) store segment

end OutOfOrder

/-- A segment that passed the acceptability test, trimmed to the window, with
the local variables that later sections read. -/
structure Accepted where
  segStart : SeqNumber
  segEnd : SeqNumber
  segLen : Nat
  header : TcpHeader
  data : Buffer
  deriving DecidableEq, Repr

namespace ControlBlock

/-- `store_out_of_order_segment`. After an insertion the capacity cut drops the
latest entries; a duplicate returns before it. -/
def storeOutOfOrderSegment (profile : Profile) (cb : ControlBlock κ ρ)
    (newStart newEnd : SeqNumber) (buf : Buffer) : Checked (ControlBlock κ ρ) := do
  let (store, inserted) ← OutOfOrder.inserted profile cb.outOfOrder { newStart, newEnd, buf }
  .ok { cb with outOfOrder := if inserted then store.take MAX_OUT_OF_ORDER else store }

/-- The `while` loop of `receive_data`: move stored segments that continue the
received data to the receive queue. Returns the receiver, the remaining store,
the new `recv_next` and whether anything was moved. -/
def recoverStored : List (SeqNumber × Buffer) → (recvNext : SeqNumber) → Receiver →
    Receiver × List (SeqNumber × Buffer) × SeqNumber × Bool
  | [], recvNext, receiver => (receiver, [], recvNext, false)
  | (start, buf) :: rest, recvNext, receiver =>
    if start = recvNext then
      let (receiver, store, recvNext, _) := recoverStored rest
        (recvNext + SeqNumber.ofU32 (asU32 buf.length)) (receiver.push buf)
      (receiver, store, recvNext, true)
    else (receiver, (start, buf) :: rest, recvNext, false)

/-- `receive_data`: the new control block and whether a remembered FIN has now
been received. -/
def receiveData (profile : Profile) (cb : ControlBlock κ ρ) (segStart : SeqNumber) (buf : Buffer) :
    Checked (ControlBlock κ ρ × Bool) := do
  let recvNext := cb.receiver.receiveNext
  debugAssert profile (segStart == recvNext) .segmentNotInOrder
  let recvNext := recvNext + SeqNumber.ofU32 (asU32 buf.length)
  let (receiver, store, recvNext, addedOutOfOrder) :=
    recoverStored cb.outOfOrder recvNext (cb.receiver.push buf)
  let fin := addedOutOfOrder && cb.outOfOrderFin == some recvNext
  .ok ({ cb with
    receiver
    outOfOrder := store
    waker := none
    woken := cb.woken ++ cb.waker.toList }, fin)

/-! ## The sections of `receive` -/

/-- The front of the acceptability test: cut data already received off the
front, with the SYN if there is one; refuse a segment that is entirely old or
starts past the window. -/
def trimFront (profile : Profile) (segment : Accepted)
    (receiveNext afterReceiveWindow : SeqNumber) : Checked (Option Accepted) :=
  if segment.segStart = receiveNext then .ok (some segment)
  else if segment.segStart.lt receiveNext then
    if segment.segEnd.lt receiveNext then .ok none
    else do
      let duplicate := (receiveNext - segment.segStart).toU32
      let segLen ← subU32 profile segment.segLen duplicate
      let nbytes ← (if segment.header.syn then subU32 profile duplicate 1 else .ok duplicate)
      let data ← segment.data.adjust nbytes
      .ok (some { segment with
        segStart := segment.segStart + SeqNumber.ofU32 duplicate
        segLen
        header := { segment.header with syn := false }
        data })
  else if segment.segStart.ge afterReceiveWindow then .ok none
  else .ok (some segment)

/-- "Check that the end of the segment is in the window, and trim it down if it
is not." -/
def trimEnd (profile : Profile) (segment : Accepted) (afterReceiveWindow : SeqNumber) :
    Checked Accepted :=
  if segment.segLen > 0 && segment.segEnd.ge afterReceiveWindow then do
    let excess ← addU32 profile (segment.segEnd - afterReceiveWindow).toU32 1
    let segLen ← subU32 profile segment.segLen excess
    let nbytes ← (if segment.header.fin then subU32 profile excess 1 else .ok excess)
    let data ← segment.data.trim nbytes
    .ok { segment with
      segEnd := segment.segEnd - SeqNumber.ofU32 excess
      segLen
      header := { segment.header with fin := false }
      data }
  else .ok segment

/-- "Check to see if the segment is acceptable sequence-wise". `none` stands for
an unacceptable segment, to be answered with an ACK unless it is a RST. -/
def trimToWindow (profile : Profile) (cb : ControlBlock κ ρ) (header : TcpHeader) (data : Buffer) :
    Checked (Option Accepted) := do
  let segStart := header.seqNum
  let segLen := asU32 data.length
  let segLen ← (if header.syn then addU32 profile segLen 1 else .ok segLen)
  let segLen ← (if header.fin then addU32 profile segLen 1 else .ok segLen)
  let segEnd := if segLen > 0 then segStart + SeqNumber.ofU32 (segLen - 1) else segStart
  let receiveNext := cb.receiver.receiveNext
  let windowSize ← cb.getReceiveWindowSize profile
  let afterReceiveWindow := receiveNext + SeqNumber.ofU32 windowSize
  match ← trimFront profile { segStart, segEnd, segLen, header, data } receiveNext
      afterReceiveWindow with
  | none => .ok none
  | some segment => do
    let segment ← trimEnd profile segment afterReceiveWindow
    debugAssert profile (receiveNext.le segment.segStart && segment.segEnd.lt afterReceiveWindow)
      .segmentOutsideWindow
    .ok (some segment)

/-- "Check the RST bit". -/
def receiveRst (cb : ControlBlock κ ρ) : ControlBlock κ ρ :=
  match cb.state with
  | .closed => cb.disableStats
  | _ => { cb.disableStats with state := .closed }

/-- The state once everything sent so far has been acknowledged. -/
def stateAfterAllAcked : State → State
  | .finWait1 => .finWait2
  | .closing => .timeWait
  | .lastAck => .closed
  | state => state

/-- "Process the ACK". The flag is false when the segment acknowledges data that
was never sent; the segment is then answered and dropped. -/
def processAck (profile : Profile) (env : Env) (cb : ControlBlock κ ρ) (header : TcpHeader) :
    Checked (ControlBlock κ ρ × Bool) := do
  let sendUnacknowledged := cb.sender.sendUnacked.value
  let sendNext := cb.sender.sendNext.value
  let rto := RtoCalculator.rto cb.rtoCalculator
  let cb := { cb with cc :=
    CongestionControl.onAckReceived env.now rto sendUnacknowledged sendNext header.ackNum cb.cc }
  if sendUnacknowledged.lt header.ackNum then
    if header.ackNum.le sendNext then
      let bytesAcknowledged := (header.ackNum - sendUnacknowledged).toU32
      let (unackedQueue, rtoCalculator) ← Sender.removeAcknowledged profile env.now
        cb.sender.unackedQueue bytesAcknowledged cb.rtoCalculator
      let sender := { cb.sender with
        unackedQueue, sendUnacked := cb.sender.sendUnacked.set header.ackNum }
      let sender ← sender.updateSendWindow profile header
      let cb := { cb with sender, rtoCalculator }
      if header.ackNum = sendNext then
        .ok ({ cb with retransmitDeadline := none, state := stateAfterAllAcked cb.state }, true)
      else
        .ok ({ cb with
          retransmitDeadline := some (env.now + RtoCalculator.rto rtoCalculator) }, true)
    else .ok (cb, false)
  else .ok (cb, true)

/-- "We can only process in-order data (or FIN)": store the segment for later. -/
def receiveOutOfOrder (profile : Profile) (env : Env) (cb : ControlBlock κ ρ) (segment : Accepted) :
    Checked (ControlBlock κ ρ) :=
  if segment.segLen > 0 && cb.state.receivesData then do
    let (cb, segLen, segEnd) ← (
      if segment.header.fin then do
        let segLen ← subU32 profile segment.segLen 1
        .ok ({ cb with outOfOrderFin := some segment.segEnd }, segLen,
          segment.segEnd - SeqNumber.ofU32 1)
      else .ok (cb, segment.segLen, segment.segEnd))
    debugAssert profile (segLen == asU32 segment.data.length) .segmentLengthMismatch
    let cb ← (
      if segLen > 0 then cb.storeOutOfOrderSegment profile segment.segStart segEnd segment.data
      else .ok cb)
    cb.sendAck profile env
  else .ok cb

/-- The state after the peer's FIN, where receiving one is foreseen. -/
def stateAfterFin : State → Option State
  | .established => some .closeWait
  | .finWait1 => some .closing
  | .finWait2 => some .timeWait
  | .closeWait => some .closeWait
  | .closing => some .closing
  | .lastAck => some .lastAck
  | .timeWait => some .timeWait
  | .closed => none

/-- "Check the FIN bit": advance over the FIN and acknowledge it at once. -/
def receiveFin (profile : Profile) (env : Env) (cb : ControlBlock κ ρ) : Checked (ControlBlock κ ρ) :=
  let receiver := { cb.receiver with
    receiveNext := cb.receiver.receiveNext + SeqNumber.ofU32 1 }
  match stateAfterFin cb.state with
  | none => .error .badTcpState
  | some state => { cb.disableStats with receiver, state }.sendAck profile env

/-- "Check if we need to ACK soon". -/
def scheduleAck (profile : Profile) (env : Env) (cb : ControlBlock κ ρ) : Checked (ControlBlock κ ρ) :=
  match cb.ackDeadline with
  | none => .ok { cb with ackDeadline := some (env.now + cb.ackDelayTimeout) }
  | some _ => { cb with ackDeadline := none }.sendAck profile env

/-- "Process the segment text", then the FIN, then the ACK we owe. -/
def receiveInOrder (profile : Profile) (env : Env) (cb : ControlBlock κ ρ) (segment : Accepted) :
    Checked (ControlBlock κ ρ) := do
  let textReceived := !segment.data.isEmpty && cb.state.receivesData
  let (cb, fin) ← (
    if textReceived then do
      let (cb, remembered) ← cb.receiveData profile segment.segStart segment.data
      .ok (cb, segment.header.fin || remembered)
    else .ok (cb, segment.header.fin))
  if fin then cb.receiveFin profile env
  else if textReceived then cb.scheduleAck profile env
  else .ok cb

/-- `receive`. -/
def receive (profile : Profile) (env : Env) (cb : ControlBlock κ ρ) (header : TcpHeader)
    (data : Buffer) : Checked (ControlBlock κ ρ) := do
  match ← cb.trimToWindow profile header data with
  | none => if header.rst then .ok cb else cb.sendAck profile env
  | some segment =>
    if segment.header.rst then .ok cb.receiveRst
    else if segment.header.syn then .ok { cb with state := .closed }
    else if !segment.header.ack then .ok cb
    else
      let receiveNext := cb.receiver.receiveNext
      let (cb, proceed) ← cb.processAck profile env segment.header
      if !proceed then cb.sendAck profile env
      else if segment.segStart ≠ receiveNext then cb.receiveOutOfOrder profile env segment
      else cb.receiveInOrder profile env segment

end ControlBlock

end Capybara
