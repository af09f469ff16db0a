import Capybara.Tcp.Established.Sender

/-!
# The control block of an established connection

`established/ctrlblk.rs` and the routines of `established/sender.rs` that take
the control block. State that the source keeps in cells is passed explicitly;
segments handed to the network runtime are appended to `transmitted` and tasks
woken by arriving data to `woken`. Of the load statistics of the migration feature
only whether the connection is counted is kept, which both of its handles agree on:
counting it again while it is counted is a panic.

An `Env` holds what the surroundings answer during one call: the clock and the
link address that the ARP cache returns for the peer.

`receive` is one long routine in the source. It is cut here at its own section
comments: the acceptability test with trimming, the ACK, the out-of-order path,
and the in-order path with the FIN.
-/

namespace Capybara

/-- `MAX_OUT_OF_ORDER`. -/
def MAX_OUT_OF_ORDER : Nat := 2048

/-- `State`. -/
inductive State where
  | established
  | finWait1
  | finWait2
  | closing
  | timeWait
  | closeWait
  | lastAck
  | closed
  deriving DecidableEq, Repr

/-- The states in which data may legitimately be received. -/
def State.receivesData : State → Bool
  | .established | .finWait1 | .finWait2 => true
  | _ => false

/-- What the surroundings answer during one call. -/
structure Env where
  now : Instant
  linkAddr : Option MacAddress
  deriving DecidableEq, Repr

/-- `Receiver`. -/
structure Receiver where
  readerNext : SeqNumber
  receiveNext : SeqNumber
  recvQueue : List Buffer
  deriving DecidableEq, Repr

namespace Receiver

/-- `Receiver::new`. -/
def new (readerNext receiveNext : SeqNumber) : Receiver := { readerNext, receiveNext, recvQueue := [] }

/-- `Receiver::pop`. -/
def pop (receiver : Receiver) : Option (Buffer × Receiver) :=
  match receiver.recvQueue with
  | [] => none
  | buf :: rest => some (buf, { receiver with
      recvQueue := rest
      readerNext := receiver.readerNext + SeqNumber.ofU32 (asU32 buf.length) })

/-- `Receiver::push`. -/
def push (receiver : Receiver) (buf : Buffer) : Receiver :=
  { receiver with
    recvQueue := receiver.recvQueue ++ [buf]
    receiveNext := receiver.receiveNext + SeqNumber.ofU32 (asU32 buf.length) }

end Receiver

/-- `ControlBlock`, over its congestion control and its timeout calculator. -/
structure ControlBlock (κ ρ : Type) where
  localAddr : SocketAddrV4
  remote : SocketAddrV4
  localLinkAddr : MacAddress
  txChecksumOffload : Bool
  sender : Sender
  state : State
  ackDelayTimeout : Duration
  ackDeadline : Option Instant
  receiveBufferSize : UInt32
  windowScale : UInt32
  waker : Option Waker
  outOfOrder : List (SeqNumber × Buffer)
  outOfOrderFin : Option SeqNumber
  receiver : Receiver
  userIsDoneSending : Bool
  cc : κ
  retransmitDeadline : Option Instant
  rtoCalculator : ρ
  statsEnabled : Bool
  transmitted : List TcpSegment
  woken : List Waker

/-- The arguments of `ControlBlock::new` that a handshake computes. -/
structure NewConnection where
  localAddr : SocketAddrV4
  remote : SocketAddrV4
  localLinkAddr : MacAddress
  txChecksumOffload : Bool
  receiverSeqNo : SeqNumber
  ackDelayTimeout : Duration
  receiverWindowSize : UInt32
  receiverWindowScale : UInt32
  senderSeqNo : SeqNumber
  senderWindowSize : UInt32
  senderWindowScale : UInt8
  senderMss : Nat
  deriving DecidableEq, Repr

variable {κ ρ : Type} [CongestionControl κ] [RtoCalculator ρ]

namespace ControlBlock

/-- `ControlBlock::new`. -/
def new (args : NewConnection) : ControlBlock κ ρ where
  localAddr := args.localAddr
  remote := args.remote
  localLinkAddr := args.localLinkAddr
  txChecksumOffload := args.txChecksumOffload
  sender := Sender.new args.senderSeqNo args.senderWindowSize args.senderWindowScale args.senderMss
  state := .established
  ackDelayTimeout := args.ackDelayTimeout
  ackDeadline := none
  receiveBufferSize := args.receiverWindowSize
  windowScale := args.receiverWindowScale
  waker := none
  outOfOrder := []
  outOfOrderFin := none
  receiver := Receiver.new args.receiverSeqNo args.receiverSeqNo
  userIsDoneSending := false
  cc := CongestionControl.new args.senderMss args.senderSeqNo
  retransmitDeadline := none
  rtoCalculator := RtoCalculator.new
  statsEnabled := false
  transmitted := []
  woken := []

/-- `get_receive_window_size`; the fault names this subtraction. -/
def getReceiveWindowSize (profile : Profile) (cb : ControlBlock κ ρ) : Checked Nat :=
  let bytesUnread := (cb.receiver.receiveNext - cb.receiver.readerNext).toU32
  (subU32 profile cb.receiveBufferSize.toNat bytesUnread).mapError fun _ =>
    .receiveWindowUnderflow

/-- `hdr_window_size`. -/
def hdrWindowSize (profile : Profile) (cb : ControlBlock κ ρ) : Checked UInt16 := do
  let windowSize ← cb.getReceiveWindowSize profile
  let scaled ← shrU32 profile windowSize cb.windowScale.toNat
  if scaled < 2 ^ 16 then .ok (UInt16.ofNat scaled) else .error .windowSizeOverflow

/-- `tcp_header`. -/
def tcpHeader (profile : Profile) (cb : ControlBlock κ ρ) : Checked TcpHeader := do
  let windowSize ← cb.hdrWindowSize profile
  .ok { TcpHeader.new cb.localAddr.port cb.remote.port with
    windowSize, ack := true, ackNum := cb.receiver.receiveNext }

/-- The state after a FIN has been sent. -/
def stateAfterFinSent : State → State
  | .established => .finWait1
  | .closeWait => .lastAck
  | state => state

/-- `emit`: transmit, cancel the delayed ACK, and account for a sent FIN. -/
def emit (profile : Profile) (cb : ControlBlock κ ρ) (header : TcpHeader) (body : Option Buffer)
    (remoteLinkAddr : MacAddress) : Checked (ControlBlock κ ρ) := do
  debugAssert profile header.ack .emitWithoutAck
  let segment : TcpSegment := {
    dstLinkAddr := remoteLinkAddr
    srcLinkAddr := cb.localLinkAddr
    srcAddr := cb.localAddr.ip
    dstAddr := cb.remote.ip
    tcpHdr := header
    data := body
    txChecksumOffload := cb.txChecksumOffload }
  .ok { cb with
    transmitted := cb.transmitted ++ [segment]
    ackDeadline := none
    state := if header.fin then stateAfterFinSent cb.state else cb.state }

/-- `send_ack`. The header is built before the ARP cache is consulted. -/
def sendAck (profile : Profile) (env : Env) (cb : ControlBlock κ ρ) : Checked (ControlBlock κ ρ) := do
  let header ← cb.tcpHeader profile
  match env.linkAddr with
  | some remoteLinkAddr =>
    cb.emit profile { header with seqNum := cb.sender.sendNext.value } none remoteLinkAddr
  | none => .ok cb

/-- `poll_recv`: the front buffer, or register the waker. -/
def pollRecv (waker : Waker) (cb : ControlBlock κ ρ) : ControlBlock κ ρ × Option Buffer :=
  match cb.receiver.pop with
  | none => ({ cb with waker := some waker }, none)
  | some (buf, receiver) => ({ cb with receiver }, some buf)

/-! ## Sending -/

/-- The retransmission deadline, started if it is not already running. -/
def startRetransmitTimer (now : Instant) (cb : ControlBlock κ ρ) : ControlBlock κ ρ :=
  { cb with retransmitDeadline := match cb.retransmitDeadline with
      | none => some (now + RtoCalculator.rto cb.rtoCalculator)
      | some deadline => some deadline }

/-- The fast path of `Sender::send` once both windows allow it: emit the buffer
as one segment, or as the FIN when it is empty, and move it to the
retransmission queue. -/
def sendImmediate (profile : Profile) (env : Env) (cb : ControlBlock κ ρ) (buf : Buffer)
    (remoteLinkAddr : MacAddress) : Checked (ControlBlock κ ρ) := do
  let sendNext := cb.sender.sendNext.value
  let sentData := (sendNext - cb.sender.sendUnacked.value).toU32
  let cb := { cb with
    cc := CongestionControl.onSend env.now (RtoCalculator.rto cb.rtoCalculator) sentData cb.cc }
  let header ← cb.tcpHeader profile
  let isFin := buf.length == 0
  let bufLen := if isFin then 1 else buf.length
  let header := { header with seqNum := sendNext, fin := isFin, psh := !isFin }
  let cb ← cb.emit profile header (some buf) remoteLinkAddr
  let unsentSeqNo := cb.sender.unsentSeqNo.value + SeqNumber.ofU32 bufLen
  let sender := { cb.sender.advanceSendNext bufLen with
    unsentSeqNo := cb.sender.unsentSeqNo.set unsentSeqNo }
  let sender := sender.pushUnackedSegment { bytes := buf, initialTx := some env.now }
  .ok (startRetransmitTimer env.now { cb with sender })

/-- The slow path of `Sender::send`. The queued length is `buf_len`, which the
end-of-send marker leaves at zero. -/
def queueUnsent (cb : ControlBlock κ ρ) (buf : Buffer) : ControlBlock κ ρ × Except Fail Unit :=
  if cb.sender.unsentQueue.length > UNSENT_QUEUE_CUTOFF then
    (cb, .error ⟨.EBUSY, "too many packets to send"⟩)
  else
    let unsentSeqNo := cb.sender.unsentSeqNo.value + SeqNumber.ofU32 buf.length
    let sender := { cb.sender with
      unsentQueue := cb.sender.unsentQueue ++ [buf]
      unsentSeqNo := cb.sender.unsentSeqNo.set unsentSeqNo }
    ({ cb with sender }, .ok ())

/-- `Sender::send`: transmit at once when nothing waits and both windows allow
it, otherwise queue the buffer for the background sender. -/
def send (profile : Profile) (env : Env) (cb : ControlBlock κ ρ) (buf : Buffer) :
    Checked (ControlBlock κ ρ × Except Fail Unit) :=
  if cb.userIsDoneSending then
    .ok (cb, .error ⟨.EINVAL, "Connection is closing"⟩)
  else if ¬ buf.length < 2 ^ 32 then
    .ok (cb, .error ⟨.EINVAL, "buffer too large"⟩)
  else if cb.sender.unsentQueue ≠ [] then
    .ok (cb.queueUnsent buf)
  else do
    let sentData := (cb.sender.sendNext.value - cb.sender.sendUnacked.value).toU32
    let inFlightAfterSend ← addU32 profile sentData buf.length
    let cb := { cb with cc := CongestionControl.onCwndCheckBeforeSend env.now cb.cc }
    let effectiveCwnd ← addU32 profile (CongestionControl.cwnd cb.cc).value.toNat
      (CongestionControl.limitedTransmitCwndIncrease cb.cc).value.toNat
    let winSz := cb.sender.sendWindow.value.toNat
    if winSz > 0 ∧ winSz ≥ inFlightAfterSend ∧ effectiveCwnd ≥ inFlightAfterSend then
      match env.linkAddr with
      | some remoteLinkAddr => do
        let cb ← cb.sendImmediate profile env buf remoteLinkAddr
        .ok (cb, .ok ())
      | none => .ok (cb.queueUnsent buf)
    else .ok (cb.queueUnsent buf)

/-- `Sender::retransmit`: send the earliest unacknowledged segment again. -/
def retransmit (profile : Profile) (env : Env) (cb : ControlBlock κ ρ) :
    Checked (ControlBlock κ ρ) :=
  match cb.sender.unackedQueue with
  | [] => .ok cb
  | segment :: rest => do
    let cb := { cb with sender := { cb.sender with
      unackedQueue := { segment with initialTx := none } :: rest } }
    match env.linkAddr with
    | none => .ok cb
    | some firstHopLinkAddr =>
      let header ← cb.tcpHeader profile
      let isFin := segment.bytes.length == 0
      let header := { header with seqNum := cb.sender.sendUnacked.value, fin := isFin, psh := !isFin }
      cb.emit profile header (some segment.bytes) firstHopLinkAddr

/-- `disable_stats`. -/
def disableStats (cb : ControlBlock κ ρ) : ControlBlock κ ρ := { cb with statsEnabled := false }

/-- `enable_stats`. -/
def enableStats (cb : ControlBlock κ ρ) : Checked (ControlBlock κ ρ) :=
  if cb.statsEnabled then .error .enablingEnabledStat else .ok { cb with statsEnabled := true }

/-- `close`: queue a FIN, once. -/
def close (profile : Profile) (env : Env) (cb : ControlBlock κ ρ) : Checked (ControlBlock κ ρ) :=
  if cb.userIsDoneSending then .ok cb
  else do
    let cb := cb.disableStats
    debugAssert profile (cb.state == .established || cb.state == .closeWait) .closeInBadState
    match ← cb.send profile env [] with
    | (_, .error _) => .error .sendFailed
    | (cb, .ok ()) => .ok { cb with userIsDoneSending := true }

end ControlBlock

end Capybara
