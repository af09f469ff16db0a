import Capybara.Tcp.Established.Receive

/-!
# The background coroutines of an established connection

`established/background`: the sender, the retransmitter and the acknowledger
share the control block and run between calls of the application and arriving
segments. Each coroutine is a state with a function for one round of its loop;
a poll of the source is one or more consecutive rounds.

The sender keeps local variables across its suspension points. Its state
records them: the change counts at which it started to wait, the values it read
before waiting for the link address, or the window probe it repeats.
-/

namespace Capybara

variable {κ ρ : Type} [CongestionControl κ] [RtoCalculator ρ]

/-- What `arp().query(..).await` has answered so far. -/
inductive ArpReply where
  | pending
  | resolved (linkAddr : MacAddress)
  | failed
  deriving DecidableEq, Repr

/-- The suspension points of the coroutine `sender`. -/
inductive SenderTask where
  /-- At the head of the loop `'top`. -/
  | top
  /-- Nothing unsent: waiting for `unsent_seq_no` or `send_next` to be set. -/
  | idle (unsentSeqChanges sendNextChanges : Nat)
  /-- Zero window: waiting for the link address before taking the probe byte. -/
  | queryProbe (sendNext : SeqNumber)
  /-- Zero window: repeating the probe until the window is set. -/
  | persist (sendNext : SeqNumber) (buf : Buffer) (remoteLinkAddr : MacAddress)
      (windowChanges : Nat) (timeout : Duration) (deadline : Instant)
  /-- No room: waiting for one of the five watched values to be set. -/
  | blocked (sendUnackedChanges sendNextChanges windowChanges cwndChanges ltciChanges : Nat)
  /-- Room: waiting for the link address before forming the packet. -/
  | querySend (sendNext : SeqNumber) (winSz sentData effectiveCwnd : Nat)
  /-- The coroutine has returned the error of the ARP query. -/
  | returned
  deriving DecidableEq, Repr

namespace SenderTask

/-- Take one byte from the unsent queue, send it as a window probe, and enter
the persist loop. -/
def sendProbe (profile : Profile) (env : Env) (cb : ControlBlock κ ρ) (sendNext : SeqNumber)
    (remoteLinkAddr : MacAddress) : Checked (SenderTask × ControlBlock κ ρ) := do
  match ← Sender.popOneUnsentByte cb.sender.unsentQueue with
  | none => .error .noUnsentData
  | some (buf, unsentQueue) =>
    let sender := { cb.sender with unsentQueue }.advanceSendNext 1
    let sender := sender.pushUnackedSegment { bytes := buf, initialTx := some env.now }
    let cb := { cb with sender }
    let header ← cb.tcpHeader profile
    let cb ← cb.emit profile { header with seqNum := sendNext } (some buf) remoteLinkAddr
    -- `win_sz_changed` is polled for the first time here, after the query.
    .ok (.persist sendNext buf remoteLinkAddr cb.sender.sendWindow.changes 1000000000
      (env.now + 1000000000), cb)

/-- "Form an outgoing packet" from the unsent queue and send it. -/
def sendSegment (profile : Profile) (env : Env) (cb : ControlBlock κ ρ) (sendNext : SeqNumber)
    (winSz sentData effectiveCwnd : Nat) (remoteLinkAddr : MacAddress) :
    Checked (SenderTask × ControlBlock κ ρ) := do
  let windowRoom ← subU32 profile winSz sentData
  let cwndRoom ← subU32 profile effectiveCwnd sentData
  let maxSize := min (min windowRoom cb.sender.mss) cwndRoom
  match ← Sender.popUnsent maxSize cb.sender.unsentQueue with
  | none => .error .unsentGap
  | some (segmentData, doPush, unsentQueue) =>
    let rto := RtoCalculator.rto cb.rtoCalculator
    let cb := { cb with
      sender := { cb.sender with unsentQueue }
      cc := CongestionControl.onSend env.now rto sentData cb.cc }
    let header ← cb.tcpHeader profile
    let isFin := segmentData.length == 0
    debugAssert profile (!isFin || cb.userIsDoneSending) .finBeforeClose
    let segmentDataLen := if isFin then 1 else segmentData.length
    let header := { header with seqNum := sendNext, fin := isFin, psh := !isFin && doPush }
    let cb ← cb.emit profile header (some segmentData) remoteLinkAddr
    let sender := cb.sender.advanceSendNext segmentDataLen
    let sender := sender.pushUnackedSegment { bytes := segmentData, initialTx := some env.now }
    .ok (.top, ControlBlock.startRetransmitTimer env.now { cb with sender })

/-- From the head of the loop to the next suspension point. -/
def fromTop (profile : Profile) (env : Env) (reply : ArpReply) (cb : ControlBlock κ ρ) :
    Checked (SenderTask × ControlBlock κ ρ) :=
  let sendNext := cb.sender.sendNext.value
  if sendNext = cb.sender.unsentSeqNo.value then
    .ok (.idle cb.sender.unsentSeqNo.changes cb.sender.sendNext.changes, cb)
  else
    let winSz := cb.sender.sendWindow.value.toNat
    if winSz = 0 then
      match reply with
      | .pending => .ok (.queryProbe sendNext, cb)
      | .failed => .ok (.returned, cb)
      | .resolved remoteLinkAddr => sendProbe profile env cb sendNext remoteLinkAddr
    else do
      let cb := { cb with cc := CongestionControl.onCwndCheckBeforeSend env.now cb.cc }
      let cwnd := CongestionControl.cwnd cb.cc
      let ltci := CongestionControl.limitedTransmitCwndIncrease cb.cc
      let effectiveCwnd ← addU32 profile cwnd.value.toNat ltci.value.toNat
      match cb.sender.topSizeUnsent with
      | none => .error .noBufferInUnsentQueue
      | some nextBufSize =>
        let sentData := (sendNext - cb.sender.sendUnacked.value).toU32
        let needed ← addU32 profile sentData (asU32 nextBufSize)
        -- The comparison chain stops before the subtraction when it could underflow.
        if winSz ≤ needed ∨ effectiveCwnd ≤ sentData ∨
            effectiveCwnd - sentData ≤ asU32 cb.sender.mss then
          .ok (.blocked cb.sender.sendUnacked.changes cb.sender.sendNext.changes
            cb.sender.sendWindow.changes cwnd.changes ltci.changes, cb)
        else
          match reply with
          | .pending => .ok (.querySend sendNext winSz sentData effectiveCwnd, cb)
          | .failed => .ok (.returned, cb)
          | .resolved remoteLinkAddr =>
            sendSegment profile env cb sendNext winSz sentData effectiveCwnd remoteLinkAddr

/-- One round of the coroutine from wherever it is suspended. -/
def round (profile : Profile) (env : Env) (reply : ArpReply) (task : SenderTask)
    (cb : ControlBlock κ ρ) : Checked (SenderTask × ControlBlock κ ρ) :=
  match task with
  | .top => fromTop profile env reply cb
  | .idle unsentSeqChanges sendNextChanges =>
    if cb.sender.unsentSeqNo.changes ≠ unsentSeqChanges ∨
        cb.sender.sendNext.changes ≠ sendNextChanges then .ok (.top, cb)
    else .ok (task, cb)
  | .queryProbe sendNext =>
    match reply with
    | .pending => .ok (task, cb)
    | .failed => .ok (.returned, cb)
    | .resolved remoteLinkAddr => sendProbe profile env cb sendNext remoteLinkAddr
  | .persist sendNext buf remoteLinkAddr windowChanges timeout deadline =>
    if cb.sender.sendWindow.changes ≠ windowChanges then .ok (.top, cb)
    else if env.now < deadline then .ok (task, cb)
    else do
      let header ← cb.tcpHeader profile
      let cb ← cb.emit profile { header with seqNum := sendNext } (some buf) remoteLinkAddr
      .ok (.persist sendNext buf remoteLinkAddr windowChanges (2 * timeout)
        (env.now + 2 * timeout), cb)
  | .blocked sendUnackedChanges sendNextChanges windowChanges cwndChanges ltciChanges =>
    if cb.sender.sendUnacked.changes ≠ sendUnackedChanges ∨
        cb.sender.sendNext.changes ≠ sendNextChanges ∨
        cb.sender.sendWindow.changes ≠ windowChanges ∨
        (CongestionControl.cwnd cb.cc).changes ≠ cwndChanges ∨
        (CongestionControl.limitedTransmitCwndIncrease cb.cc).changes ≠ ltciChanges then
      .ok (.top, cb)
    else .ok (task, cb)
  | .querySend sendNext winSz sentData effectiveCwnd =>
    match reply with
    | .pending => .ok (task, cb)
    | .failed => .ok (.returned, cb)
    | .resolved remoteLinkAddr =>
      sendSegment profile env cb sendNext winSz sentData effectiveCwnd remoteLinkAddr
  | .returned => .ok (.returned, cb)

end SenderTask

namespace ControlBlock

/-- One round of `retransmitter`: a fast retransmission, or one after the timer
has expired, or nothing yet. -/
def retransmitterRound (profile : Profile) (env : Env) (cb : ControlBlock κ ρ) :
    Checked (ControlBlock κ ρ) :=
  if (CongestionControl.retransmitNowFlag cb.cc).value then
    { cb with cc := CongestionControl.onFastRetransmit cb.cc }.retransmit profile env
  else
    match cb.retransmitDeadline with
    | none => .ok cb
    | some deadline =>
      if env.now < deadline then .ok cb
      else do
        let cb := { cb with cc := CongestionControl.onRto cb.sender.sendUnacked.value cb.cc }
        let cb ← cb.retransmit profile env
        let rtoCalculator := RtoCalculator.backOff cb.rtoCalculator
        .ok { cb with
          rtoCalculator
          retransmitDeadline := some (env.now + RtoCalculator.rto rtoCalculator) }

/-- One round of `acknowledger`: send the delayed ACK once its time has come. Where the
link address is not cached, `send_ack` sends nothing and leaves the deadline, so that the
loop finds it expired again and again without ever waiting. -/
def acknowledgerRound (profile : Profile) (env : Env) (cb : ControlBlock κ ρ) :
    Checked (ControlBlock κ ρ) :=
  match cb.ackDeadline with
  | none => .ok cb
  | some deadline =>
    if env.now < deadline then .ok cb
    else do
      let cb ← cb.sendAck profile env
      if env.linkAddr.isNone then .error .neverReturns else .ok cb

end ControlBlock

end Capybara
