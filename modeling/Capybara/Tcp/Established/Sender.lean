import Capybara.Tcp.Segment
import Capybara.Tcp.Established.CongestionControl

/-!
# The send side of an established connection

`established/sender.rs`. Bytes wait in the unsent queue until they are
transmitted and in the unacknowledged queue until the peer acknowledges them. In
both queues an empty buffer stands for the FIN. The routines that need the whole
control block are in `Capybara.Tcp.Established.ControlBlock`.
-/

namespace Capybara

/-- `UnackedSegment`. -/
structure UnackedSegment where
  bytes : Buffer
  initialTx : Option Instant
  deriving DecidableEq, Repr

/-- `UNSENT_QUEUE_CUTOFF`. -/
def UNSENT_QUEUE_CUTOFF : Nat := 1024

/-- `Sender`. -/
structure Sender where
  sendUnacked : WatchedValue SeqNumber
  unackedQueue : List UnackedSegment
  sendNext : WatchedValue SeqNumber
  unsentQueue : List Buffer
  unsentSeqNo : WatchedValue SeqNumber
  sendWindow : WatchedValue UInt32
  sendWindowLastUpdateSeq : SeqNumber
  sendWindowLastUpdateAck : SeqNumber
  windowScale : UInt8
  mss : Nat
  deriving DecidableEq, Repr

namespace Sender

/-- `Sender::new`. -/
def new (seqNo : SeqNumber) (sendWindow : UInt32) (windowScale : UInt8) (mss : Nat) : Sender where
  sendUnacked := { value := seqNo }
  unackedQueue := []
  sendNext := { value := seqNo }
  unsentQueue := []
  unsentSeqNo := { value := seqNo }
  sendWindow := { value := sendWindow }
  sendWindowLastUpdateSeq := seqNo
  sendWindowLastUpdateAck := seqNo
  windowScale := windowScale
  mss := mss

/-- `modify_send_next(|s| s + n)`. -/
def advanceSendNext (sender : Sender) (n : Nat) : Sender :=
  { sender with sendNext := sender.sendNext.set (sender.sendNext.value + SeqNumber.ofU32 n) }

/-- `push_unacked_segment`. -/
def pushUnackedSegment (sender : Sender) (segment : UnackedSegment) : Sender :=
  { sender with unackedQueue := sender.unackedQueue ++ [segment] }

/-- The loop of `remove_acknowledged_data`: drop acknowledged numbers from the
front of the queue, feeding the timeout calculator. Each round removes the front
segment or stops, so the recursion is on the queue; with numbers left and no
segment the source either fails its assertion or pops the empty queue forever. -/
def removeAcknowledged {ρ : Type} [RtoCalculator ρ] (profile : Profile) (now : Instant) :
    List UnackedSegment → Nat → ρ → Checked (List UnackedSegment × ρ)
  | [], bytesRemaining, rto =>
    if bytesRemaining = 0 then .ok ([], rto)
    else if profile.checks then .error .unackedQueueEmpty
    else .error .neverReturns
  | segment :: rest, bytesRemaining, rto =>
    if bytesRemaining = 0 then .ok (segment :: rest, rto)
    else
      let rto := match segment.initialTx with
        | some initialTx => RtoCalculator.addSample (now - initialTx) rto
        | none => rto
      if segment.bytes.length > bytesRemaining then do
        -- Only some of the data in this segment has been acknowledged.
        let bytes ← segment.bytes.adjust bytesRemaining
        .ok ({ bytes, initialTx := none } :: rest, rto)
      else if segment.bytes.length = 0 then do
        -- The end-of-send marker ends the loop whatever number remains.
        debugAssert profile (bytesRemaining == 1) .finNotLast
        .ok (rest, rto)
      else removeAcknowledged profile now rest (bytesRemaining - segment.bytes.length) rto

/-- `pop_one_unsent_byte`: the first byte of the front buffer, and the queue
with that byte removed. -/
def popOneUnsentByte : List Buffer → Checked (Option (Buffer × List Buffer))
  | [] => .ok none
  | buf :: rest => do
    let remaining ← buf.adjust 1
    let cloned ← buf.trim (buf.length - 1)
    .ok (some (cloned, remaining :: rest))

/-- `pop_unsent`: the front buffer, cut to `maxBytes`, whether it was the whole
buffer, and the remaining queue. -/
def popUnsent (maxBytes : Nat) : List Buffer → Checked (Option (Buffer × Bool × List Buffer))
  | [] => .ok none
  | buf :: rest =>
    if buf.length > maxBytes then do
      let remaining ← buf.adjust maxBytes
      let cloned ← buf.trim (buf.length - maxBytes)
      .ok (some (cloned, false, remaining :: rest))
    else .ok (some (buf, true, rest))

/-- `top_size_unsent`. -/
def topSizeUnsent (sender : Sender) : Option Nat := sender.unsentQueue.head?.map List.length

/-- `update_send_window`: accept the advertised window unless it is older than
the one in use. -/
def updateSendWindow (profile : Profile) (sender : Sender) (header : TcpHeader) : Checked Sender :=
  if sender.sendWindowLastUpdateSeq.lt header.seqNum ||
      (sender.sendWindowLastUpdateSeq == header.seqNum &&
        sender.sendWindowLastUpdateAck.le header.ackNum) then do
    let window ← shlU32 profile header.windowSize.toNat sender.windowScale.toNat
    .ok { sender with
      sendWindow := sender.sendWindow.set (UInt32.ofNat window)
      sendWindowLastUpdateSeq := header.seqNum
      sendWindowLastUpdateAck := header.ackNum }
  else .ok sender

end Sender

end Capybara
