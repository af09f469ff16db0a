import Capybara.Lib.Wire
import Capybara.Tcp.Established.ControlBlock

/-!
# The exported state of a connection

The `state` modules of `established/ctrlblk.rs` and `established/sender.rs`. A
connection that migrates is taken apart into a `ControlBlockState`, written to
bytes, read back by another server and rebuilt into a control block.

The source indexes into the fixed part of each record and then cuts it off; here
the same ranges are written and read one after the other, and a range that does
not exist fails at the same place. `serializedSize` is a third walk over the same
data and is kept as the source computes it.
-/

namespace Capybara

open Wire

/-- `Serialize::serialize_into`: write into the buffer, return its unused part. -/
abbrev Serializer := Wire.Writer Fault UInt8

/-- `Deserialize::deserialize_from`: read and remove from the front of the buffer. -/
abbrev Deserializer := Wire.Reader Fault UInt8

/-! ## Slices -/

/-- `buf[..n].copy_from_slice(bytes)`, continuing behind it. -/
def putBytes (bytes : List UInt8) : Serializer := Writer.put .sliceOutOfRange bytes

/-- `to_be_bytes` of a `u16`. -/
def putU16 (number : UInt16) : Serializer := putBytes (bigEndian 2 number.toNat)

/-- `to_be_bytes` of a `u32`. -/
def putU32 (number : Nat) : Serializer := putBytes (bigEndian 4 number)

/-- `buf[..n]`, continuing behind it. -/
def takeBytes (count : Nat) : Deserializer Buffer := Reader.take .sliceOutOfRange count

/-- `buf[0]`, continuing behind it. -/
def readU8 : Deserializer UInt8 := do
  let bytes ← takeBytes 1
  pure (UInt8.ofNat (ofBigEndian bytes))

/-- `BigEndian::read_u16`. -/
def readU16 : Deserializer UInt16 := do
  let bytes ← takeBytes 2
  pure (UInt16.ofNat (ofBigEndian bytes))

/-- `BigEndian::read_u32`. -/
def readU32 : Deserializer Nat := do
  let bytes ← takeBytes 4
  pure (ofBigEndian bytes)

/-- `SocketAddrV4`: the four octets of the address and the port. -/
def SocketAddrV4.serializeInto (addr : SocketAddrV4) : Serializer :=
  Writer.sequence [putU32 addr.ip.toNat, putU16 addr.port]

/-- `SocketAddrV4::new` from its six bytes. -/
def SocketAddrV4.deserializeFrom : Deserializer SocketAddrV4 := do
  let ip ← readU32
  let port ← readU16
  pure ⟨BitVec.ofNat 32 ip, port⟩

/-! ## The generic formats -/

/-- `Serialize for SeqNumber`. -/
def SeqNumber.serializeInto (number : SeqNumber) : Serializer := putU32 number.toU32

/-- `Deserialize for SeqNumber`. -/
def SeqNumber.deserializeFrom : Deserializer SeqNumber := do
  let number ← readU32
  pure (SeqNumber.ofU32 number)

/-- `Serialize for Buffer`. -/
def Buffer.serializeInto (buffer : Buffer) : Serializer :=
  if buffer.length < 2 ^ 32 then Writer.sequence [putU32 buffer.length, putBytes buffer]
  else Writer.fail .bufferTooBig

/-- `Deserialize for Buffer`: a clone cut to the length, and the rest. -/
def Buffer.deserializeFrom (profile : Profile) : Deserializer Buffer := do
  let len ← readU32
  fun buf => do
    let excess ← subUsize profile buf.length len
    let buffer ← Buffer.trim buf excess
    let rest ← Buffer.adjust buf len
    .ok (buffer, rest)

/-- `Serialize for VecDeque<T>`. -/
def serializeDeque {α : Type} (serialize : α → Serializer) (deque : List α) : Serializer :=
  if deque.length < 2 ^ 32 then Writer.sequence (putU32 deque.length :: deque.map serialize)
  else Writer.fail .dequeTooBig

/-- `Deserialize for VecDeque<T>`. -/
def deserializeDeque {α : Type} (deserialize : Deserializer α) : Deserializer (List α) := do
  let size ← readU32
  Reader.times size deserialize

/-- `Serialize for Option<T>`. -/
def serializeOption {α : Type} (serialize : α → Serializer) : Option α → Serializer
  | some value => Writer.sequence [putBytes [1], serialize value]
  | none => putBytes [0]

/-- `Deserialize for Option<T>`. -/
def deserializeOption {α : Type} (deserialize : Deserializer α) : Deserializer (Option α) := do
  let discriminant ← readU8
  match discriminant with
  | 0 => pure none
  | 1 => do
    let value ← deserialize
    pure (some value)
  | _ => throw .invalidDiscriminant

/-- `Serialize for (SeqNumber, Buffer)`. -/
def serializeStored (stored : SeqNumber × Buffer) : Serializer :=
  Writer.sequence [stored.1.serializeInto, stored.2.serializeInto]

/-- `Deserialize for (SeqNumber, Buffer)`. -/
def deserializeStored (profile : Profile) : Deserializer (SeqNumber × Buffer) := do
  let seq ← SeqNumber.deserializeFrom
  let buffer ← Buffer.deserializeFrom profile
  pure (seq, buffer)

/-- `Serialize for UnackedSegment`: the time of its first transmission is dropped. -/
def UnackedSegment.serializeInto (segment : UnackedSegment) : Serializer :=
  segment.bytes.serializeInto

/-- `Deserialize for UnackedSegment`. -/
def UnackedSegment.deserializeFrom (profile : Profile) : Deserializer UnackedSegment := do
  let bytes ← Buffer.deserializeFrom profile
  pure { bytes, initialTx := none }

/-- `PartialEq for UnackedSegment`. -/
def UnackedSegment.eq (left right : UnackedSegment) : Bool := left.bytes == right.bytes

/-! ## The send side -/

/-- `SenderState`. -/
structure SenderState where
  unsentSeqNo : SeqNumber
  sendUnacked : SeqNumber
  sendNext : SeqNumber
  sendWindow : UInt32
  sendWindowLastUpdateSeq : SeqNumber
  sendWindowLastUpdateAck : SeqNumber
  mss : UInt32
  windowScale : UInt8
  unackedQueue : List UnackedSegment
  unsentQueue : List Buffer
  deriving DecidableEq, Repr

namespace SenderState

/-- `From<&Sender> for SenderState`. -/
def ofSender (sender : Sender) : Checked SenderState :=
  if sender.mss < 2 ^ 32 then .ok {
    unsentSeqNo := sender.unsentSeqNo.value
    sendUnacked := sender.sendUnacked.value
    sendNext := sender.sendNext.value
    sendWindow := sender.sendWindow.value
    sendWindowLastUpdateSeq := sender.sendWindowLastUpdateSeq
    sendWindowLastUpdateAck := sender.sendWindowLastUpdateAck
    mss := UInt32.ofNat sender.mss
    windowScale := sender.windowScale
    unackedQueue := sender.unackedQueue
    unsentQueue := sender.unsentQueue }
  else .error .mssTooBig

/-- `From<SenderState> for Sender`. -/
def toSender (state : SenderState) : Sender where
  sendUnacked := { value := state.sendUnacked }
  unackedQueue := state.unackedQueue
  sendNext := { value := state.sendNext }
  unsentQueue := state.unsentQueue
  unsentSeqNo := { value := state.unsentSeqNo }
  sendWindow := { value := state.sendWindow }
  sendWindowLastUpdateSeq := state.sendWindowLastUpdateSeq
  sendWindowLastUpdateAck := state.sendWindowLastUpdateAck
  windowScale := state.windowScale
  mss := state.mss.toNat

/-- `Serialize for SenderState`. -/
def serializeInto (state : SenderState) : Serializer :=
  Writer.sequence [
    state.unsentSeqNo.serializeInto,
    state.sendUnacked.serializeInto,
    state.sendNext.serializeInto,
    putU32 state.sendWindow.toNat,
    state.sendWindowLastUpdateSeq.serializeInto,
    state.sendWindowLastUpdateAck.serializeInto,
    putU32 state.mss.toNat,
    putBytes [state.windowScale],
    serializeDeque UnackedSegment.serializeInto state.unackedQueue,
    serializeDeque Buffer.serializeInto state.unsentQueue]

/-- `Deserialize for SenderState`. -/
def deserializeFrom (profile : Profile) : Deserializer SenderState := do
  let unsentSeqNo ← SeqNumber.deserializeFrom
  let sendUnacked ← SeqNumber.deserializeFrom
  let sendNext ← SeqNumber.deserializeFrom
  let sendWindow ← readU32
  let sendWindowLastUpdateSeq ← SeqNumber.deserializeFrom
  let sendWindowLastUpdateAck ← SeqNumber.deserializeFrom
  let mss ← readU32
  let windowScale ← readU8
  let unackedQueue ← deserializeDeque (UnackedSegment.deserializeFrom profile)
  let unsentQueue ← deserializeDeque (Buffer.deserializeFrom profile)
  pure {
    unsentSeqNo, sendUnacked, sendNext, sendWindow := UInt32.ofNat sendWindow
    sendWindowLastUpdateSeq, sendWindowLastUpdateAck, mss := UInt32.ofNat mss
    windowScale, unackedQueue, unsentQueue }

/-- `SenderState::serialized_size`. -/
def serializedSize (state : SenderState) : Nat :=
  29
  + 4 + state.unackedQueue.foldl (fun size segment => size + 4 + segment.bytes.length) 0
  + 4 + state.unsentQueue.foldl (fun size buffer => size + 4 + buffer.length) 0

/-- `PartialEq for SenderState`, derived from that of its fields. -/
def eq (left right : SenderState) : Bool :=
  left.unsentSeqNo == right.unsentSeqNo && left.sendUnacked == right.sendUnacked &&
  left.sendNext == right.sendNext && left.sendWindow == right.sendWindow &&
  left.sendWindowLastUpdateSeq == right.sendWindowLastUpdateSeq &&
  left.sendWindowLastUpdateAck == right.sendWindowLastUpdateAck && left.mss == right.mss &&
  left.windowScale == right.windowScale &&
  left.unackedQueue.isEqv right.unackedQueue UnackedSegment.eq &&
  left.unsentQueue == right.unsentQueue

end SenderState

/-! ## The receive side -/

/-- `ReceiverState`. -/
structure ReceiverState where
  readerNext : SeqNumber
  receiveNext : SeqNumber
  recvQueue : List Buffer
  deriving DecidableEq, Repr

namespace ReceiverState

/-- `From<&Receiver> for ReceiverState`. -/
def ofReceiver (receiver : Receiver) : ReceiverState where
  readerNext := receiver.readerNext
  receiveNext := receiver.receiveNext
  recvQueue := receiver.recvQueue

/-- `Receiver::from_state`. -/
def toReceiver (state : ReceiverState) : Receiver where
  readerNext := state.readerNext
  receiveNext := state.receiveNext
  recvQueue := state.recvQueue

/-- `Serialize for ReceiverState`. -/
def serializeInto (state : ReceiverState) : Serializer :=
  Writer.sequence [
    state.readerNext.serializeInto,
    state.receiveNext.serializeInto,
    serializeDeque Buffer.serializeInto state.recvQueue]

/-- `Deserialize for ReceiverState`. -/
def deserializeFrom (profile : Profile) : Deserializer ReceiverState := do
  let readerNext ← SeqNumber.deserializeFrom
  let receiveNext ← SeqNumber.deserializeFrom
  let recvQueue ← deserializeDeque (Buffer.deserializeFrom profile)
  pure { readerNext, receiveNext, recvQueue }

/-- `ReceiverState::serialized_size`. -/
def serializedSize (state : ReceiverState) : Nat :=
  8 + 4 + state.recvQueue.foldl (fun size buffer => size + 4 + buffer.length) 0

end ReceiverState

/-! ## The control block -/

/-- `ControlBlockState`. -/
structure ControlBlockState where
  localAddr : SocketAddrV4
  remote : SocketAddrV4
  receiveBufferSize : UInt32
  windowScale : UInt32
  outOfOrderFin : Option SeqNumber
  outOfOrderQueue : List (SeqNumber × Buffer)
  receiver : ReceiverState
  sender : SenderState
  deriving DecidableEq, Repr

namespace ControlBlockState

/-- `From<&ControlBlock> for ControlBlockState`. -/
def ofControlBlock {κ ρ : Type} (cb : ControlBlock κ ρ) : Checked ControlBlockState := do
  let sender ← SenderState.ofSender cb.sender
  .ok {
    localAddr := cb.localAddr
    remote := cb.remote
    receiveBufferSize := cb.receiveBufferSize
    windowScale := cb.windowScale
    outOfOrderFin := cb.outOfOrderFin
    outOfOrderQueue := cb.outOfOrder
    receiver := ReceiverState.ofReceiver cb.receiver
    sender }

/-- `set_local`. -/
def setLocal (state : ControlBlockState) (localAddr : SocketAddrV4) : ControlBlockState :=
  { state with localAddr }

/-- `Serialize for ControlBlockState`. -/
def serializeInto (state : ControlBlockState) : Serializer :=
  Writer.sequence [
    state.localAddr.serializeInto,
    state.remote.serializeInto,
    putU32 state.receiveBufferSize.toNat,
    putU32 state.windowScale.toNat,
    serializeOption SeqNumber.serializeInto state.outOfOrderFin,
    serializeDeque serializeStored state.outOfOrderQueue,
    state.receiver.serializeInto,
    state.sender.serializeInto]

/-- `Deserialize for ControlBlockState`. -/
def deserializeFrom (profile : Profile) : Deserializer ControlBlockState := do
  let localAddr ← SocketAddrV4.deserializeFrom
  let remote ← SocketAddrV4.deserializeFrom
  let receiveBufferSize ← readU32
  let windowScale ← readU32
  let outOfOrderFin ← deserializeOption SeqNumber.deserializeFrom
  let outOfOrderQueue ← deserializeDeque (deserializeStored profile)
  let receiver ← ReceiverState.deserializeFrom profile
  let sender ← SenderState.deserializeFrom profile
  pure {
    localAddr, remote, receiveBufferSize := UInt32.ofNat receiveBufferSize
    windowScale := UInt32.ofNat windowScale, outOfOrderFin, outOfOrderQueue, receiver, sender }

/-- `ControlBlockState::serialized_size`. -/
def serializedSize (state : ControlBlockState) : Nat :=
  20
  + 1 + (if state.outOfOrderFin.isSome then 4 else 0)
  + 4 + state.outOfOrderQueue.foldl (fun size stored => size + 4 + 4 + stored.2.length) 0
  + state.receiver.serializedSize
  + state.sender.serializedSize

/-- `PartialEq for ControlBlockState`, derived from that of its fields. -/
def eq (left right : ControlBlockState) : Bool :=
  left.localAddr == right.localAddr && left.remote == right.remote &&
  left.receiveBufferSize == right.receiveBufferSize && left.windowScale == right.windowScale &&
  left.outOfOrderFin == right.outOfOrderFin && left.outOfOrderQueue == right.outOfOrderQueue &&
  left.receiver == right.receiver && left.sender.eq right.sender

end ControlBlockState

/-- What a server contributes to a control block that it rebuilds. -/
structure Importer where
  localLinkAddr : MacAddress
  txChecksumOffload : Bool
  ackDelayTimeout : Duration
  deriving DecidableEq, Repr

/-- `ControlBlock::from_state`: everything that the state does not carry starts anew. -/
def ControlBlock.fromState {κ ρ : Type} [CongestionControl κ] [RtoCalculator ρ]
    (importer : Importer) (state : ControlBlockState) : ControlBlock κ ρ where
  localAddr := state.localAddr
  remote := state.remote
  localLinkAddr := importer.localLinkAddr
  txChecksumOffload := importer.txChecksumOffload
  sender := state.sender.toSender
  state := .established
  ackDelayTimeout := importer.ackDelayTimeout
  ackDeadline := none
  receiveBufferSize := state.receiveBufferSize
  windowScale := state.windowScale
  waker := none
  outOfOrder := state.outOfOrderQueue
  outOfOrderFin := state.outOfOrderFin
  receiver := state.receiver.toReceiver
  userIsDoneSending := false
  cc := CongestionControl.new state.sender.mss.toNat state.sender.sendUnacked
  retransmitDeadline := none
  rtoCalculator := RtoCalculator.new
  statsEnabled := false
  transmitted := []
  woken := []

end Capybara
