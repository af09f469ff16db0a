import Capybara.Tcp.Established.ControlBlockState

/-!
# The exported state travels

Encoder, decoder and size function are three hand-written walks over the same
data. One law ties them together for each record: the encoder fills exactly
`serializedSize` bytes, from which the decoder recovers the record. The time of
the first transmission of an unacknowledged segment does not travel; it is not
part of the equality of exported states either.

`Fits` collects what the format demands: counts and lengths below `2 ^ 32`. An
encoder that returned found them so.
-/

namespace Capybara

open Wire

/-! ## Numbers and addresses -/

/-- A number below 2^32 is read as it was written. -/
theorem putU32_conveys {number : Nat} (fits : number < 2 ^ 32) :
    Conveys (putU32 number) 4 readU32 number := by
  refine ((Conveys.put Fault.sliceOutOfRange (bigEndian 4 number)).andThen ?_).resize
    (bigEndian_length ..)
  rw [ofBigEndian_bigEndian fits]

/-- A number of 16 bits is read as it was written. -/
theorem putU16_conveys (number : UInt16) : Conveys (putU16 number) 2 readU16 number := by
  refine ((Conveys.put Fault.sliceOutOfRange (bigEndian 2 number.toNat)).andThen ?_).resize
    (bigEndian_length ..)
  rw [ofBigEndian_bigEndian number.toNat_lt, UInt16.ofNat_toNat]

/-- A byte is read as it was written. -/
theorem putU8_conveys (number : UInt8) : Conveys (putBytes [number]) 1 readU8 number := by
  refine (Conveys.put Fault.sliceOutOfRange [number]).andThen ?_
  simp [ofBigEndian]

/-- A sequence number is read as it was written. -/
theorem SeqNumber.conveys (number : SeqNumber) :
    Conveys number.serializeInto 4 SeqNumber.deserializeFrom number := by
  refine (putU32_conveys number.value.isLt).andThen ?_
  simp [SeqNumber.ofU32]

/-- An address is read as it was written, in six bytes. -/
theorem SocketAddrV4.conveys (addr : SocketAddrV4) :
    Conveys addr.serializeInto 6 SocketAddrV4.deserializeFrom addr := by
  refine Conveys.resize (.bind (putU32_conveys addr.ip.isLt)
    (.bind (putU16_conveys addr.port) (.pure ?_))) rfl
  simp

/-! ## Buffers, deques and options -/

/-- A buffer is a length with its bytes. -/
theorem Buffer.conveys (profile : Profile) {buffer : Buffer} (fits : buffer.length < 2 ^ 32) :
    Conveys buffer.serializeInto (4 + buffer.length) (Buffer.deserializeFrom profile) buffer := by
  rw [Buffer.serializeInto, if_pos fits]
  refine .bind (putU32_conveys fits) ⟨buffer, rfl, ?_, fun rest => ?_⟩
  · have writes := (Writer.put_writes Fault.sliceOutOfRange buffer).cons .nil
    rwa [List.append_nil] at writes
  · have length : buffer.length ≤ (buffer ++ rest).length := by simp
    have excess : (buffer ++ rest).length - buffer.length ≤ (buffer ++ rest).length := by omega
    have cut : (buffer ++ rest).length - ((buffer ++ rest).length - buffer.length) =
        buffer.length := by omega
    simp only [StateT.run, subUsize, if_pos length, Buffer.trim_of_le excess,
      Buffer.adjust_of_le length, cut, bind, Except.bind, List.take_left, List.drop_left]

/-- A deque is a count with its elements. -/
theorem deque_conveys {α γ : Type} {serialize : α → Serializer} {size : α → Nat}
    {deserialize : Deserializer γ} {result : α → γ} {deque : List α} (fits : deque.length < 2 ^ 32)
    (conveys : ∀ element ∈ deque,
      Conveys (serialize element) (size element) deserialize (result element)) :
    Conveys (serializeDeque serialize deque) (4 + (deque.map size).sum)
      (deserializeDeque deserialize) (deque.map result) := by
  rw [serializeDeque, if_pos fits]
  exact .bind (putU32_conveys fits) (.each conveys)

/-- An option is its discriminant, with the value if there is one. -/
theorem option_conveys {α : Type} {serialize : α → Serializer} {size : Nat}
    {deserialize : Deserializer α} (value : Option α)
    (conveys : ∀ content, Conveys (serialize content) size deserialize content) :
    Conveys (serializeOption serialize value) (1 + if value.isSome then size else 0)
      (deserializeOption deserialize) value := by
  cases value with
  | none => exact (putU8_conveys 0).andThen rfl
  | some content =>
    have held : Conveys (.sequence [serialize content]) (size + 0)
        (deserialize >>= fun value => pure (some value)) (some content) :=
      (conveys content).bind (.pure rfl)
    exact (putU8_conveys 1).bind held

/-! ## The queues -/

/-- The segment without the time of its first transmission, which does not travel. -/
def UnackedSegment.untimed (segment : UnackedSegment) : UnackedSegment :=
  { segment with initialTx := none }

/-- A count and lengths that the format can express. -/
def Expressible {α : Type} (content : α → Buffer) (queue : List α) : Prop :=
  queue.length < 2 ^ 32 ∧ ∀ element ∈ queue, (content element).length < 2 ^ 32

/-- A size counted up by a fold is a sum. -/
theorem foldl_size {α : Type} (fixed : Nat) (content : α → Buffer) (queue : List α) (start : Nat) :
    queue.foldl (fun size element => size + fixed + (content element).length) start =
      start + (queue.map fun element => fixed + (content element).length).sum := by
  induction queue generalizing start with
  | nil => rfl
  | cons element queue inductionHypothesis =>
    rw [List.foldl_cons, inductionHypothesis, List.map_cons, List.sum_cons]
    omega

/-- A queue whose elements are buffers behind a fixed part, with its size as the
source counts it. -/
theorem queue_conveys {α γ : Type} {serialize : α → Serializer} {fixed : Nat}
    {content : α → Buffer} {deserialize : Deserializer γ} {result : α → γ} {queue : List α}
    (fits : Expressible content queue)
    (conveys : ∀ element, (content element).length < 2 ^ 32 →
      Conveys (serialize element) (fixed + (content element).length) deserialize (result element)) :
    Conveys (serializeDeque serialize queue)
      (4 + queue.foldl (fun size element => size + fixed + (content element).length) 0)
      (deserializeDeque deserialize) (queue.map result) := by
  rw [foldl_size, Nat.zero_add]
  exact deque_conveys fits.1 fun element member => conveys element (fits.2 element member)

/-- The queues of buffers are read as they were written. -/
theorem buffers_conveys (profile : Profile) {queue : List Buffer} (fits : Expressible id queue) :
    Conveys (serializeDeque Buffer.serializeInto queue)
      (4 + queue.foldl (fun size buffer => size + 4 + buffer.length) 0)
      (deserializeDeque (Buffer.deserializeFrom profile)) queue := by
  have conveys := queue_conveys fits fun (buffer : Buffer) short => Buffer.conveys profile short
  rwa [List.map_id] at conveys

/-- The unacknowledged segments are read as they were written, without the times of their
transmissions. -/
theorem unacked_conveys (profile : Profile) {queue : List UnackedSegment}
    (fits : Expressible UnackedSegment.bytes queue) :
    Conveys (serializeDeque UnackedSegment.serializeInto queue)
      (4 + queue.foldl (fun size segment => size + 4 + segment.bytes.length) 0)
      (deserializeDeque (UnackedSegment.deserializeFrom profile))
      (queue.map UnackedSegment.untimed) :=
  queue_conveys fits fun _ short => (Buffer.conveys profile short).andThen rfl

/-- The out-of-order store is read as it was written. -/
theorem stored_conveys (profile : Profile) {queue : List (SeqNumber × Buffer)}
    (fits : Expressible Prod.snd queue) :
    Conveys (serializeDeque serializeStored queue)
      (4 + queue.foldl (fun size stored => size + 4 + 4 + stored.2.length) 0)
      (deserializeDeque (deserializeStored profile)) queue := by
  have element (stored : SeqNumber × Buffer) (short : stored.2.length < 2 ^ 32) :
      Conveys (serializeStored stored) (8 + stored.2.length) (deserializeStored profile) (id stored) := by
    refine Conveys.resize (.bind stored.1.conveys (.bind (Buffer.conveys profile short)
      (.pure rfl))) ?_
    omega
  have conveys := queue_conveys fits element
  rwa [List.map_id] at conveys

/-! ## Records -/

/-- The state without the times of first transmission. -/
def SenderState.untimed (state : SenderState) : SenderState :=
  { state with unackedQueue := state.unackedQueue.map UnackedSegment.untimed }

/-- Both queues can be expressed. -/
def SenderState.Fits (state : SenderState) : Prop :=
  Expressible UnackedSegment.bytes state.unackedQueue ∧ Expressible id state.unsentQueue

/-- The sender is read as it was written, without the times of its transmissions. -/
theorem SenderState.conveys (profile : Profile) {state : SenderState} (fits : state.Fits) :
    Conveys state.serializeInto state.serializedSize (SenderState.deserializeFrom profile)
      state.untimed := by
  refine Conveys.resize (.bind state.unsentSeqNo.conveys (.bind state.sendUnacked.conveys
    (.bind state.sendNext.conveys (.bind (putU32_conveys state.sendWindow.toNat_lt)
    (.bind state.sendWindowLastUpdateSeq.conveys (.bind state.sendWindowLastUpdateAck.conveys
    (.bind (putU32_conveys state.mss.toNat_lt) (.bind (putU8_conveys state.windowScale)
    (.bind (unacked_conveys profile fits.1) (.bind (buffers_conveys profile fits.2)
    (.pure ?_))))))))))) ?_
  · simp [SenderState.untimed]
  · rw [SenderState.serializedSize]
    omega

/-- The receiver is read as it was written. -/
theorem ReceiverState.conveys (profile : Profile) {state : ReceiverState}
    (fits : Expressible id state.recvQueue) :
    Conveys state.serializeInto state.serializedSize (ReceiverState.deserializeFrom profile)
      state := by
  refine Conveys.resize (.bind state.readerNext.conveys (.bind state.receiveNext.conveys
    (.bind (buffers_conveys profile fits) (.pure rfl)))) ?_
  rw [ReceiverState.serializedSize]
  omega

/-- The state without the times of first transmission. -/
def ControlBlockState.untimed (state : ControlBlockState) : ControlBlockState :=
  { state with sender := state.sender.untimed }

/-- All counts and lengths can be expressed. -/
def ControlBlockState.Fits (state : ControlBlockState) : Prop :=
  Expressible Prod.snd state.outOfOrderQueue ∧ Expressible id state.receiver.recvQueue ∧
    state.sender.Fits

/-- The encoder fills `serialized_size` bytes, from which the decoder recovers the state. -/
theorem ControlBlockState.conveys (profile : Profile) {state : ControlBlockState}
    (fits : state.Fits) :
    Conveys state.serializeInto state.serializedSize (ControlBlockState.deserializeFrom profile)
      state.untimed := by
  obtain ⟨store, queue, sender⟩ := fits
  refine Conveys.resize (.bind state.localAddr.conveys (.bind state.remote.conveys
    (.bind (putU32_conveys state.receiveBufferSize.toNat_lt)
    (.bind (putU32_conveys state.windowScale.toNat_lt)
    (.bind (option_conveys state.outOfOrderFin SeqNumber.conveys)
    (.bind (stored_conveys profile store) (.bind (ReceiverState.conveys profile queue)
    (.bind (SenderState.conveys profile sender) (.pure ?_))))))))) ?_
  · simp [ControlBlockState.untimed]
  · rw [ControlBlockState.serializedSize]
    omega

/-! ## What a successful encoder found -/

/-- A buffer is written only if its length can be. -/
theorem Buffer.serializeInto_ok {buffer space : Buffer} {result : Buffer × Buffer}
    (wrote : buffer.serializeInto space = .ok result) : buffer.length < 2 ^ 32 := by
  by_contra large
  rw [Buffer.serializeInto, if_neg large] at wrote
  cases wrote

/-- A queue that was written can be expressed. -/
theorem expressible_of_written {α : Type} {serialize : α → Serializer} {content : α → Buffer}
    {queue : List α} {space : Buffer} {result : Buffer × Buffer}
    (wrote : serializeDeque serialize queue space = .ok result)
    (short : ∀ element before after, serialize element before = .ok after →
      (content element).length < 2 ^ 32) : Expressible content queue := by
  by_cases count : queue.length < 2 ^ 32
  · rw [serializeDeque, if_pos count] at wrote
    refine ⟨count, fun element member => ?_⟩
    obtain ⟨before, after, written⟩ := Writer.sequence_ok wrote (serialize element)
      (List.mem_cons_of_mem _ (List.mem_map_of_mem member))
    exact short element before after written
  · rw [serializeDeque, if_neg count] at wrote
    cases wrote

/-- So is an entry of the out-of-order store. -/
theorem stored_short {stored : SeqNumber × Buffer} {before : Buffer} {after : Buffer × Buffer}
    (wrote : serializeStored stored before = .ok after) : stored.2.length < 2 ^ 32 := by
  obtain ⟨_, _, written⟩ := Writer.sequence_ok wrote stored.2.serializeInto (by simp)
  exact Buffer.serializeInto_ok written

/-- An encoder that returned found every count and length below `2 ^ 32`. -/
theorem ControlBlockState.fits_of_written {state : ControlBlockState} {space : Buffer}
    {result : Buffer × Buffer} (wrote : state.serializeInto space = .ok result) : state.Fits := by
  have member := Writer.sequence_ok wrote
  obtain ⟨_, _, store⟩ := member (serializeDeque serializeStored state.outOfOrderQueue) (by simp)
  obtain ⟨_, _, receiver⟩ := member state.receiver.serializeInto (by simp)
  obtain ⟨_, _, sender⟩ := member state.sender.serializeInto (by simp)
  obtain ⟨_, _, queue⟩ := Writer.sequence_ok receiver
    (serializeDeque Buffer.serializeInto state.receiver.recvQueue) (by simp)
  obtain ⟨_, _, unacked⟩ := Writer.sequence_ok sender
    (serializeDeque UnackedSegment.serializeInto state.sender.unackedQueue) (by simp)
  obtain ⟨_, _, unsent⟩ := Writer.sequence_ok sender
    (serializeDeque Buffer.serializeInto state.sender.unsentQueue) (by simp)
  refine ⟨?_, ?_, ?_, ?_⟩
  · exact expressible_of_written store fun _ _ _ => stored_short
  · exact expressible_of_written queue fun _ _ _ => Buffer.serializeInto_ok
  · exact expressible_of_written unacked fun _ _ _ => Buffer.serializeInto_ok
  · exact expressible_of_written unsent fun _ _ _ => Buffer.serializeInto_ok

/-- The time of first transmission does not count for equality. -/
theorem ControlBlockState.eq_untimed (state : ControlBlockState) : state.eq state.untimed = true := by
  have queue : state.sender.unackedQueue.isEqv
      (state.sender.unackedQueue.map UnackedSegment.untimed) UnackedSegment.eq = true := by
    induction state.sender.unackedQueue with
    | nil => rfl
    | cons segment queue inductionHypothesis =>
      simp [List.isEqv, inductionHypothesis, UnackedSegment.eq, UnackedSegment.untimed]
  simp [ControlBlockState.eq, ControlBlockState.untimed, SenderState.eq, SenderState.untimed, queue]

end Capybara
