import Capybara.Tcp.Established.Confinement
import Capybara.TcpMig.Peer

/-!
# The migration peer keeps to itself

The records of migrations, the fragments and the exported states have panics of
their own, but none of those by which a server notices that its tables disagree.
Encoders and decoders are followed piece by piece, the peer function by function.
-/

namespace Capybara

open Wire

/-- Not one of the panics by which tables are found to disagree. -/
def Fault.Local (fault : Fault) : Prop := fault.ofTables = false

/-- A slice that is too short is a fault of the message and not of the tables. -/
theorem Fault.sliceOutOfRange_local : Fault.Local .sliceOutOfRange := rfl

/-! ## The exported state -/

section Decoders

variable {α : Type} (profile : Profile)

/-- Reading a byte may fail on a message that is too short, and on nothing else. -/
theorem readU8_local : readU8.FailsOnly Fault.Local :=
  (Reader.take_failsOnly Fault.sliceOutOfRange_local 1).bind fun _ => .pure _

/-- Reading two bytes may fail on a message that is too short, and on nothing else. -/
theorem readU16_local : readU16.FailsOnly Fault.Local :=
  (Reader.take_failsOnly Fault.sliceOutOfRange_local 2).bind fun _ => .pure _

/-- Reading four bytes may fail on a message that is too short, and on nothing else. -/
theorem readU32_local : readU32.FailsOnly Fault.Local :=
  (Reader.take_failsOnly Fault.sliceOutOfRange_local 4).bind fun _ => .pure _

/-- Reading an address has no fault of the tables, as its two numbers have none. -/
theorem SocketAddrV4.deserializeFrom_local : SocketAddrV4.deserializeFrom.FailsOnly Fault.Local :=
  readU32_local.bind fun _ => readU16_local.bind fun _ => .pure _

/-- Reading a sequence number has no fault of the tables. -/
theorem SeqNumber.deserializeFrom_local : SeqNumber.deserializeFrom.FailsOnly Fault.Local :=
  readU32_local.bind fun _ => .pure _

/-- A subtraction that goes below zero is no fault of the tables. -/
theorem subUsize_local (a b : Nat) : Avoids Fault.ofTables (subUsize profile a b) := by
  unfold subUsize
  split
  · exact .ok _
  split
  · exact .error rfl
  · exact .ok _

/-- Reading a buffer, its length first, has no fault of the tables. -/
theorem Buffer.deserializeFrom_local : (Buffer.deserializeFrom profile).FailsOnly Fault.Local := by
  refine readU32_local.bind fun len buf => ?_
  exact (subUsize_local profile buf.length len).bind fun excess _ =>
    (Buffer.trim_avoids buf excess rfl).bind fun buffer _ =>
      (Buffer.adjust_avoids buf len rfl).bind fun rest _ => .ok (buffer, rest)

/-- A queue is read without a fault of the tables if each of its elements is. -/
theorem deserializeDeque_local {deserialize : Deserializer α}
    (element : deserialize.FailsOnly Fault.Local) :
    (deserializeDeque deserialize).FailsOnly Fault.Local :=
  readU32_local.bind fun size => element.times size

/-- An optional value is read without a fault of the tables if the value is. -/
theorem deserializeOption_local {deserialize : Deserializer α}
    (element : deserialize.FailsOnly Fault.Local) :
    (deserializeOption deserialize).FailsOnly Fault.Local := by
  refine readU8_local.bind fun discriminant => ?_
  split
  · exact .pure none
  · exact element.bind fun _ => .pure _
  · intro elements reason failed
    cases failed
    rfl

/-- Reading an entry of the out-of-order store has no fault of the tables. -/
theorem deserializeStored_local : (deserializeStored profile).FailsOnly Fault.Local :=
  SeqNumber.deserializeFrom_local.bind fun _ =>
    (Buffer.deserializeFrom_local profile).bind fun _ => .pure _

/-- Reading an unacknowledged segment has no fault of the tables. -/
theorem UnackedSegment.deserializeFrom_local :
    (UnackedSegment.deserializeFrom profile).FailsOnly Fault.Local :=
  (Buffer.deserializeFrom_local profile).bind fun _ => .pure _

/-- Reading the sender of a connection has no fault of the tables. -/
theorem SenderState.deserializeFrom_local :
    (SenderState.deserializeFrom profile).FailsOnly Fault.Local :=
  SeqNumber.deserializeFrom_local.bind fun _ => SeqNumber.deserializeFrom_local.bind fun _ =>
    SeqNumber.deserializeFrom_local.bind fun _ => readU32_local.bind fun _ =>
    SeqNumber.deserializeFrom_local.bind fun _ => SeqNumber.deserializeFrom_local.bind fun _ =>
    readU32_local.bind fun _ => readU8_local.bind fun _ =>
    (deserializeDeque_local (UnackedSegment.deserializeFrom_local profile)).bind fun _ =>
    (deserializeDeque_local (Buffer.deserializeFrom_local profile)).bind fun _ => .pure _

/-- Reading the receiver of a connection has no fault of the tables. -/
theorem ReceiverState.deserializeFrom_local :
    (ReceiverState.deserializeFrom profile).FailsOnly Fault.Local :=
  SeqNumber.deserializeFrom_local.bind fun _ => SeqNumber.deserializeFrom_local.bind fun _ =>
    (deserializeDeque_local (Buffer.deserializeFrom_local profile)).bind fun _ => .pure _

/-- Reading a control block has no fault of the tables, since none of its parts has. -/
theorem ControlBlockState.deserializeFrom_local :
    (ControlBlockState.deserializeFrom profile).FailsOnly Fault.Local :=
  SocketAddrV4.deserializeFrom_local.bind fun _ => SocketAddrV4.deserializeFrom_local.bind fun _ =>
    readU32_local.bind fun _ => readU32_local.bind fun _ =>
    (deserializeOption_local SeqNumber.deserializeFrom_local).bind fun _ =>
    (deserializeDeque_local (deserializeStored_local profile)).bind fun _ =>
    (ReceiverState.deserializeFrom_local profile).bind fun _ =>
    (SenderState.deserializeFrom_local profile).bind fun _ => .pure _

/-- A migrated state that arrives is read without a fault of the tables, whatever its bytes are.
-/
theorem TcpState.deserialize_local (buf : Buffer) :
    Avoids Fault.ofTables (TcpState.deserialize profile buf) := by
  refine .bind (ControlBlockState.deserializeFrom_local profile buf) fun read _ => ?_
  obtain ⟨cb, rest⟩ := read
  cases rest with
  | nil => exact .error rfl
  | cons flag rest => exact .ok _

end Decoders

section Encoders

/-- Writing bytes may fail on a buffer that is too short, and on nothing else. -/
theorem putBytes_local (bytes : List UInt8) : (putBytes bytes).FailsOnly Fault.Local :=
  Writer.put_failsOnly Fault.sliceOutOfRange_local bytes

/-- Writing a buffer has no fault of the tables. -/
theorem Buffer.serializeInto_local (buffer : Buffer) : buffer.serializeInto.FailsOnly Fault.Local := by
  unfold Buffer.serializeInto
  split
  · refine Writer.sequence_failsOnly ?_
    simp only [List.forall_mem_cons]
    exact ⟨putBytes_local _, putBytes_local _, by simp⟩
  · exact Writer.fail_failsOnly rfl

/-- A queue is written without a fault of the tables if each of its elements is. -/
theorem serializeDeque_local {α : Type} {serialize : α → Serializer}
    (element : ∀ value, (serialize value).FailsOnly Fault.Local) (deque : List α) :
    (serializeDeque serialize deque).FailsOnly Fault.Local := by
  unfold serializeDeque
  split
  · refine Writer.sequence_failsOnly ?_
    simp only [List.forall_mem_cons, List.forall_mem_map]
    exact ⟨putBytes_local _, fun value _ => element value⟩
  · exact Writer.fail_failsOnly rfl

/-- An optional value is written without a fault of the tables if the value is. -/
theorem serializeOption_local {α : Type} {serialize : α → Serializer}
    (element : ∀ value, (serialize value).FailsOnly Fault.Local) (value : Option α) :
    (serializeOption serialize value).FailsOnly Fault.Local := by
  cases value with
  | none => exact putBytes_local _
  | some content =>
    refine Writer.sequence_failsOnly ?_
    simp only [List.forall_mem_cons]
    exact ⟨putBytes_local _, element content, by simp⟩

/-- Writing an entry of the out-of-order store has no fault of the tables. -/
theorem serializeStored_local (stored : SeqNumber × Buffer) :
    (serializeStored stored).FailsOnly Fault.Local := by
  refine Writer.sequence_failsOnly ?_
  simp only [List.forall_mem_cons]
  exact ⟨putBytes_local _, stored.2.serializeInto_local, by simp⟩

/-- Writing an address has no fault of the tables. -/
theorem SocketAddrV4.serializeInto_local (addr : SocketAddrV4) :
    addr.serializeInto.FailsOnly Fault.Local := by
  refine Writer.sequence_failsOnly ?_
  simp only [List.forall_mem_cons]
  exact ⟨putBytes_local _, putBytes_local _, by simp⟩

/-- Writing the sender of a connection has no fault of the tables. -/
theorem SenderState.serializeInto_local (state : SenderState) :
    state.serializeInto.FailsOnly Fault.Local := by
  refine Writer.sequence_failsOnly ?_
  simp only [List.forall_mem_cons]
  exact ⟨putBytes_local _, putBytes_local _, putBytes_local _, putBytes_local _, putBytes_local _,
    putBytes_local _, putBytes_local _, putBytes_local _,
    serializeDeque_local (fun segment : UnackedSegment => segment.bytes.serializeInto_local) _,
    serializeDeque_local Buffer.serializeInto_local _, by simp⟩

/-- Writing the receiver of a connection has no fault of the tables. -/
theorem ReceiverState.serializeInto_local (state : ReceiverState) :
    state.serializeInto.FailsOnly Fault.Local := by
  refine Writer.sequence_failsOnly ?_
  simp only [List.forall_mem_cons]
  exact ⟨putBytes_local _, putBytes_local _, serializeDeque_local Buffer.serializeInto_local _, by simp⟩

/-- Writing a control block has no fault of the tables, since none of its parts has. -/
theorem ControlBlockState.serializeInto_local (state : ControlBlockState) :
    state.serializeInto.FailsOnly Fault.Local := by
  refine Writer.sequence_failsOnly ?_
  simp only [List.forall_mem_cons]
  exact ⟨state.localAddr.serializeInto_local, state.remote.serializeInto_local, putBytes_local _,
    putBytes_local _, serializeOption_local (fun _ => putBytes_local _) _,
    serializeDeque_local serializeStored_local _, state.receiver.serializeInto_local,
    state.sender.serializeInto_local, by simp⟩

/-- Writing the first byte of a buffer has no fault of the tables. -/
theorem setFirst_local (byte : UInt8) (buf : Buffer) : Avoids Fault.ofTables (setFirst byte buf) := by
  cases buf with
  | nil => exact .error rfl
  | cons first rest => exact .ok _

/-- Writing what the application migrates has no fault of the tables. -/
theorem MigratedApplicationState.fill_local (appState : MigratedApplicationState) (remaining : Buffer) :
    Avoids Fault.ofTables (appState.fill remaining) := by
  cases appState with
  | registered application =>
    by_cases empty : application.serializedSize = 0
    · simp only [fill, if_pos empty]
      exact setFirst_local 0 remaining
    · simp only [fill, if_neg empty]
      exact .bind (setFirst_local 1 remaining) fun _ _ => .ok _
  | none | migratedIn _ => exact setFirst_local 0 remaining

/-- A state that migrates is written without a fault of the tables. -/
theorem TcpState.serialize_local (state : TcpState) : Avoids Fault.ofTables state.serialize :=
  .bind (fun fault failed => state.cb.serializeInto_local _ fault failed) fun _ _ =>
    .bind (state.appState.fill_local _) fun _ _ => .ok _

/-- Taking the state out of a control block may find an unacknowledged segment without data,
which is no fault of the tables. -/
theorem ControlBlockState.ofControlBlock_local {κ ρ : Type} (cb : ControlBlock κ ρ) :
    Avoids Fault.ofTables (ControlBlockState.ofControlBlock cb) := by
  refine .bind ?_ fun _ _ => .ok _
  unfold SenderState.ofSender
  split
  · exact .ok _
  · exact .error rfl

end Encoders

/-! ## Fragments -/

section Fragments

variable (profile : Profile)

/-- Cutting off a fragment has no fault of the tables. -/
theorem TcpMigFragmenter.next_local (fragmenter : TcpMigFragmenter) :
    Avoids Fault.ofTables (fragmenter.next profile) := by
  unfold next
  dsimp only
  split
  · exact .ok _
  refine .bind ?_ fun cut _ => .bind ?_ fun _ _ => .ok _
  · split
    · exact .ok _
    · exact .bind (Buffer.trim_avoids _ _ rfl) fun _ _ =>
        .bind (Buffer.adjust_avoids _ _ rfl) fun _ _ => .ok _
  · unfold addU16
    split
    · exact .ok _
    split
    · exact .error rfl
    · exact .ok _

/-- Cutting a message into fragments has none, by induction on the rounds of the loop. -/
theorem TcpMigFragmenter.collect_local (rounds : Nat) (fragmenter : TcpMigFragmenter) :
    Avoids Fault.ofTables (fragmenter.collect profile rounds) := by
  induction rounds generalizing fragmenter with
  | zero => exact .error rfl
  | succ rounds inductionHypothesis =>
    refine .bind (fragmenter.next_local profile) fun next _ => ?_
    cases next with
    | none => exact .ok _
    | some next => exact .bind (inductionHypothesis next.2) fun _ _ => .ok _

/-- Putting the fragments together has no fault of the tables. -/
theorem TcpMigDefragmenter.join_local (size : Nat) (fragments : List Buffer) :
    Avoids Fault.ofTables (join size fragments) := by
  unfold join
  split
  · exact .error rfl
  refine .bind ?_ fun _ _ => .ok _
  refine Writer.sequence_failsOnly ?_ _
  simp only [List.forall_mem_map]
  intro fragment _
  exact Writer.put_failsOnly Fault.sliceOutOfRange_local fragment

/-- Taking a fragment in has no fault of the tables, whether it completes the message or not. -/
theorem TcpMigDefragmenter.defragment_local (defragmenter : TcpMigDefragmenter) (hdr : TcpMigHeader)
    (buf : Buffer) : Avoids Fault.ofTables (defragmenter.defragment profile hdr buf) := by
  unfold defragment
  split
  · exact .ok _
  refine .bind (.bind ?_ fun _ _ => .ok _) fun gathered _ => ?_
  · unfold count
    split
    · exact .ok _
    · refine .bind (.bind (subUsize_local profile _ _) fun additional _ => ?_) fun _ _ => .ok _
      split
      · exact .ok _
      · exact .error rfl
  · unfold release
    split
    · exact .ok _
    · exact .bind (join_local _ _) fun _ _ => .ok _

end Fragments

/-! ## Records and the peer -/

section Peer

variable (profile : Profile)

namespace ActiveMigration

/-- Sending a message of a migration, in fragments if it is long, has no fault of the tables. -/
theorem send_local (active : ActiveMigration) (tcpmigHdr : TcpMigHeader) (buf : Buffer) :
    Avoids Fault.ofTables (active.send profile tcpmigHdr buf) := by
  unfold send
  split
  · exact .error rfl
  · exact TcpMigFragmenter.collect_local profile _ _

/-- The origin of a migration that has not been answered yet takes any message without a fault
of the tables. -/
theorem processFresh_local (active : ActiveMigration) (hdr : TcpMigHeader) :
    Avoids Fault.ofTables (active.processFresh profile hdr) := by
  unfold processFresh
  split
  · exact .bind (send_local profile _ _ _) fun _ _ => .ok _
  · exact .ok _

/-- A migration that waits for the target takes any message without a fault of the tables. -/
theorem processPreparing_local (active : ActiveMigration) (hdr : TcpMigHeader) :
    Avoids Fault.ofTables (active.processPreparing hdr) := by
  unfold processPreparing
  split
  · dsimp only
    split
    · exact .ok _
    · exact .error rfl
  · exact .ok _
  · exact .ok _

/-- A target that waits for the state takes any message without a fault of the tables. -/
theorem processPrepared_local (active : ActiveMigration) (hdr : TcpMigHeader) (buf : Buffer) :
    Avoids Fault.ofTables (active.processPrepared profile hdr buf) := by
  unfold processPrepared
  split
  · refine .bind (TcpMigDefragmenter.defragment_local profile _ _ _) fun result _ => ?_
    obtain ⟨defragmenter, whole⟩ := result
    cases whole with
    | none => exact .ok _
    | some whole =>
      exact .bind (TcpState.deserialize_local profile _) fun _ _ =>
        .bind (send_local profile _ _ _) fun _ _ => .ok _
  · exact .ok _

/-- A migration takes any message in any of its states without a fault of the tables. -/
theorem processPacket_local (active : ActiveMigration) (hdr : TcpMigHeader) (buf : Buffer) :
    Avoids Fault.ofTables (active.processPacket profile hdr buf) := by
  unfold processPacket
  split
  · exact processFresh_local profile active hdr
  · exact processPreparing_local active hdr
  · exact processPrepared_local profile active hdr buf
  · unfold processExported
    split
    · exact .ok _
    · exact .ok _
  · exact .ok _
  · exact .error rfl
  · exact .error rfl
  · exact .error rfl

end ActiveMigration

namespace TcpMigPeer

/-- What the peer does with the result of a message has no fault of the tables: it removes
entries that are there and adds some. -/
theorem conclude_local (peer : TcpMigPeer) (remote : SocketAddrV4) (status : TcpmigReceiveStatus) :
    Avoids Fault.ofTables (peer.conclude remote status) := by
  cases status with
  | stateReceived state =>
    unfold conclude
    dsimp only
    split
    · exact .ok _
    · exact .ok _
  | heartbeatResponse _ => exact .error rfl
  | returnedBySwitch _ _ => exact .error rfl
  | _ => exact .ok _

/-- A parsed message is handled without a fault of the tables, whether it belongs to a migration
that goes on or begins one. -/
theorem dispatch_local (peer : TcpMigPeer) (hdr : TcpMigHeader) (buf : Buffer) :
    Avoids Fault.ofTables (peer.dispatch profile hdr buf) := by
  unfold dispatch
  split
  · exact .error rfl
  · refine .bind (ActiveMigration.processPacket_local profile _ _ _) fun reaction _ => ?_
    obtain ⟨active, sent, status⟩ := reaction
    cases status with
    | error fail => exact .ok _
    | ok status => exact conclude_local _ _ _

/-- Whatever arrives, the migration peer has no fault of the tables. -/
theorem receive_local (peer : TcpMigPeer) (ipv4Hdr : Ipv4Header) (buf : Buffer) :
    Avoids Fault.ofTables (peer.receive profile ipv4Hdr buf) := by
  unfold receive
  split
  · exact .ok _
  unfold receiveMessage
  split
  · split
    · exact .error rfl
    · exact .ok _
  split
  · split
    · exact .ok _
    · exact dispatch_local profile _ _ _
  · exact dispatch_local profile _ _ _

/-- Beginning a migration has no fault of the tables. -/
theorem initiateMigration_local (peer : TcpMigPeer) (conn : SocketAddrV4 × SocketAddrV4) (qd : QDesc) :
    Avoids Fault.ofTables (peer.initiateMigration profile conn qd) := by
  unfold initiateMigration
  split
  · exact .error rfl
  refine .bind ?_ fun _ _ => .ok _
  unfold ActiveMigration.initiateMigration
  split
  · exact .error rfl
  · exact .bind (ActiveMigration.send_local profile _ _ _) fun _ _ => .ok _

/-- Sending the state of a connection has no fault of the tables. The entry of its migration may
be missing, which is a fault of the migration. -/
theorem sendTcpState_local (peer : TcpMigPeer) (state : TcpState) :
    Avoids Fault.ofTables (peer.sendTcpState profile state) := by
  unfold sendTcpState
  dsimp only
  split
  · exact .error rfl
  refine .bind ?_ fun _ _ => .ok _
  unfold ActiveMigration.sendConnectionState
  split
  · exact .error rfl
  · exact .bind (TcpState.serialize_local _) fun _ _ =>
      .bind (ActiveMigration.send_local profile _ _ _) fun _ _ => .ok _

end TcpMigPeer

end Peer

end Capybara
