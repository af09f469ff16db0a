import Capybara.Tcp.TcpState
import Capybara.Tcp.Established.Connection

/-!
# What survives a migration

`migrate_out_connection` exports a control block, the bytes travel, and
`migrate_in_connection` rebuilds a control block on another server. The exported
state has no field for the connection state, nor for whether the user is done
sending: the rebuilt control block is always established and open. Everything else
that later receiving, sending and closing depend on is carried over, whatever it
is, as long as the format can express its counts and lengths.
-/

namespace Capybara

variable {κ ρ : Type} [CongestionControl κ] [RtoCalculator ρ]

namespace ControlBlock

/-- Export, serialise, deserialise and rebuild under a local address of the importer. -/
def migrate (profile : Profile) (application : Option ApplicationState) (importer : Importer)
    (localAddr : SocketAddrV4) (cb : ControlBlock κ ρ) : Checked (ControlBlock κ ρ) := do
  let state ← ControlBlockState.ofControlBlock cb
  let buffer ← ((TcpState.new state).withApplication application).serialize
  let received ← TcpState.deserialize profile buffer
  .ok (fromState importer (received.setLocal localAddr).cb)

/-- Agreement on everything that later behaviour depends on, the local address apart. -/
structure Agrees (rebuilt original : ControlBlock κ ρ) : Prop where
  state : rebuilt.state = original.state
  userIsDoneSending : rebuilt.userIsDoneSending = original.userIsDoneSending
  remote : rebuilt.remote = original.remote
  receiveBufferSize : rebuilt.receiveBufferSize = original.receiveBufferSize
  windowScale : rebuilt.windowScale = original.windowScale
  receiver : rebuilt.receiver = original.receiver
  outOfOrder : rebuilt.outOfOrder = original.outOfOrder
  outOfOrderFin : rebuilt.outOfOrderFin = original.outOfOrderFin
  sendUnacked : rebuilt.sender.sendUnacked.value = original.sender.sendUnacked.value
  sendNext : rebuilt.sender.sendNext.value = original.sender.sendNext.value
  unsentSeqNo : rebuilt.sender.unsentSeqNo.value = original.sender.unsentSeqNo.value
  sendWindow : rebuilt.sender.sendWindow.value = original.sender.sendWindow.value
  sendWindowLastUpdateSeq :
    rebuilt.sender.sendWindowLastUpdateSeq = original.sender.sendWindowLastUpdateSeq
  sendWindowLastUpdateAck :
    rebuilt.sender.sendWindowLastUpdateAck = original.sender.sendWindowLastUpdateAck
  senderWindowScale : rebuilt.sender.windowScale = original.sender.windowScale
  mss : rebuilt.sender.mss = original.sender.mss
  unackedQueue : rebuilt.sender.unackedQueue.map UnackedSegment.bytes =
    original.sender.unackedQueue.map UnackedSegment.bytes
  unsentQueue : rebuilt.sender.unsentQueue = original.sender.unsentQueue

/-- What the format can express of a control block. -/
def Exportable (cb : ControlBlock κ ρ) : Prop :=
  cb.sender.mss < 2 ^ 32 ∧ Expressible Prod.snd cb.outOfOrder ∧
    Expressible id cb.receiver.recvQueue ∧
    Expressible UnackedSegment.bytes cb.sender.unackedQueue ∧ Expressible id cb.sender.unsentQueue

/-- The state that an expressible control block exports. -/
def exported (cb : ControlBlock κ ρ) : ControlBlockState where
  localAddr := cb.localAddr
  remote := cb.remote
  receiveBufferSize := cb.receiveBufferSize
  windowScale := cb.windowScale
  outOfOrderFin := cb.outOfOrderFin
  outOfOrderQueue := cb.outOfOrder
  receiver := ReceiverState.ofReceiver cb.receiver
  sender := {
    unsentSeqNo := cb.sender.unsentSeqNo.value
    sendUnacked := cb.sender.sendUnacked.value
    sendNext := cb.sender.sendNext.value
    sendWindow := cb.sender.sendWindow.value
    sendWindowLastUpdateSeq := cb.sender.sendWindowLastUpdateSeq
    sendWindowLastUpdateAck := cb.sender.sendWindowLastUpdateAck
    mss := UInt32.ofNat cb.sender.mss
    windowScale := cb.sender.windowScale
    unackedQueue := cb.sender.unackedQueue
    unsentQueue := cb.sender.unsentQueue }

omit [CongestionControl κ] [RtoCalculator ρ] in
/-- Exporting fails exactly on an oversized segment size. -/
theorem ofControlBlock_ok {cb : ControlBlock κ ρ} {state : ControlBlockState} :
    ControlBlockState.ofControlBlock cb = .ok state ↔
      cb.sender.mss < 2 ^ 32 ∧ state = cb.exported := by
  by_cases small : cb.sender.mss < 2 ^ 32
  · simp only [ControlBlockState.ofControlBlock, SenderState.ofSender, small, ↓reduceIte, bind,
      Except.bind, Except.ok.injEq, true_and]
    exact eq_comm
  · simp only [ControlBlockState.ofControlBlock, SenderState.ofSender, small, ↓reduceIte, bind,
      Except.bind, false_and, reduceCtorEq]

/-- A migration succeeds exactly on what the format can express, and then rebuilds the
exported state. -/
theorem migrate_ok {profile : Profile} {application : Option ApplicationState}
    {importer : Importer} {localAddr : SocketAddrV4} {cb rebuilt : ControlBlock κ ρ} :
    cb.migrate profile application importer localAddr = .ok rebuilt ↔
      cb.Exportable ∧ rebuilt = fromState importer (cb.exported.untimed.setLocal localAddr) := by
  constructor
  · intro migrated
    obtain ⟨state, exports, migrated⟩ := bind_ok.mp migrated
    obtain ⟨small, rfl⟩ := ofControlBlock_ok.mp exports
    obtain ⟨buffer, serialized, migrated⟩ := bind_ok.mp migrated
    have fits := TcpState.fits_of_serialized serialized
    obtain ⟨_, _, serialized', read⟩ := TcpState.cb_travels profile _ fits
    cases serialized'.symm.trans serialized
    obtain ⟨received, deserialized, rebuilds⟩ := bind_ok.mp migrated
    cases read.symm.trans deserialized
    rw [TcpState.withApplication_cb] at fits rebuilds
    cases rebuilds
    exact ⟨⟨small, fits⟩, rfl⟩
  · rintro ⟨⟨small, fits⟩, rfl⟩
    obtain ⟨buffer, appState, serialized, read⟩ := TcpState.cb_travels profile
      ((TcpState.new cb.exported).withApplication application) (by
        rw [TcpState.withApplication_cb]
        exact fits)
    rw [TcpState.withApplication_cb] at read
    rw [migrate, ofControlBlock_ok.mpr ⟨small, rfl⟩]
    simp only [bind, Except.bind, serialized, read]
    rfl

/-- Migration is transparent exactly for a connection that is still established and
open for sending, as long as its counts and lengths fit the format.

Proof: `migrate_ok` says when the export, the import and the rebuilding return, and what
they make: an established control block that is open for sending and otherwise agrees.
So agreement forces the two conditions, and under them it holds field by field. -/
theorem migration_transparent_iff (profile : Profile) (application : Option ApplicationState)
    (importer : Importer) (localAddr : SocketAddrV4) (cb : ControlBlock κ ρ) :
    (∃ rebuilt, cb.migrate profile application importer localAddr = .ok rebuilt ∧
      rebuilt.Agrees cb ∧ rebuilt.localAddr = localAddr) ↔
    cb.state = .established ∧ cb.userIsDoneSending = false ∧ cb.Exportable := by
  constructor
  · rintro ⟨rebuilt, migrated, agrees, -⟩
    obtain ⟨exportable, rfl⟩ := migrate_ok.mp migrated
    exact ⟨agrees.state.symm, agrees.userIsDoneSending.symm, exportable⟩
  · rintro ⟨established, sending, exportable⟩
    refine ⟨_, migrate_ok.mpr ⟨exportable, rfl⟩, ?_, rfl⟩
    constructor
    case state => exact established.symm
    case userIsDoneSending => exact sending.symm
    case mss => exact UInt32.toNat_ofNat_of_lt' exportable.1
    case unackedQueue =>
      change (cb.sender.unackedQueue.map UnackedSegment.untimed).map UnackedSegment.bytes = _
      rw [List.map_map]
      rfl
    all_goals rfl

end ControlBlock

/-- A server that rebuilds connections. -/
def Importer.sample : Importer := ⟨3#48, false, 5000000⟩

/-- The peer has finished, and its FIN has been taken, when the open connection
migrates: the rebuilt control block waits for data again instead of for the
application to close. -/
theorem Connection.peer_fin_forgotten :
    ∃ past state, execute .dev (Connection.sample 1000 1000 536) [.segment 100 1000 [] true] =
        .ok (past, state) ∧
      state.cb.state = .closeWait ∧ state.cb.userIsDoneSending = false ∧
      ∃ rebuilt, state.cb.migrate .dev none Importer.sample ⟨0x0a000003#32, 80⟩ = .ok rebuilt ∧
        rebuilt.state = .established ∧ ¬ rebuilt.Agrees state.cb := by
  refine ⟨_, _, rfl, rfl, rfl, _, ControlBlock.migrate_ok.mpr ⟨?_, rfl⟩, rfl, fun agrees => ?_⟩
  · exact ⟨by decide, ⟨by decide, by decide⟩, ⟨by decide, by decide⟩, ⟨by decide, by decide⟩,
      ⟨by decide, by decide⟩⟩
  · cases agrees.state

end Capybara
