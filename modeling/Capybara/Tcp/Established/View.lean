import Capybara.Tcp.Established.Connection
import Capybara.Tcp.Established.Window

/-!
# What the invariants see of a control block

Timers, wakers and congestion control do not matter for the invariants, so
control blocks are compared through a `View`: the receiving side, the sender,
the connection state and the segments handed to the network.

Headers, `emit` and pure acknowledgements are used by every routine that
transmits. Their effect on the view is stated here once.
-/

namespace Capybara

variable {κ ρ : Type}

/-- The part of a control block that arriving text and reading change, with the
two constants that bound it. -/
structure Reception where
  receiver : Receiver
  outOfOrder : List (SeqNumber × Buffer)
  outOfOrderFin : Option SeqNumber
  receiveBufferSize : UInt32
  windowScale : UInt32
  deriving DecidableEq, Repr

/-- The part of a control block that the invariants speak about. -/
structure View where
  reception : Reception
  state : State
  sender : Sender
  userIsDoneSending : Bool
  transmitted : List TcpSegment

/-- The view after a segment has been emitted. -/
def View.emitted (view : View) (segment : TcpSegment) : View :=
  { view with
    transmitted := view.transmitted ++ [segment]
    state := if segment.tcpHdr.fin then ControlBlock.stateAfterFinSent view.state else view.state }

/-- Segments that carry neither data nor a FIN. -/
def PureAcks (acks : List TcpSegment) : Prop :=
  ∀ segment ∈ acks, segment.data = none ∧ segment.tcpHdr.fin = false

/-- What a transmitted segment carries: its sequence number, its body and
whether it has the FIN flag. -/
structure Carries (segment : TcpSegment) (seqNum : SeqNumber) (bytes : Buffer) (fin : Bool) :
    Prop where
  seqNum : segment.tcpHdr.seqNum = seqNum
  body : segment.data = some bytes
  fin : segment.tcpHdr.fin = fin

/-- If one segment has been appended, it is the one that is known to carry this. -/
theorem Carries.of_appended {before after : List TcpSegment} {segment segment' : TcpSegment}
    {seqNum : SeqNumber} {bytes : Buffer} {fin : Bool} (carries : Carries segment seqNum bytes fin)
    (record : after = before ++ [segment]) (sent : after = before ++ [segment']) :
    Carries segment' seqNum bytes fin := by
  obtain rfl : segment = segment' := by
    simpa using List.append_cancel_left (record.symm.trans sent)
  exact carries

namespace ControlBlock

/-- The receiving side. -/
def reception (cb : ControlBlock κ ρ) : Reception where
  receiver := cb.receiver
  outOfOrder := cb.outOfOrder
  outOfOrderFin := cb.outOfOrderFin
  receiveBufferSize := cb.receiveBufferSize
  windowScale := cb.windowScale

/-- The view of a control block. -/
def view (cb : ControlBlock κ ρ) : View where
  reception := cb.reception
  state := cb.state
  sender := cb.sender
  userIsDoneSending := cb.userIsDoneSending
  transmitted := cb.transmitted

section Frame

variable {cb cb' : ControlBlock κ ρ} (same : cb'.reception = cb.reception)
include same

/-- The same reception has the same receiver. -/
theorem receiver_eq : cb'.receiver = cb.receiver := congrArg Reception.receiver same

/-- It has the same out-of-order store. -/
theorem outOfOrder_eq : cb'.outOfOrder = cb.outOfOrder := congrArg Reception.outOfOrder same

/-- It has the same FIN to come. -/
theorem outOfOrderFin_eq : cb'.outOfOrderFin = cb.outOfOrderFin :=
  congrArg Reception.outOfOrderFin same

/-- It has a buffer of the same size. -/
theorem receiveBufferSize_eq : cb'.receiveBufferSize = cb.receiveBufferSize :=
  congrArg Reception.receiveBufferSize same

/-- It announces its window with the same scale. -/
theorem windowScale_eq : cb'.windowScale = cb.windowScale := congrArg Reception.windowScale same

/-- As many bytes are unread. -/
theorem unread_eq : cb'.unread = cb.unread := by
  rw [unread, unread, receiver_eq same]

/-- The window is the same. -/
theorem window_eq : cb'.window = cb.window := by
  rw [window, window, unread_eq same, receiveBufferSize_eq same]

/-- The window field of its headers is the same. -/
theorem hdrWindowSize_eq (profile : Profile) : cb'.hdrWindowSize profile = cb.hdrWindowSize profile := by
  rw [hdrWindowSize, hdrWindowSize, getReceiveWindowSize, getReceiveWindowSize, receiver_eq same,
    receiveBufferSize_eq same, windowScale_eq same]

/-- It is settled if the other one is. -/
theorem settled_of_eq (settled : cb.Settled) : cb'.Settled :=
  ⟨by rw [unread_eq same, receiveBufferSize_eq same]; exact settled.fits,
    by rw [receiveBufferSize_eq same]; exact settled.small⟩

/-- A segment lies inside its window if it lies inside that of the other one. -/
theorem inside_of_eq {segment : Accepted} {offset : Nat} (inside : cb.Inside segment offset) :
    cb'.Inside segment offset := by
  obtain ⟨start, near, length, last, fits⟩ := inside
  rw [← receiver_eq same] at start last
  rw [← window_eq same] at near fits
  exact ⟨start, near, length, last, fits⟩

end Frame

/-! ## Headers and pure acknowledgements -/

/-- A header that was built carries the acknowledgement and no flag else. -/
theorem tcpHeader_ok {profile : Profile} {cb : ControlBlock κ ρ} {header : TcpHeader}
    (built : cb.tcpHeader profile = .ok header) :
    header.ack = true ∧ header.fin = false ∧ ∃ size, cb.hdrWindowSize profile = .ok size := by
  obtain ⟨size, fits, rest⟩ := bind_ok.mp built
  cases rest
  exact ⟨rfl, rfl, size, fits⟩

/-- A header is filled in where the window fits its field; it acknowledges and carries no FIN.
-/
theorem tcpHeader_of_window {profile : Profile} {cb : ControlBlock κ ρ} {size : UInt16}
    (fits : cb.hdrWindowSize profile = .ok size) :
    ∃ header, cb.tcpHeader profile = .ok header ∧ header.ack = true ∧ header.fin = false := by
  refine ⟨_, by rw [tcpHeader, fits]; rfl, rfl, rfl⟩

/-- What `emit` does with a header that carries an acknowledgement. -/
theorem emit_eq (profile : Profile) (cb : ControlBlock κ ρ) (header : TcpHeader)
    (body : Option Buffer) (remoteLinkAddr : MacAddress) (acks : header.ack = true) :
    ∃ cb' segment, cb.emit profile header body remoteLinkAddr = .ok cb' ∧
      segment.tcpHdr = header ∧ segment.data = body ∧ cb'.view = cb.view.emitted segment := by
  let segment : TcpSegment := {
    dstLinkAddr := remoteLinkAddr
    srcLinkAddr := cb.localLinkAddr
    srcAddr := cb.localAddr.ip
    dstAddr := cb.remote.ip
    tcpHdr := header
    data := body
    txChecksumOffload := cb.txChecksumOffload }
  rw [emit, acks, debugAssert_true]
  exact ⟨_, segment, rfl, rfl, rfl, rfl⟩

/-- A segment that is sent is seen with its header and data, and nothing else changes in the
view. -/
theorem emit_ok {profile : Profile} {cb cb' : ControlBlock κ ρ} {header : TcpHeader}
    {body : Option Buffer} {remoteLinkAddr : MacAddress}
    (emits : cb.emit profile header body remoteLinkAddr = .ok cb') (acks : header.ack = true) :
    ∃ segment : TcpSegment, segment.tcpHdr = header ∧ segment.data = body ∧
      cb'.view = cb.view.emitted segment := by
  obtain ⟨expected, segment, emits', carried, carries, seen⟩ :=
    emit_eq profile cb header body remoteLinkAddr acks
  cases Except.ok.inj (emits'.symm.trans emits)
  exact ⟨segment, carried, carries, seen⟩

/-- A pure acknowledgement is sent, or the peer's link address is unknown. -/
theorem sendAck_ok {profile : Profile} {env : Env} {cb cb' : ControlBlock κ ρ}
    (sent : cb.sendAck profile env = .ok cb') :
    (∃ size, cb.hdrWindowSize profile = .ok size) ∧
    ∃ acks, PureAcks acks ∧ cb'.view = { cb.view with transmitted := cb.transmitted ++ acks } := by
  obtain ⟨header, built, rest⟩ := bind_ok.mp sent
  obtain ⟨acks, plain, fits⟩ := tcpHeader_ok built
  refine ⟨fits, ?_⟩
  split at rest
  · obtain ⟨segment, carried, body, seen⟩ := emit_ok rest acks
    have quiet : segment.tcpHdr.fin = false := by rw [carried]; exact plain
    refine ⟨[segment], by simp [PureAcks, body, quiet], ?_⟩
    rw [seen, View.emitted, quiet]
    rfl
  · cases rest
    exact ⟨[], by simp [PureAcks], by simp [view]⟩

/-- A pure acknowledgement fails only when the window field does. -/
theorem sendAck_of_window {profile : Profile} (env : Env) {cb : ControlBlock κ ρ} {size : UInt16}
    (fits : cb.hdrWindowSize profile = .ok size) : ∃ cb', cb.sendAck profile env = .ok cb' := by
  obtain ⟨header, built, acks, -⟩ := tcpHeader_of_window fits
  rw [sendAck, built]
  simp only [bind, Except.bind]
  cases env.linkAddr with
  | none => exact ⟨cb, rfl⟩
  | some remoteLinkAddr =>
    obtain ⟨cb', -, emits, -⟩ := emit_eq profile cb
      { header with seqNum := cb.sender.sendNext.value } none remoteLinkAddr acks
    exact ⟨cb', emits⟩

end ControlBlock

end Capybara
