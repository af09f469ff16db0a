import Capybara.Lib.Tables
import Capybara.Tcp.Established.ControlBlock
import Capybara.TcpMig.Header

/-!
# Opening connections

`passive_open.rs`, `active_open.rs` and `isn_generator.rs`. A passive socket
remembers the SYN of each client, turns it into a control block when the expected
acknowledgement arrives, and queues the control block until it is accepted;
migrated connections enter the same queue. An active socket waits for one SYN+ACK.

The digest of the generator is computed by a checksum library and is an input here.
The coroutines that send SYN and SYN+ACK segments touch no table; of them only the
timeout of an active opening is kept. Scheduling always finds room.
-/

namespace Capybara

open Tables

/-- `FALLBACK_MSS`. -/
def FALLBACK_MSS : Nat := 536

/-- `TcpConfig`, as far as opening and rebuilding connections read it. -/
structure TcpConfig where
  receiveWindowSize : UInt16
  windowScale : UInt8
  ackDelayTimeout : Duration
  rxChecksumOffload : Bool
  txChecksumOffload : Bool
  deriving DecidableEq, Repr

/-- `IsnGenerator`; the nonce enters through the digest. -/
structure IsnGenerator where
  counter : UInt16
  deriving DecidableEq, Repr

/-- `IsnGenerator::generate`. -/
def IsnGenerator.generate (profile : Profile) (digest : UInt32) (generator : IsnGenerator) :
    Checked (SeqNumber × IsnGenerator) := do
  let isn ← addU32 profile digest.toNat generator.counter.toNat
  .ok (SeqNumber.ofU32 isn, { counter := generator.counter + 1 })

/-- `checked_shl` on a `u16`, with the expectation that it succeeds. -/
def checkedShlU16 (value : UInt16) (shift : Nat) : Checked UInt32 :=
  if shift < 16 then .ok (UInt32.ofNat ((value.toNat <<< shift) % 2 ^ 16))
  else .error .handshakeWindowOverflow

/-- `checked_shl` on a `u32`, with the expectation that it succeeds. -/
def checkedShlU32 (value shift : Nat) : Checked UInt32 :=
  if shift < 32 then .ok (UInt32.ofNat ((value <<< shift) % 2 ^ 32))
  else .error .handshakeWindowOverflow

/-- The window scale and the segment size that the options of a SYN announce. -/
def announced (header : TcpHeader) : Option UInt8 × Nat :=
  header.options.foldl (fun (scale, mss) option =>
    match option with
    | .windowScale announced => (some announced, mss)
    | .maximumSegmentSize announced => (scale, announced.toNat)
    | _ => (scale, mss)) (none, FALLBACK_MSS)

/-- The scales in use on both sides: none unless the peer announces one. -/
def scales (config : TcpConfig) : Option UInt8 → UInt32 × UInt8
  | some scale => (config.windowScale.toUInt32, scale)
  | none => (0, 0)

/-! ## Passive opening -/

/-- `InflightAccept`. -/
structure InflightAccept where
  localIsn : SeqNumber
  remoteIsn : SeqNumber
  headerWindowSize : UInt16
  remoteWindowScale : Option UInt8
  mss : Nat
  deriving DecidableEq, Repr

/-- `ReadySockets`; tasks woken by a ready connection are appended to `woken`. -/
structure ReadySockets (κ ρ : Type) where
  ready : List (Except Fail (ControlBlock κ ρ))
  endpoints : List SocketAddrV4
  waker : Option Waker
  woken : List Waker

variable {κ ρ : Type} [CongestionControl κ] [RtoCalculator ρ]

namespace ReadySockets

/-- No connection is ready. -/
def new : ReadySockets κ ρ := ⟨[], [], none, []⟩

/-- `push_ok`. -/
def pushOk (sockets : ReadySockets κ ρ) (cb : ControlBlock κ ρ) : Checked (ReadySockets κ ρ) :=
  if cb.remote ∈ sockets.endpoints then .error .endpointAlreadyReady
  else .ok {
    ready := sockets.ready ++ [.ok cb]
    endpoints := cb.remote :: sockets.endpoints
    waker := none
    woken := sockets.woken ++ sockets.waker.toList }

/-- `poll`: the front, or register the waker. -/
def poll (waker : Waker) (sockets : ReadySockets κ ρ) :
    Checked (ReadySockets κ ρ × Option (Except Fail (ControlBlock κ ρ))) :=
  match sockets.ready with
  | [] => .ok ({ sockets with waker := some waker }, none)
  | .error fail :: ready => .ok ({ sockets with ready }, some (.error fail))
  | .ok cb :: ready =>
    if cb.remote ∈ sockets.endpoints then
      .ok ({ sockets with ready, endpoints := sockets.endpoints.erase cb.remote }, some (.ok cb))
    else .error .endpointNotReady

end ReadySockets

/-- `PassiveSocket`. -/
structure PassiveSocket (κ ρ : Type) where
  inflight : Table SocketAddrV4 InflightAccept
  ready : ReadySockets κ ρ
  maxBacklog : Nat
  isnGenerator : IsnGenerator
  localAddr : SocketAddrV4
  tcpConfig : TcpConfig
  localLinkAddr : MacAddress

namespace PassiveSocket

/-- `PassiveSocket::new`. -/
def new (localAddr : SocketAddrV4) (maxBacklog : Nat) (tcpConfig : TcpConfig)
    (localLinkAddr : MacAddress) : PassiveSocket κ ρ where
  inflight := ∅
  ready := .new
  maxBacklog
  isnGenerator := ⟨0⟩
  localAddr
  tcpConfig
  localLinkAddr

/-- The control block for a handshake that is complete. -/
def opened (passive : PassiveSocket κ ρ) (remote : SocketAddrV4) (inflight : InflightAccept) :
    Checked (ControlBlock κ ρ) := do
  let (localWindowScale, remoteWindowScale) := scales passive.tcpConfig inflight.remoteWindowScale
  let senderWindowSize ← checkedShlU16 inflight.headerWindowSize remoteWindowScale.toNat
  let receiverWindowSize ← checkedShlU32 passive.tcpConfig.receiveWindowSize.toNat
    localWindowScale.toNat
  .ok (.new {
    localAddr := passive.localAddr
    remote
    localLinkAddr := passive.localLinkAddr
    txChecksumOffload := passive.tcpConfig.txChecksumOffload
    receiverSeqNo := inflight.remoteIsn + SeqNumber.ofU32 1
    ackDelayTimeout := passive.tcpConfig.ackDelayTimeout
    receiverWindowSize
    receiverWindowScale := localWindowScale
    senderSeqNo := inflight.localIsn + SeqNumber.ofU32 1
    senderWindowSize
    senderWindowScale := remoteWindowScale
    senderMss := inflight.mss })

/-- "If the packet is for an inflight connection, route it there." -/
def receiveAck (passive : PassiveSocket κ ρ) (remote : SocketAddrV4) (inflight : InflightAccept)
    (header : TcpHeader) : Checked (PassiveSocket κ ρ × Except Fail Unit) :=
  if !header.ack then .ok (passive, .error ⟨.EBADMSG, "expeting ACK"⟩)
  else if header.ackNum ≠ inflight.localIsn + SeqNumber.ofU32 1 then
    .ok (passive, .error ⟨.EBADMSG, "invalid SYN+ACK seq num"⟩)
  else do
    let cb ← passive.opened remote inflight
    let ready ← passive.ready.pushOk cb
    .ok ({ passive with inflight := passive.inflight.erase remote, ready }, .ok ())

/-- "Otherwise, start a new connection." -/
def receiveSyn (profile : Profile) (digest : UInt32) (passive : PassiveSocket κ ρ)
    (remote : SocketAddrV4) (header : TcpHeader) :
    Checked (PassiveSocket κ ρ × Except Fail Unit) :=
  if !header.syn || header.ack || header.rst then
    .ok (passive, .error ⟨.EBADMSG, "invalid flags"⟩)
  else if passive.inflight.entries.length + passive.ready.ready.length ≥ passive.maxBacklog then
    .ok (passive, .error ⟨.ECONNREFUSED, "connection refused"⟩)
  else do
    let (localIsn, isnGenerator) ← passive.isnGenerator.generate profile digest
    let (remoteWindowScale, mss) := announced header
    let accept : InflightAccept := {
      localIsn
      remoteIsn := header.seqNum
      headerWindowSize := header.windowSize
      remoteWindowScale
      mss }
    .ok ({ passive with
      inflight := passive.inflight.insert remote accept
      isnGenerator }, .ok ())

/-- `receive`. A packet for a connection that waits to be accepted is dropped. -/
def receive (profile : Profile) (digest : UInt32) (passive : PassiveSocket κ ρ)
    (ipHeader : Ipv4Header) (header : TcpHeader) :
    Checked (PassiveSocket κ ρ × Except Fail Unit) :=
  let remote : SocketAddrV4 := ⟨ipHeader.srcAddr, header.srcPort⟩
  if remote ∈ passive.ready.endpoints then .ok (passive, .ok ())
  else match passive.inflight.lookup remote with
  | some inflight => passive.receiveAck remote inflight header
  | none => passive.receiveSyn profile digest remote header

/-- `push_migrated_in`. -/
def pushMigratedIn (passive : PassiveSocket κ ρ) (cb : ControlBlock κ ρ) :
    Checked (PassiveSocket κ ρ) := do
  let ready ← passive.ready.pushOk cb
  .ok { passive with ready }

end PassiveSocket

/-! ## Active opening -/

/-- `ActiveOpenSocket`, with its `ConnectResult`. -/
structure ActiveOpenSocket (κ ρ : Type) where
  localIsn : SeqNumber
  localAddr : SocketAddrV4
  remote : SocketAddrV4
  localLinkAddr : MacAddress
  tcpConfig : TcpConfig
  result : Option (Except Fail (ControlBlock κ ρ))
  waker : Option Waker
  woken : List Waker

namespace ActiveOpenSocket

/-- `ActiveOpenSocket::new`. -/
def new (localIsn : SeqNumber) (localAddr remote : SocketAddrV4) (tcpConfig : TcpConfig)
    (localLinkAddr : MacAddress) : ActiveOpenSocket κ ρ where
  localIsn
  localAddr
  remote
  localLinkAddr
  tcpConfig
  result := none
  waker := none
  woken := []

/-- `poll_result`. -/
def pollResult (waker : Waker) (socket : ActiveOpenSocket κ ρ) :
    ActiveOpenSocket κ ρ × Option (Except Fail (ControlBlock κ ρ)) :=
  match socket.result with
  | none => ({ socket with waker := some waker }, none)
  | some result => ({ socket with result := none }, some result)

/-- `set_result`. -/
def setResult (socket : ActiveOpenSocket κ ρ) (result : Except Fail (ControlBlock κ ρ)) :
    ActiveOpenSocket κ ρ :=
  { socket with
    result := some result, waker := none, woken := socket.woken ++ socket.waker.toList }

/-- The end of `background`: all retries have been used up. -/
def timeout (socket : ActiveOpenSocket κ ρ) : ActiveOpenSocket κ ρ :=
  socket.setResult (.error ⟨.ETIMEDOUT, "handshake timeout"⟩)

/-- The segment that acknowledges a SYN+ACK. -/
def acknowledgement (socket : ActiveOpenSocket κ ρ) (header : TcpHeader)
    (remoteLinkAddr : MacAddress) : TcpSegment where
  dstLinkAddr := remoteLinkAddr
  srcLinkAddr := socket.localLinkAddr
  srcAddr := socket.localAddr.ip
  dstAddr := socket.remote.ip
  tcpHdr := { TcpHeader.new socket.localAddr.port socket.remote.port with
    ack := true
    ackNum := header.seqNum + SeqNumber.ofU32 1
    windowSize := socket.tcpConfig.receiveWindowSize
    seqNum := socket.localIsn + SeqNumber.ofU32 1 }
  data := none
  txChecksumOffload := socket.tcpConfig.rxChecksumOffload

/-- The control block for an acknowledged SYN+ACK. -/
def opened (socket : ActiveOpenSocket κ ρ) (header : TcpHeader) : Checked (ControlBlock κ ρ) := do
  let (remoteWindowScale, senderMss) := announced header
  let (localWindowScale, remoteWindowScale) := scales socket.tcpConfig remoteWindowScale
  if ¬ (localWindowScale ≤ 14 ∧ remoteWindowScale ≤ 14) then .error .windowScaleTooBig
  else
    let receiverWindowSize ← checkedShlU16 socket.tcpConfig.receiveWindowSize localWindowScale.toNat
    let senderWindowSize ← checkedShlU16 header.windowSize remoteWindowScale.toNat
    .ok (.new {
      localAddr := socket.localAddr
      remote := socket.remote
      localLinkAddr := socket.localLinkAddr
      txChecksumOffload := socket.tcpConfig.txChecksumOffload
      receiverSeqNo := header.seqNum + SeqNumber.ofU32 1
      ackDelayTimeout := socket.tcpConfig.ackDelayTimeout
      receiverWindowSize
      receiverWindowScale := localWindowScale
      senderSeqNo := socket.localIsn + SeqNumber.ofU32 1
      senderWindowSize
      senderWindowScale := remoteWindowScale
      senderMss })

/-- `receive`, with the segment that it transmits. -/
def receive (env : Env) (socket : ActiveOpenSocket κ ρ) (header : TcpHeader) :
    Checked (ActiveOpenSocket κ ρ × List TcpSegment) :=
  if ¬ (header.ack ∧ header.ackNum = socket.localIsn + SeqNumber.ofU32 1) then .ok (socket, [])
  else if header.rst then
    .ok (socket.setResult (.error ⟨.ECONNREFUSED, "connection refused"⟩), [])
  else if !header.syn then .ok (socket, [])
  else match env.linkAddr with
  | none => .error .arpQueryControlFlow
  | some remoteLinkAddr => do
    let cb ← socket.opened header
    .ok (socket.setResult (.ok cb), [socket.acknowledgement header remoteLinkAddr])

end ActiveOpenSocket

end Capybara
