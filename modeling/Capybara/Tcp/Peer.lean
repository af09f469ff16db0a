import Capybara.Ip.Ephemeral
import Capybara.Tcp.Established.Connection
import Capybara.Tcp.Handshake
import Capybara.TcpMig.Peer

/-!
# The TCP peer of a server

`tcp/peer.rs`: the tables of a server and the operations on
them. A socket is known by its queue descriptor; connections are known by their pair
of addresses. `qds` leads back from a connection to its descriptor, for migrations
that are started by address.

An operation returns its error beside the new tables, because a failed operation may
have changed them. A segment is given by its parsed header; one that does not parse
changes nothing.
-/

namespace Capybara

open Tables

/-- The address pair of a connection, local side first. -/
abbrev Endpoints := SocketAddrV4 × SocketAddrV4

/-- `Socket`. -/
inductive Socket where
  | inactive (localAddr : Option SocketAddrV4)
  | listening (localAddr : SocketAddrV4)
  | connecting (localAddr remote : SocketAddrV4)
  | established (localAddr remote : SocketAddrV4)
  | migratedOut (localAddr remote : SocketAddrV4)
  deriving DecidableEq, Repr

/-- The address that `bind` regards as taken by a socket. -/
def Socket.bound : Socket → Option SocketAddrV4
  | .inactive localAddr => localAddr
  | .listening localAddr | .connecting localAddr _ | .established localAddr _ => some localAddr
  | .migratedOut _ _ => none

/-! ## The tables -/

/-- `Inner`. Reset segments are appended to `transmitted`, tasks woken by an export
to `woken`; `migratedQd` is the descriptor left in the poll state. -/
structure Inner (κ ρ : Type) where
  isnGenerator : IsnGenerator
  ephemeralPorts : EphemeralPorts
  sockets : Table QDesc Socket
  qds : Table Endpoints QDesc
  passive : Table SocketAddrV4 (PassiveSocket κ ρ)
  connecting : Table Endpoints (ActiveOpenSocket κ ρ)
  established : Table Endpoints (Connection κ ρ)
  localLinkAddr : MacAddress
  localIpv4Addr : Ipv4Addr
  tcpConfig : TcpConfig
  tcpmig : TcpMigPeer
  migratedQd : Option QDesc
  transmitted : List TcpSegment
  woken : List Waker

variable {κ ρ : Type} [CongestionControl κ] [RtoCalculator ρ]

namespace Inner

/-- `Inner::new`: empty tables, with a given pool of ports. -/
def new (ephemeralPorts : EphemeralPorts) (localLinkAddr : MacAddress) (localIpv4Addr : Ipv4Addr)
    (tcpConfig : TcpConfig) : Inner κ ρ where
  isnGenerator := ⟨0⟩
  ephemeralPorts
  sockets := ∅
  qds := ∅
  passive := ∅
  connecting := ∅
  established := ∅
  localLinkAddr
  localIpv4Addr
  tcpConfig
  tcpmig := .new localLinkAddr localIpv4Addr
  migratedQd := none
  transmitted := []
  woken := []

/-- The tables after an operation, with its result. -/
abbrev Outcome (κ ρ : Type) := Inner κ ρ × Except Fail Unit

/-! ## Control operations -/

/-- `do_socket`. -/
def doSocket (inner : Inner κ ρ) (qd : QDesc) : Outcome κ ρ :=
  match inner.sockets.lookup qd with
  | none => ({ inner with sockets := inner.sockets.insert qd (.inactive none) }, .ok ())
  | some _ => (inner, .error ⟨.EBUSY, "queue descriptor in use"⟩)

/-- The allocation of `bind`: the port that will be bound, and the remaining pool. A
private port is taken from the pool; port zero asks for any. -/
def allocate (free : EphemeralPorts) (port : UInt16) : Except Fail (UInt16 × EphemeralPorts) := do
  let free ← if EphemeralPorts.isPrivate port then free.allocPort port else .ok free
  if port = 0 then free.allocAny else .ok (port, free)

/-- `bind`. The migration port is set before the descriptor is looked at. -/
def bind (inner : Inner κ ρ) (qd : QDesc) (addr : SocketAddrV4) : Outcome κ ρ :=
  if inner.sockets.entries.any fun entry => entry.2.bound == some addr then
    (inner, .error ⟨.EADDRINUSE, "address already in use"⟩)
  else match allocate inner.ephemeralPorts addr.port with
  | .error fail => (inner, .error fail)
  | .ok (port, ephemeralPorts) =>
    let addr : SocketAddrV4 := { addr with port }
    let inner := { inner with ephemeralPorts, tcpmig := inner.tcpmig.setPort port }
    let rollback : Inner κ ρ :=
      if EphemeralPorts.isPrivate port then
        { inner with ephemeralPorts := inner.ephemeralPorts.free port }
      else inner
    match inner.sockets.lookup qd with
    | some (.inactive none) =>
      ({ inner with sockets := inner.sockets.insert qd (.inactive (some addr)) }, .ok ())
    | some (.inactive (some _)) =>
      (rollback, .error ⟨.EINVAL, "socket is already bound to an address"⟩)
    | _ => (rollback, .error ⟨.EBADF, "invalid queue descriptor"⟩)

/-- `listen`. No passive socket is replaced, so the assertion on the insertion holds. -/
def listen (inner : Inner κ ρ) (qd : QDesc) (backlog : Nat) : Outcome κ ρ :=
  match inner.sockets.lookup qd with
  | some (.inactive (some localAddr)) =>
    match inner.passive.lookup localAddr with
    | some _ => (inner, .error ⟨.EADDRINUSE,
        "another socket is already listening on the same address/port pair"⟩)
    | none =>
      ({ inner with
        passive := inner.passive.insert localAddr
          (.new localAddr backlog inner.tcpConfig inner.localLinkAddr)
        sockets := inner.sockets.insert qd (.listening localAddr) }, .ok ())
  | some (.listening _) => (inner, .error ⟨.EINVAL, "socket is already listening"⟩)
  | some (.inactive none) =>
    (inner, .error ⟨.EDESTADDRREQ, "socket is not bound to a local address"⟩)
  | some (.connecting _ _) => (inner, .error ⟨.EINVAL, "socket is connecting"⟩)
  | some (.established _ _) => (inner, .error ⟨.EINVAL, "socket is connected"⟩)
  | some (.migratedOut _ _) | none => (inner, .error ⟨.EBADF, "invalid queue descriptor"⟩)

/-- The second half of `connect`, once the local address is known. A socket that is
already connecting on the same addresses is replaced before the error. -/
def connectFrom (profile : Profile) (digest : UInt32) (inner : Inner κ ρ) (qd : QDesc)
    (localAddr remote : SocketAddrV4) : Checked (Outcome κ ρ) := do
  let (localIsn, isnGenerator) ← inner.isnGenerator.generate profile digest
  let inner' := { inner with
    isnGenerator
    sockets := inner.sockets.insert qd (.connecting localAddr remote)
    connecting := inner.connecting.insert (localAddr, remote)
      (.new localIsn localAddr remote inner.tcpConfig inner.localLinkAddr) }
  match inner.connecting.lookup (localAddr, remote) with
  | some _ => .ok (inner', .error ⟨.EALREADY, "socket is connecting"⟩)
  | none => .ok (inner', .ok ())

/-- `connect`. -/
def connect (profile : Profile) (digest : UInt32) (inner : Inner κ ρ) (qd : QDesc)
    (remote : SocketAddrV4) : Checked (Outcome κ ρ) :=
  match inner.sockets.lookup qd with
  | some (.inactive none) =>
    match inner.ephemeralPorts.allocAny with
    | .error fail => .ok (inner, .error fail)
    | .ok (port, ephemeralPorts) =>
      { inner with ephemeralPorts }.connectFrom profile digest qd ⟨inner.localIpv4Addr, port⟩ remote
  | some (.inactive (some localAddr)) => inner.connectFrom profile digest qd localAddr remote
  | some (.connecting _ _) => .ok (inner, .error ⟨.EALREADY, "socket is connecting"⟩)
  | some (.established _ _) => .ok (inner, .error ⟨.EISCONN, "socket is connected"⟩)
  | some (.listening _) | some (.migratedOut _ _) | none =>
    .ok (inner, .error ⟨.EBADF, "invalid queue descriptor"⟩)

/-- `poll_connect_finished`; `none` is pending. -/
def pollConnectFinished (inner : Inner κ ρ) (fd : QDesc) (waker : Waker) :
    Checked (Inner κ ρ × Option (Except Fail Unit)) :=
  match inner.sockets.lookup fd with
  | some (.connecting localAddr remote) =>
    let key := (localAddr, remote)
    match inner.connecting.lookup key with
    | none => .ok (inner, some (.error ⟨.EAGAIN, "socket not connecting"⟩))
    | some socket =>
      match socket.pollResult waker with
      | (socket, none) =>
        .ok ({ inner with connecting := inner.connecting.insert key socket }, none)
      | (_, some (.error fail)) =>
        .ok ({ inner with connecting := inner.connecting.erase key }, some (.error fail))
      | (_, some (.ok cb)) =>
        match inner.established.lookup key with
        | some _ => .error .establishedReplaced
        | none =>
          .ok ({ inner with
            connecting := inner.connecting.erase key
            established := inner.established.insert key ⟨cb, .top⟩
            sockets := inner.sockets.insert fd (.established localAddr remote) }, some (.ok ()))
  | some _ => .ok (inner, some (.error ⟨.EAGAIN, "socket not connecting"⟩))
  | none => .ok (inner, some (.error ⟨.EBADF, "bad queue descriptor"⟩))

/-- The retries of an active opening have been used up. -/
def connectTimeout (inner : Inner κ ρ) (key : Endpoints) : Inner κ ρ :=
  match inner.connecting.lookup key with
  | none => inner
  | some socket => { inner with connecting := inner.connecting.insert key socket.timeout }

/-- `do_close`. The socket is removed from its table in any case. -/
def doClose (profile : Profile) (env : Env) (inner : Inner κ ρ) (qd : QDesc) :
    Checked (Outcome κ ρ) :=
  let inner' := { inner with sockets := inner.sockets.erase qd }
  match inner.sockets.lookup qd with
  | some (.established localAddr remote) =>
    match inner.established.lookup (localAddr, remote) with
    | some connection => do
      let cb ← connection.cb.close profile env
      .ok ({ inner' with
        established := inner.established.insert (localAddr, remote) { connection with cb } }, .ok ())
    | none => .ok (inner', .error ⟨.ENOTCONN, "connection not established"⟩)
  | some _ => .ok (inner', .error ⟨.ENOTSUP, "close not implemented for listening sockets"⟩)
  | none => .ok (inner', .error ⟨.EBADF, "bad queue descriptor"⟩)

/-! ## Accepting -/

/-- Feed packets to a control block, in order. -/
def receiveAll (profile : Profile) (env : Env) :
    List (TcpHeader × Buffer) → ControlBlock κ ρ → Checked (ControlBlock κ ρ)
  | [], cb => .ok cb
  | (hdr, data) :: packets, cb => do
    let cb ← cb.receive profile env hdr data
    receiveAll profile env packets cb

/-- A new descriptor may replace only that of a connection that has migrated out. -/
def occupied (inner : Inner κ ρ) (newQd : QDesc) : Bool :=
  match inner.sockets.lookup newQd with
  | none | some (.migratedOut _ _) => false
  | some _ => true

/-- The insertions of `poll_accept`, each of which must meet a free place. -/
def acceptSocket (inner : Inner κ ρ) (newQd : QDesc) (localAddr remote : SocketAddrV4)
    (cb : ControlBlock κ ρ) : Checked (Inner κ ρ) :=
  let key := (localAddr, remote)
  if inner.occupied newQd then .error .duplicateSocket
  else if (inner.qds.lookup key).isSome then .error .duplicateQdsEntry
  else if (inner.established.lookup key).isSome then .error .duplicateEstablished
  else .ok { inner with
    sockets := inner.sockets.insert newQd (.established localAddr remote)
    qds := inner.qds.insert key newQd
    established := inner.established.insert key ⟨cb, .top⟩ }

/-- `poll_accept`: what the record of the client has kept is received first; `none` is
pending. -/
def pollAccept (profile : Profile) (env : Env) (inner : Inner κ ρ) (qd newQd : QDesc)
    (waker : Waker) : Checked (Inner κ ρ × Option (Except Fail QDesc)) :=
  match inner.sockets.lookup qd with
  | some (.listening localAddr) =>
    match inner.passive.lookup localAddr with
    | none => .error .socketsLocalInconsistency
    | some passive => do
      let (ready, polled) ← passive.ready.poll waker
      let inner := { inner with
        passive := inner.passive.insert localAddr { passive with ready } }
      match polled with
      | none => .ok (inner, none)
      | some (.error fail) => .ok (inner, some (.error fail))
      | some (.ok cb) =>
        let remote := cb.remote
        let (tcpmig, buffered) := inner.tcpmig.closeActiveMigration remote
        let inner := { inner with tcpmig }
        let cb ← receiveAll profile env (buffered.getD []) cb
        let cb ← cb.enableStats
        let inner ← inner.acceptSocket newQd localAddr remote cb
        .ok (inner, some (.ok newQd))
  | some _ => .ok (inner, some (.error ⟨.EOPNOTSUPP, "socket not listening"⟩))
  | none => .ok (inner, some (.error ⟨.EBADF, "bad file descriptor"⟩))

/-! ## Segments -/

/-- `send_rst`. -/
def sendRst (env : Env) (inner : Inner κ ρ) (localAddr remote : SocketAddrV4) : Outcome κ ρ :=
  match env.linkAddr with
  | none => (inner, .error ⟨.EINVAL, "detination not in ARP cache"⟩)
  | some remoteLinkAddr =>
    let segment : TcpSegment := {
      dstLinkAddr := remoteLinkAddr
      srcLinkAddr := inner.localLinkAddr
      srcAddr := localAddr.ip
      dstAddr := remote.ip
      tcpHdr := { TcpHeader.new localAddr.port remote.port with rst := true }
      data := none
      txChecksumOffload := inner.tcpConfig.rxChecksumOffload }
    ({ inner with transmitted := inner.transmitted ++ [segment] }, .ok ())

/-- `is_broadcast`, `is_multicast` and `is_unspecified`. -/
def invalidSource (ip : Ipv4Addr) : Bool :=
  ip == 0xffffffff#32 || ip.toNat / 2 ^ 28 == 14 || ip == 0#32

/-- The part of `receive` for a segment that no connection and no record claims. -/
def receiveUnclaimed (profile : Profile) (env : Env) (digest : UInt32) (inner : Inner κ ρ)
    (ipHdr : Ipv4Header) (tcpHdr : TcpHeader) (localAddr remote : SocketAddrV4) :
    Checked (Outcome κ ρ) :=
  match inner.passive.lookup localAddr with
  | some passive => do
    let (passive, result) ← passive.receive profile digest ipHdr tcpHdr
    .ok ({ inner with passive := inner.passive.insert localAddr passive }, result)
  | none => .ok (inner.sendRst env localAddr remote)

/-- `receive`: the tables are asked in this order. -/
def receive (profile : Profile) (env : Env) (digest : UInt32) (inner : Inner κ ρ)
    (ipHdr : Ipv4Header) (tcpHdr : TcpHeader) (data : Buffer) : Checked (Outcome κ ρ) :=
  let localAddr : SocketAddrV4 := ⟨ipHdr.destAddr, tcpHdr.dstPort⟩
  let remote : SocketAddrV4 := ⟨ipHdr.srcAddr, tcpHdr.srcPort⟩
  let key := (localAddr, remote)
  if invalidSource remote.ip then .ok (inner, .error ⟨.EINVAL, "invalid address type"⟩)
  else match inner.established.lookup key with
  | some connection => do
    let cb ← connection.cb.receive profile env tcpHdr data
    .ok ({ inner with established := inner.established.insert key { connection with cb } }, .ok ())
  | none =>
    match inner.connecting.lookup key with
    | some socket => do
      let (socket, sent) ← socket.receive env tcpHdr
      .ok ({ inner with
        connecting := inner.connecting.insert key socket
        transmitted := inner.transmitted ++ sent }, .ok ())
    | none =>
      match inner.tcpmig.tryBufferPacket remote tcpHdr data with
      | some tcpmig => .ok ({ inner with tcpmig }, .ok ())
      | none => inner.receiveUnclaimed profile env digest ipHdr tcpHdr localAddr remote

/-! ## Established connections -/

/-- A step of the connection behind an address pair, if it is established. -/
def onConnection (profile : Profile) (inner : Inner κ ρ) (key : Endpoints) (action : Action) :
    Checked (Inner κ ρ) :=
  match inner.established.lookup key with
  | none => .ok inner
  | some connection => do
    let connection ← connection.step profile action
    .ok { inner with established := inner.established.insert key connection }

/-- The step of the connection behind a descriptor, as `send` and `poll_recv` take it. -/
def onSocket (profile : Profile) (inner : Inner κ ρ) (qd : QDesc) (action : Action) :
    Checked (Inner κ ρ) :=
  match inner.sockets.lookup qd with
  | some (.established localAddr remote) => inner.onConnection profile (localAddr, remote) action
  | _ => .ok inner

/-! ## Migration -/

/-- What this server contributes to a connection that it rebuilds. -/
def importer (inner : Inner κ ρ) : Importer :=
  ⟨inner.localLinkAddr, inner.tcpConfig.txChecksumOffload, inner.tcpConfig.ackDelayTimeout⟩

/-- `migrate_out_connection`. -/
def migrateOutConnection (inner : Inner κ ρ) (qd : QDesc) : Checked (Inner κ ρ × TcpState) :=
  match inner.sockets.lookup qd with
  | none => .error .invalidQdForMigratingOut
  | some (.established localAddr remote) =>
    let conn := (localAddr, remote)
    match inner.qds.lookup conn with
    | none => .error .noQdsEntry
    | some _ =>
      match inner.established.lookup conn with
      | none => .error .socketsEstablishedInconsistency
      | some connection => do
        let state ← ControlBlockState.ofControlBlock connection.cb
        .ok ({ inner with
          sockets := inner.sockets.insert qd (.migratedOut localAddr remote)
          qds := inner.qds.erase conn
          established := inner.established.erase conn
          woken := inner.woken ++ connection.cb.waker.toList }, TcpState.new state)
  | some _ => .error .invalidSocketTypeForMigratingOut

/-- `migrate_in_connection`. -/
def migrateInConnection (inner : Inner κ ρ) (state : TcpState) : Checked (Outcome κ ρ) :=
  let cb : ControlBlock κ ρ := .fromState inner.importer state.cb
  match inner.passive.lookup cb.localAddr with
  | none => .ok (inner, .error ⟨.EBADF, "socket not listening"⟩)
  | some passive => do
    let passive ← passive.pushMigratedIn cb
    .ok ({ inner with passive := inner.passive.insert cb.localAddr passive }, .ok ())

/-- Start a migration of an established connection, which is no longer counted. -/
def initiateMigration (profile : Profile) (inner : Inner κ ρ) (conn : Endpoints) (qd : QDesc) :
    Checked (Inner κ ρ) :=
  match inner.established.lookup conn with
  | none => .error .notInEstablishedTable
  | some connection => do
    let tcpmig ← inner.tcpmig.initiateMigration profile conn qd
    .ok { inner with
      established := inner.established.insert conn
        { connection with cb := connection.cb.disableStats }
      tcpmig }

/-- `initiate_migration_by_addr`. -/
def initiateMigrationByAddr (profile : Profile) (inner : Inner κ ρ) (conn : Endpoints) :
    Checked (Inner κ ρ) :=
  match inner.qds.lookup conn with
  | none => .error .noQdFoundForConnection
  | some qd => inner.initiateMigration profile conn qd

/-- `initiate_migration_by_qd`. -/
def initiateMigrationByQd (profile : Profile) (inner : Inner κ ρ) (qd : QDesc) :
    Checked (Outcome κ ρ) :=
  match inner.sockets.lookup qd with
  | none => .ok (inner, .error ⟨.EBADF, "socket does not exist"⟩)
  | some (.established localAddr remote) => do
    let inner ← inner.initiateMigration profile (localAddr, remote) qd
    .ok (inner, .ok ())
  | some _ => .ok (inner, .error ⟨.EBADF, "unsupported socket variant for migrating out"⟩)

/-- `migrate_out_and_send`. -/
def migrateOutAndSend (profile : Profile) (inner : Inner κ ρ) (qd : QDesc) :
    Checked (Inner κ ρ) := do
  let (inner, state) ← inner.migrateOutConnection qd
  let tcpmig ← inner.tcpmig.sendTcpState profile state
  .ok { inner with tcpmig }

/-- What `receive_tcpmig` does with the report of the migration peer. -/
def act (profile : Profile) (inner : Inner κ ρ) : TcpmigReceiveStatus → Checked (Outcome κ ρ)
  | .ok | .migrationCompleted | .sentReject => .ok (inner, .ok ())
  | .rejected localAddr remote =>
    match inner.established.lookup (localAddr, remote) with
    | none => .error .rejectedNonExistentConnection
    | some connection => do
      let cb ← connection.cb.enableStats
      .ok ({ inner with
        established := inner.established.insert (localAddr, remote) { connection with cb } }, .ok ())
  | .returnedBySwitch localAddr remote => do
    let inner ← inner.initiateMigrationByAddr profile (localAddr, remote)
    .ok (inner, .ok ())
  | .prepareMigrationAcked qd => do
    let inner ← { inner with migratedQd := some qd }.migrateOutAndSend profile qd
    .ok (inner, .ok ())
  | .stateReceived state => inner.migrateInConnection state
  | .heartbeatResponse _ => .ok (inner, .ok ())

/-- `receive_tcpmig`. The load threshold that a heartbeat sets is not kept. -/
def receiveTcpmig (profile : Profile) (inner : Inner κ ρ) (ipHdr : Ipv4Header) (buf : Buffer) :
    Checked (Outcome κ ρ) := do
  let (tcpmig, status) ← inner.tcpmig.receive profile ipHdr buf
  let inner := { inner with tcpmig }
  match status with
  | .error fail => .ok (inner, .error fail)
  | .ok status => inner.act profile status

/-- `register_application_state`. -/
def registerApplicationState (inner : Inner κ ρ) (qd : QDesc) (state : ApplicationState) :
    Checked (Inner κ ρ) :=
  match inner.sockets.lookup qd with
  | some (.established _ remote) =>
    .ok { inner with tcpmig := inner.tcpmig.registerApplicationState remote state }
  | _ => .error .noSocketForApplicationState

/-- `get_migrated_application_state`. -/
def getMigratedApplicationState (inner : Inner κ ρ) (qd : QDesc)
    (decode : Buffer → ApplicationState) : Checked (Inner κ ρ × Option ApplicationState) :=
  match inner.sockets.lookup qd with
  | some (.established _ remote) =>
    let (tcpmig, state) := inner.tcpmig.getMigratedApplicationState remote decode
    .ok ({ inner with tcpmig }, state)
  | _ => .error .noSocketForApplicationState

end Inner

end Capybara
