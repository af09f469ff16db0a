import Capybara.Lib.Tables
import Capybara.TcpMig.Active

/-!
# The migration peer of a server

`tcpmig/peer.rs`. The records of migrations in progress are keyed by the client
alone, and so are the application states that travel with a connection. A record is
made by the first message of a migration, on the side that sends it as on the side
that receives it, and removed when the origin learns the outcome or when the target
accepts the connection.

The switch sends a preparing message back when it would choose the server that sent
it. A server takes any preparing message for a client it has a record of for such a
returned one.
-/

namespace Capybara

open Wire Tables

/-- `FRONTEND_MAC`. -/
def FRONTEND_MAC : MacAddress := 0x08c0ebb6e805#48

/-- `FRONTEND_IP`. -/
def FRONTEND_IP : Ipv4Addr := 0x0a000108#32

/-- `BACKEND_MAC`. -/
def BACKEND_MAC : MacAddress := 0x08c0ebb6c5ad#48

/-- `BACKEND_IP`. -/
def BACKEND_IP : Ipv4Addr := 0x0a000109#32

/-- `SELF_UDP_PORT`. -/
def SELF_UDP_PORT : UInt16 := 10000

/-- `TcpMigPeer`; what it transmits is appended to `transmitted`. -/
structure TcpMigPeer where
  localLinkAddr : MacAddress
  localIpv4Addr : Ipv4Addr
  activeMigrations : Table SocketAddrV4 ActiveMigration
  selfUdpPort : UInt16
  applicationState : Table SocketAddrV4 MigratedApplicationState
  transmitted : List TcpMigSegment

namespace TcpMigPeer

/-- `TcpMigPeer::new`. -/
def new (localLinkAddr : MacAddress) (localIpv4Addr : Ipv4Addr) : TcpMigPeer where
  localLinkAddr
  localIpv4Addr
  activeMigrations := ∅
  selfUdpPort := SELF_UDP_PORT
  applicationState := ∅
  transmitted := []

/-- A new record: messages go to the other machine, through the switch. -/
def newActive (peer : TcpMigPeer) (destUdpPort : UInt16) (origin client : SocketAddrV4)
    (qd : Option QDesc) : ActiveMigration :=
  .new peer.localIpv4Addr peer.localLinkAddr
    (if peer.localIpv4Addr = FRONTEND_IP then BACKEND_IP else FRONTEND_IP)
    (if peer.localLinkAddr = FRONTEND_MAC then BACKEND_MAC else FRONTEND_MAC)
    peer.selfUdpPort destUdpPort origin client qd

/-- `set_port`. -/
def setPort (peer : TcpMigPeer) (port : UInt16) : TcpMigPeer := { peer with selfUdpPort := port }

/-- What `receive` does with the report of a record. -/
def conclude (peer : TcpMigPeer) (remote : SocketAddrV4) :
    TcpmigReceiveStatus → Checked (TcpMigPeer × Except Fail TcpmigReceiveStatus)
  | .prepareMigrationAcked qd => .ok (peer, .ok (.prepareMigrationAcked qd))
  | .stateReceived state =>
    match state.appState with
    | .migratedIn buffer =>
      .ok ({ peer with
          applicationState := peer.applicationState.insert state.cb.remote (.migratedIn buffer) },
        .ok (.stateReceived { state with appState := .none }))
    | _ => .ok (peer, .ok (.stateReceived state))
  | .migrationCompleted =>
    .ok ({ peer with activeMigrations := peer.activeMigrations.erase remote },
      .ok .migrationCompleted)
  | .rejected origin client =>
    .ok ({ peer with activeMigrations := peer.activeMigrations.erase remote },
      .ok (.rejected origin client))
  | .sentReject =>
    .ok ({ peer with activeMigrations := peer.activeMigrations.erase remote }, .ok .sentReject)
  | .ok => .ok (peer, .ok .ok)
  | .heartbeatResponse _ => .error .heartbeatNotHandledEarlier
  | .returnedBySwitch _ _ => .error .returnedByActiveMigration

/-- The part of `receive` that asks the record of the client. -/
def dispatch (profile : Profile) (peer : TcpMigPeer) (hdr : TcpMigHeader) (buf : Buffer) :
    Checked (TcpMigPeer × Except Fail TcpmigReceiveStatus) :=
  match peer.activeMigrations.lookup hdr.client with
  | none => .error .noSuchActiveMigration
  | some active => do
    let (active, sent, status) ← active.processPacket profile hdr buf
    let peer := { peer with
      activeMigrations := peer.activeMigrations.insert hdr.client active
      transmitted := peer.transmitted ++ sent }
    match status with
    | .error fail => .ok (peer, .error fail)
    | .ok status => peer.conclude hdr.client status

/-- `receive`, once the header has been parsed. -/
def receiveMessage (profile : Profile) (peer : TcpMigPeer) (hdr : TcpMigHeader) (buf : Buffer) :
    Checked (TcpMigPeer × Except Fail TcpmigReceiveStatus) :=
  if hdr.stage = .heartbeatResponse then
    if buf.length < 4 then .error .sliceOutOfRange
    else .ok (peer, .ok (.heartbeatResponse (ofBigEndian (buf.take 4))))
  else if hdr.stage = .prepareMigration then
    match peer.activeMigrations.lookup hdr.client with
    | some _ =>
      .ok ({ peer with activeMigrations := peer.activeMigrations.erase hdr.client },
        .ok (.returnedBySwitch hdr.origin hdr.client))
    | none =>
      let active := peer.newActive hdr.origin.port hdr.origin hdr.client none
      dispatch profile
        { peer with activeMigrations := peer.activeMigrations.insert hdr.client active } hdr buf
  else peer.dispatch profile hdr buf

/-- `receive`. -/
def receive (profile : Profile) (peer : TcpMigPeer) (ipv4Hdr : Ipv4Header) (buf : Buffer) :
    Checked (TcpMigPeer × Except Fail TcpmigReceiveStatus) :=
  match TcpMigHeader.parse ipv4Hdr buf with
  | .error fail => .ok (peer, .error fail)
  | .ok (hdr, buf) => peer.receiveMessage profile hdr buf

/-- `initiate_migration`. -/
def initiateMigration (profile : Profile) (peer : TcpMigPeer)
    (conn : SocketAddrV4 × SocketAddrV4) (qd : QDesc) : Checked TcpMigPeer :=
  match peer.activeMigrations.lookup conn.2 with
  | some _ => .error .duplicateInitiateMigration
  | none => do
    let active := peer.newActive (ActiveMigration.firstDestPort peer.selfUdpPort) conn.1 conn.2
      (some qd)
    let (active, sent) ← active.initiateMigration profile
    .ok { peer with
      activeMigrations := peer.activeMigrations.insert conn.2 active
      transmitted := peer.transmitted ++ sent }

/-- The application that `send_tcp_state` adds: one that is registered for the client. -/
def registered (peer : TcpMigPeer) (remote : SocketAddrV4) : Option ApplicationState :=
  match peer.applicationState.lookup remote with
  | some (.registered application) => some application
  | _ => none

/-- `send_tcp_state`. -/
def sendTcpState (profile : Profile) (peer : TcpMigPeer) (state : TcpState) : Checked TcpMigPeer :=
  let remote := state.cb.remote
  let state := state.withApplication (peer.registered remote)
  match peer.activeMigrations.lookup remote with
  | none => .error .noRecordForState
  | some active => do
    let (active, sent) ← active.sendConnectionState profile state
    .ok { peer with
      activeMigrations := peer.activeMigrations.insert remote active
      applicationState := peer.applicationState.erase remote
      transmitted := peer.transmitted ++ sent }

/-- `try_buffer_packet`: the peer with the packet in the record of the client, if any. -/
def tryBufferPacket (peer : TcpMigPeer) (remote : SocketAddrV4) (tcpHdr : TcpHeader)
    (data : Buffer) : Option TcpMigPeer :=
  (peer.activeMigrations.lookup remote).map fun active =>
    { peer with
      activeMigrations := peer.activeMigrations.insert remote (active.bufferPacket tcpHdr data) }

/-- `close_active_migration`: the packets that the record of the client has kept. -/
def closeActiveMigration (peer : TcpMigPeer) (remote : SocketAddrV4) :
    TcpMigPeer × Option (List (TcpHeader × Buffer)) :=
  ({ peer with activeMigrations := peer.activeMigrations.erase remote },
    (peer.activeMigrations.lookup remote).map ActiveMigration.recvQueue)

/-- `register_application_state`. -/
def registerApplicationState (peer : TcpMigPeer) (remote : SocketAddrV4)
    (state : ApplicationState) : TcpMigPeer :=
  { peer with applicationState := peer.applicationState.insert remote (.registered state) }

/-- `get_migrated_application_state`, with the decoder of the application. Any state
that did not migrate in is removed. -/
def getMigratedApplicationState (peer : TcpMigPeer) (remote : SocketAddrV4)
    (decode : Buffer → ApplicationState) : TcpMigPeer × Option ApplicationState :=
  match peer.applicationState.lookup remote with
  | some (.migratedIn buffer) =>
    let state := decode buffer
    ({ peer with applicationState := peer.applicationState.insert remote (.registered state) },
      some state)
  | _ => ({ peer with applicationState := peer.applicationState.erase remote }, none)

end TcpMigPeer

end Capybara
