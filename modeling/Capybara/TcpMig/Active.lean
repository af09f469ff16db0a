import Capybara.Tcp.TcpState
import Capybara.Tcp.Segment
import Capybara.TcpMig.Segment

/-!
# One migration in progress

`tcpmig/active.rs`. Both sides of a migration keep a record that remembers only the
last message they sent; an arriving message is judged by it alone. The origin
prepares the migration, exports the state once the target has answered and waits
for the acknowledgement of the state. The target answers, collects the fragments of
the state and acknowledges it. Client segments that reach a server with a record are
kept in the record.

Messages that a step hands to the network runtime are returned with its result.
-/

namespace Capybara

/-- `ActiveMigration`. -/
structure ActiveMigration where
  localIpv4Addr : Ipv4Addr
  localLinkAddr : MacAddress
  remoteIpv4Addr : Ipv4Addr
  remoteLinkAddr : MacAddress
  selfUdpPort : UInt16
  destUdpPort : UInt16
  origin : SocketAddrV4
  client : SocketAddrV4
  lastSentStage : MigrationStage
  qd : Option QDesc
  recvQueue : List (TcpHeader × Buffer)
  defragmenter : TcpMigDefragmenter
  deriving DecidableEq, Repr

/-- `TcpmigReceiveStatus`. -/
inductive TcpmigReceiveStatus where
  | ok
  | sentReject
  | rejected (origin client : SocketAddrV4)
  | returnedBySwitch (origin client : SocketAddrV4)
  | prepareMigrationAcked (qd : QDesc)
  | stateReceived (state : TcpState)
  | migrationCompleted
  | heartbeatResponse (globalQueueLenSum : Nat)

namespace ActiveMigration

/-- `ActiveMigration::new`. -/
def new (localIpv4Addr : Ipv4Addr) (localLinkAddr : MacAddress) (remoteIpv4Addr : Ipv4Addr)
    (remoteLinkAddr : MacAddress) (selfUdpPort destUdpPort : UInt16) (origin client : SocketAddrV4)
    (qd : Option QDesc) : ActiveMigration where
  localIpv4Addr
  localLinkAddr
  remoteIpv4Addr
  remoteLinkAddr
  selfUdpPort
  destUdpPort
  origin
  client
  lastSentStage := .none
  qd
  recvQueue := []
  defragmenter := .new

/-- The header of the next message in reply to one: `next_header`. -/
def nextHeader (hdr : TcpMigHeader) (nextStage : MigrationStage) : TcpMigHeader :=
  { hdr with stage := nextStage }.swapSrcDstPort

/-- `send`: the fragments of the message. -/
def send (profile : Profile) (active : ActiveMigration) (tcpmigHdr : TcpMigHeader) (buf : Buffer) :
    Checked (List TcpMigSegment) :=
  if buf.length / MAX_FRAGMENT_SIZE > 2 ^ 16 - 1 then .error .stateTooLarge
  else TcpMigSegment.fragments profile {
    dstLinkAddr := active.remoteLinkAddr
    srcLinkAddr := active.localLinkAddr
    ipv4Hdr := ⟨active.localIpv4Addr, active.remoteIpv4Addr⟩
    tcpmigHdr
    data := buf }

/-- A record after a message, the messages it sent, and what it reports. -/
abbrev Reaction := ActiveMigration × List TcpMigSegment × Except Fail TcpmigReceiveStatus

/-- A message that the last sent stage does not expect. -/
def refuse (active : ActiveMigration) (cause : String) : Checked Reaction :=
  .ok (active, [], .error ⟨.EBADMSG, cause⟩)

/-- "Expect PREPARE_MIGRATION and send ACK." -/
def processFresh (profile : Profile) (active : ActiveMigration) (hdr : TcpMigHeader) :
    Checked Reaction :=
  match hdr.stage with
  | .prepareMigration => do
    let hdr := { nextHeader hdr .prepareMigrationAck with flagLoad := true }
    let active := { active with lastSentStage := .prepareMigrationAck }
    let sent ← active.send profile hdr []
    .ok (active, sent, .ok .ok)
  | _ => active.refuse "expected PREPARE_MIGRATION"

/-- "Expect ACK and mark as prepared for migration. Handle failure if REJECTED." -/
def processPreparing (active : ActiveMigration) (hdr : TcpMigHeader) : Checked Reaction :=
  match hdr.stage with
  | .prepareMigrationAck =>
    let active := { active with destUdpPort := hdr.sourceUdpPort }
    match active.qd with
    | some qd => .ok (active, [], .ok (.prepareMigrationAcked qd))
    | none => .error .noQdOnOriginSide
  | .rejected => .ok (active, [], .ok (.rejected hdr.origin hdr.client))
  | _ => active.refuse "expected PREPARE_MIGRATION_ACK or REJECTED"

/-- "Expect CONNECTION_STATE and send ACK." -/
def processPrepared (profile : Profile) (active : ActiveMigration) (hdr : TcpMigHeader)
    (buf : Buffer) : Checked Reaction :=
  match hdr.stage with
  | .connectionState => do
    let (defragmenter, whole) ← active.defragmenter.defragment profile hdr buf
    let active := { active with defragmenter }
    match whole with
    | none => .ok (active, [], .ok .ok)
    | some (hdr, buf) => do
      let state ← TcpState.deserialize profile buf
      let state := state.setLocal ⟨active.localIpv4Addr, active.selfUdpPort⟩
      let active := { active with lastSentStage := .connectionStateAck }
      let sent ← active.send profile (nextHeader hdr .connectionStateAck) []
      .ok (active, sent, .ok (.stateReceived state))
  | _ => active.refuse "expected CONNECTION_STATE"

/-- "Expect ACK and send FIN." -/
def processExported (active : ActiveMigration) (hdr : TcpMigHeader) : Checked Reaction :=
  match hdr.stage with
  | .connectionStateAck => .ok (active, [], .ok .migrationCompleted)
  | _ => active.refuse "expected CONNECTION_STATE_ACK"

/-- `process_packet`. -/
def processPacket (profile : Profile) (active : ActiveMigration) (hdr : TcpMigHeader)
    (buf : Buffer) : Checked Reaction :=
  match active.lastSentStage with
  | .none => active.processFresh profile hdr
  | .prepareMigration => active.processPreparing hdr
  | .prepareMigrationAck => active.processPrepared profile hdr buf
  | .connectionState => active.processExported hdr
  | .connectionStateAck => .ok (active, [], .ok .ok)
  | .rejected => .error .packetAfterReject
  | .heartbeatUpdate | .heartbeatResponse => .error .heartbeatNotMigration

/-- The port that preparing messages are sent to. -/
def firstDestPort (selfUdpPort : UInt16) : UInt16 := if selfUdpPort = 10001 then 10000 else 10001

/-- `initiate_migration`. -/
def initiateMigration (profile : Profile) (active : ActiveMigration) :
    Checked (ActiveMigration × List TcpMigSegment) :=
  if active.lastSentStage ≠ .none then .error .alreadyInitiated
  else do
    let tcpmigHdr := TcpMigHeader.new active.origin active.client 0 .prepareMigration
      active.selfUdpPort (firstDestPort active.selfUdpPort)
    let active := { active with lastSentStage := .prepareMigration }
    let sent ← active.send profile tcpmigHdr []
    .ok (active, sent)

/-- `send_connection_state`. -/
def sendConnectionState (profile : Profile) (active : ActiveMigration) (state : TcpState) :
    Checked (ActiveMigration × List TcpMigSegment) :=
  if active.lastSentStage ≠ .prepareMigration then .error .notBeingPrepared
  else do
    let buf ← state.serialize
    let tcpmigHdr := TcpMigHeader.new active.origin active.client 0 .connectionState
      active.selfUdpPort active.destUdpPort
    let active := { active with lastSentStage := .connectionState }
    let sent ← active.send profile tcpmigHdr buf
    .ok (active, sent)

/-- `buffer_packet`. -/
def bufferPacket (active : ActiveMigration) (tcpHdr : TcpHeader) (data : Buffer) : ActiveMigration :=
  { active with recvQueue := active.recvQueue ++ [(tcpHdr, data)] }

end ActiveMigration

end Capybara
