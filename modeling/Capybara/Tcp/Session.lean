import Capybara.Tcp.ClientRecord
import Capybara.Tcp.Delivery
import Capybara.Tcp.Opening

/-!
# A session from its first SYN

A client connects to a listening server over a network that loses, duplicates, delays and
reorders. The client is a connecting socket until its application has taken the connection;
the server is a listening socket, which serves other clients as well, until its application
has accepted the connection. Whatever has been sent for one of the two may reach the other
at any later time: a SYN may reach an established connection, data may complete a handshake,
and an accepted connection may migrate.

`Setup` fixes the configurations of both sides; the number that the server chooses is the only
thing a handshake adds, so `Setup.args` says what the two control blocks are built from.
-/

namespace Capybara

open Tables

variable {κ ρ : Type}

/-- The configurations of a client and a server, and the number that the client begins with. -/
structure Setup where
  clientIsn : SeqNumber
  clientAddr : SocketAddrV4
  serverAddr : SocketAddrV4
  clientLinkAddr : MacAddress
  serverLinkAddr : MacAddress
  clientTcp : TcpConfig
  serverTcp : TcpConfig
  clientConfig : HandshakeConfig
  serverConfig : HandshakeConfig
  maxBacklog : Nat

namespace Setup

/-- What the setters of a `TcpConfig` assert, with the largest window scale in use. -/
structure Valid (setup : Setup) : Prop where
  clientMss : FALLBACK_MSS ≤ setup.clientConfig.advertisedMss ∧
    setup.clientConfig.advertisedMss < 2 ^ 16
  serverMss : FALLBACK_MSS ≤ setup.serverConfig.advertisedMss ∧
    setup.serverConfig.advertisedMss < 2 ^ 16
  serverScale : setup.serverTcp.windowScale ≤ 14

/-- The header of the client's SYN. -/
def syn (setup : Setup) : TcpHeader :=
  synHeader setup.clientAddr setup.serverAddr setup.clientIsn setup.clientTcp setup.clientConfig

/-- The header of the server's SYN+ACK. -/
def synAck (setup : Setup) (serverIsn : SeqNumber) : TcpHeader :=
  { TcpHeader.new setup.serverAddr.port setup.clientAddr.port with
    syn := true
    seqNum := serverIsn
    ack := true
    ackNum := setup.clientIsn + SeqNumber.ofU32 1
    windowSize := setup.serverTcp.receiveWindowSize
    options := [.maximumSegmentSize (UInt16.ofNat setup.serverConfig.advertisedMss),
      .windowScale setup.serverTcp.windowScale] }

/-- The value of a shift that succeeds. -/
def shifted (result : Checked UInt32) : UInt32 := result.toOption.getD 0

/-- What the two control blocks are built from. -/
def args (setup : Setup) (serverIsn : SeqNumber) : Side → NewConnection
  | .client => {
    localAddr := setup.clientAddr
    remote := setup.serverAddr
    localLinkAddr := setup.clientLinkAddr
    txChecksumOffload := setup.clientTcp.txChecksumOffload
    receiverSeqNo := serverIsn + SeqNumber.ofU32 1
    ackDelayTimeout := setup.clientTcp.ackDelayTimeout
    receiverWindowSize := shifted
      (checkedShlU16 setup.clientTcp.receiveWindowSize setup.clientTcp.windowScale.toUInt32.toNat)
    receiverWindowScale := setup.clientTcp.windowScale.toUInt32
    senderSeqNo := setup.clientIsn + SeqNumber.ofU32 1
    senderWindowSize := shifted
      (checkedShlU16 setup.serverTcp.receiveWindowSize setup.serverTcp.windowScale.toNat)
    senderWindowScale := setup.serverTcp.windowScale
    senderMss := (UInt16.ofNat setup.serverConfig.advertisedMss).toNat }
  | .server => {
    localAddr := setup.serverAddr
    remote := setup.clientAddr
    localLinkAddr := setup.serverLinkAddr
    txChecksumOffload := setup.serverTcp.txChecksumOffload
    receiverSeqNo := setup.clientIsn + SeqNumber.ofU32 1
    ackDelayTimeout := setup.serverTcp.ackDelayTimeout
    receiverWindowSize := shifted
      (checkedShlU32 setup.serverTcp.receiveWindowSize.toNat
        setup.serverTcp.windowScale.toUInt32.toNat)
    receiverWindowScale := setup.serverTcp.windowScale.toUInt32
    senderSeqNo := serverIsn + SeqNumber.ofU32 1
    senderWindowSize := shifted
      (checkedShlU16 setup.clientTcp.receiveWindowSize setup.clientTcp.windowScale.toNat)
    senderWindowScale := setup.clientTcp.windowScale
    senderMss := (UInt16.ofNat setup.clientConfig.advertisedMss).toNat }

end Setup

/-- The client: a connecting socket, a connection that its application has taken, or a
connection that could not be opened, with what has been sent. -/
inductive ClientEnd (κ ρ : Type) where
  | connecting (opening : Opening κ ρ)
  | connected (endpoint : Endpoint κ ρ)
  | failed (transmitted : List TcpSegment)

/-- What has been sent for the client. -/
def ClientEnd.sent : ClientEnd κ ρ → List TcpSegment
  | .connecting opening => opening.transmitted
  | .connected endpoint => endpoint.sent
  | .failed transmitted => transmitted

/-- A client, the listening socket of the server and the connection it has accepted from the
client. -/
structure Session (κ ρ : Type) where
  client : ClientEnd κ ρ
  listener : Listener κ ρ
  accepted : Option (Endpoint κ ρ)

/-- What happens in a session. -/
inductive SessionAction where
  /-- The coroutine of the connecting socket goes on. -/
  | clientBackground (now : Instant) (arp : Option (Except Fail MacAddress))
  /-- The application of the client asks for its connection. -/
  | clientPolls (waker : Waker)
  /-- A segment that has been sent by the server, known by its place, arrives. -/
  | clientHears (env : Env) (place : Nat)
  | clientActs (own : OwnAction)
  /-- A segment that has been sent by the client arrives. -/
  | serverHears (env : Env) (digest : UInt32) (place : Nat)
  /-- A segment of another client arrives. -/
  | serverHearsOther (digest : UInt32) (ipHeader : Ipv4Header) (header : TcpHeader)
  /-- The coroutine of a handshake goes on. -/
  | serverBackground (remote : SocketAddrV4) (now : Instant)
      (arp : Option (Except Fail MacAddress))
  /-- The application of the server accepts a connection. -/
  | serverAccepts (waker : Waker)
  | serverActs (own : OwnAction)
  /-- The accepted connection moves to another server. -/
  | serverMigrates (application : Option ApplicationState) (importer : Importer)
      (localAddr : SocketAddrV4)

namespace Session

/-- What has been sent for the client by the server. -/
def serverSent (setup : Setup) (session : Session κ ρ) : List TcpSegment :=
  (session.listener.record setup.clientAddr).sent ++
    (session.accepted.map Endpoint.sent).getD []

/-- A client and a server that have not heard of each other. -/
def new (setup : Setup) : Session κ ρ where
  client := .connecting (.new setup.clientIsn setup.clientAddr setup.serverAddr setup.clientTcp
    setup.clientConfig setup.clientLinkAddr)
  listener := .new setup.serverAddr setup.maxBacklog setup.serverTcp setup.serverConfig
    setup.serverLinkAddr
  accepted := none

variable [CongestionControl κ] [RtoCalculator ρ]

/-- A segment arrives at an endpoint. -/
def hears (profile : Profile) (env : Env) (segment : TcpSegment) (endpoint : Endpoint κ ρ) :
    Checked (Endpoint κ ρ) := do
  let connection ← endpoint.connection.step profile
    (.receive env segment.tcpHdr (segment.data.getD []))
  .ok { endpoint with connection }

/-- An endpoint acts by itself. -/
def acts (profile : Profile) (own : OwnAction) (endpoint : Endpoint κ ρ) :
    Checked (Endpoint κ ρ) := do
  let connection ← endpoint.connection.step profile own.action
  .ok { endpoint with connection }

/-- The application of the client asks for its connection. -/
def polls (waker : Waker) (opening : Opening κ ρ) : ClientEnd κ ρ :=
  match opening.socket.pollResult waker with
  | (socket, none) => .connecting { opening with socket }
  | (_, some (.error _)) => .failed opening.transmitted
  | (_, some (.ok cb)) => .connected ⟨⟨cb, .top⟩, opening.transmitted⟩

/-- A segment of the server arrives at the client. -/
def clientHears (profile : Profile) (env : Env) (segment : TcpSegment) :
    ClientEnd κ ρ → Checked (ClientEnd κ ρ)
  | .connecting opening => do
    let opening ← opening.receive env segment.tcpHdr
    .ok (.connecting opening)
  | .connected endpoint => do
    let endpoint ← hears profile env segment endpoint
    .ok (.connected endpoint)
  | .failed transmitted => .ok (.failed transmitted)

/-- A segment of the client arrives at the server: it is for the accepted connection, if there
is one, and else for the listening socket. -/
def serverHears (profile : Profile) (env : Env) (digest : UInt32) (segment : TcpSegment)
    (session : Session κ ρ) : Checked (Session κ ρ) :=
  match session.accepted with
  | some endpoint => do
    let endpoint ← hears profile env segment endpoint
    .ok { session with accepted := some endpoint }
  | none => do
    let listener ← session.listener.step profile
      (.segment digest ⟨segment.srcAddr, segment.dstAddr⟩ segment.tcpHdr)
    .ok { session with listener }

/-- The application of the server accepts a connection, perhaps that of the client. -/
def serverAccepts (setup : Setup) (waker : Waker) (session : Session κ ρ) :
    Checked (Session κ ρ) := do
  let (ready, polled) ← session.listener.passive.ready.poll waker
  let listener := { session.listener with passive := { session.listener.passive with ready } }
  match polled with
  | some (.ok cb) =>
    if cb.remote = setup.clientAddr then
      .ok { session with listener, accepted := some ⟨⟨cb, .top⟩, []⟩ }
    else .ok { session with listener }
  | some (.error _) | none => .ok { session with listener }

/-- The accepted connection moves to another server. -/
def serverMigrates (profile : Profile) (application : Option ApplicationState)
    (importer : Importer) (localAddr : SocketAddrV4) (endpoint : Endpoint κ ρ) :
    Checked (Endpoint κ ρ) := do
  let cb ← endpoint.connection.cb.migrate profile application importer localAddr
  .ok ⟨⟨cb, .top⟩, endpoint.sent⟩

/-- One step. Nothing arrives from a place where nothing has been sent, and no other client
sends from the address of the client. -/
def step (setup : Setup) (profile : Profile) (session : Session κ ρ) :
    SessionAction → Checked (Session κ ρ)
  | .clientBackground now arp =>
    match session.client with
    | .connecting opening => .ok { session with client := .connecting (opening.background now arp) }
    | .connected _ | .failed _ => .ok session
  | .clientPolls waker =>
    match session.client with
    | .connecting opening => .ok { session with client := polls waker opening }
    | .connected _ | .failed _ => .ok session
  | .clientHears env place =>
    match (session.serverSent setup)[place]? with
    | some segment => do
      let client ← clientHears profile env segment session.client
      .ok { session with client }
    | none => .ok session
  | .clientActs own =>
    match session.client with
    | .connected endpoint => do
      let endpoint ← acts profile own endpoint
      .ok { session with client := .connected endpoint }
    | .connecting _ | .failed _ => .ok session
  | .serverHears env digest place =>
    match session.client.sent[place]? with
    | some segment => session.serverHears profile env digest segment
    | none => .ok session
  | .serverHearsOther digest ipHeader header =>
    if Listener.source ipHeader header = setup.clientAddr then .ok session
    else do
      let listener ← session.listener.step profile (.segment digest ipHeader header)
      .ok { session with listener }
  | .serverBackground remote now arp => do
    let listener ← session.listener.step profile (.background remote now arp)
    .ok { session with listener }
  | .serverAccepts waker => session.serverAccepts setup waker
  | .serverActs own =>
    match session.accepted with
    | some endpoint => do
      let endpoint ← acts profile own endpoint
      .ok { session with accepted := some endpoint }
    | none => .ok session
  | .serverMigrates application importer localAddr =>
    match session.accepted with
    | some endpoint => do
      let endpoint ← serverMigrates profile application importer localAddr endpoint
      .ok { session with accepted := some endpoint }
    | none => .ok session

/-- A successful step. -/
abbrev Transition (κ ρ : Type) := Runs.Transition (Session κ ρ) SessionAction

/-- The sessions that can be reached, with the steps that led there. -/
abbrev Run (setup : Setup) (profile : Profile) :
    List (Transition κ ρ) → Session κ ρ → Prop :=
  Runs.Run (step setup profile) (new setup)

omit [CongestionControl κ] [RtoCalculator ρ] in
/-- The connection of an end, once its application has it. -/
def endpoint (session : Session κ ρ) : Side → Option (Endpoint κ ρ)
  | .client =>
    match session.client with
    | .connected endpoint => some endpoint
    | .connecting _ | .failed _ => none
  | .server => session.accepted

/-- The end that acts by itself in a step, and how. -/
def SessionAction.actor : SessionAction → Option (Side × OwnAction)
  | .clientActs own => some (.client, own)
  | .serverActs own => some (.server, own)
  | _ => none

/-- The bytes that a step adds to what the application of an end has written. -/
def writes (profile : Profile) (side : Side) (transition : Transition κ ρ) : Buffer :=
  match SessionAction.actor transition.action, transition.source.endpoint side,
      transition.target.endpoint side with
  | some (side', own), some source, some target =>
    if side' = side then
      Connection.accepted profile ⟨source.connection, own.action, target.connection⟩
    else []
  | _, _, _ => []

/-- All that the application of an end has written. -/
def written (profile : Profile) (side : Side) : List (Transition κ ρ) → Buffer
  | [] => []
  | transition :: past => written profile side past ++ writes profile side transition

omit [CongestionControl κ] [RtoCalculator ρ] in
/-- The bytes that a step hands to the application of an end. -/
def reads (side : Side) (transition : Transition κ ρ) : Buffer :=
  match SessionAction.actor transition.action, transition.source.endpoint side,
      transition.target.endpoint side with
  | some (side', own), some source, some target =>
    if side' = side then
      Connection.popped ⟨source.connection, own.action, target.connection⟩
    else []
  | _, _, _ => []

/-- All that the application of an end has read. -/
def read (side : Side) : List (Transition κ ρ) → Buffer
  | [] => []
  | transition :: past => read side past ++ reads side transition

/-- The steps that keep the streams, as for two ends of a connection. -/
def Kept (session : Session κ ρ) (action : SessionAction) : Prop :=
  (∀ side own endpoint, SessionAction.actor action = some (side, own) →
    session.endpoint side = some endpoint →
      Conversation.Unmarked endpoint.connection own.action) ∧
  ∀ application importer localAddr endpoint,
    action = .serverMigrates application importer localAddr →
    session.accepted = some endpoint →
      endpoint.connection.cb.state = .established ∧
      endpoint.connection.cb.userIsDoneSending = false

end Session

end Capybara
