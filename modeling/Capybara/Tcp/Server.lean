import Capybara.Tcp.Peer

/-!
# A server as a system

The application calls the stack, segments and migration messages arrive, and the
coroutines of the connections run. The executor is single-threaded, so these
operations never overlap; their order is arbitrary. An operation that panics ends
the run.
-/

namespace Capybara

variable {κ ρ : Type} [CongestionControl κ] [RtoCalculator ρ]

/-- A round of one of the coroutines of an established connection. -/
inductive Round where
  | sender (env : Env) (reply : ArpReply)
  | retransmitter (env : Env)
  | acknowledger (env : Env)

/-- The step of the connection that a round takes. -/
def Round.action : Round → Action
  | .sender env reply => .senderRound env reply
  | .retransmitter env => .retransmitterRound env
  | .acknowledger env => .acknowledgerRound env

/-- Everything that can happen to a server. -/
inductive Operation where
  | socket (qd : QDesc)
  | bind (qd : QDesc) (addr : SocketAddrV4)
  | listen (qd : QDesc) (backlog : Nat)
  | accept (env : Env) (qd newQd : QDesc) (waker : Waker)
  | connect (digest : UInt32) (qd : QDesc) (remote : SocketAddrV4)
  | connectFinished (qd : QDesc) (waker : Waker)
  | connectTimeout (key : Endpoints)
  | close (env : Env) (qd : QDesc)
  | push (env : Env) (qd : QDesc) (buf : Buffer)
  | pop (qd : QDesc) (waker : Waker)
  | background (key : Endpoints) (round : Round)
  | segment (env : Env) (digest : UInt32) (ipHdr : Ipv4Header) (tcpHdr : TcpHeader) (data : Buffer)
  | message (ipHdr : Ipv4Header) (buf : Buffer)
  | migrateByAddr (conn : Endpoints)
  | migrateByQd (qd : QDesc)
  | migrateOut (qd : QDesc)
  | registerState (qd : QDesc) (state : ApplicationState)
  | fetchState (qd : QDesc) (decode : Buffer → ApplicationState)

namespace Inner

/-- One operation. Its result is of interest only to the caller. -/
def step (profile : Profile) (inner : Inner κ ρ) : Operation → Checked (Inner κ ρ)
  | .socket qd => .ok (inner.doSocket qd).1
  | .bind qd addr => .ok (inner.bind qd addr).1
  | .listen qd backlog => .ok (inner.listen qd backlog).1
  | .accept env qd newQd waker => do
    let (inner, _) ← inner.pollAccept profile env qd newQd waker
    .ok inner
  | .connect digest qd remote => do
    let (inner, _) ← inner.connect profile digest qd remote
    .ok inner
  | .connectFinished qd waker => do
    let (inner, _) ← inner.pollConnectFinished qd waker
    .ok inner
  | .connectTimeout key => .ok (inner.connectTimeout key)
  | .close env qd => do
    let (inner, _) ← inner.doClose profile env qd
    .ok inner
  | .push env qd buf => inner.onSocket profile qd (.send env buf)
  | .pop qd waker => inner.onSocket profile qd (.pollRecv waker)
  | .background key round => inner.onConnection profile key round.action
  | .segment env digest ipHdr tcpHdr data => do
    let (inner, _) ← inner.receive profile env digest ipHdr tcpHdr data
    .ok inner
  | .message ipHdr buf => do
    let (inner, _) ← inner.receiveTcpmig profile ipHdr buf
    .ok inner
  | .migrateByAddr conn => inner.initiateMigrationByAddr profile conn
  | .migrateByQd qd => do
    let (inner, _) ← inner.initiateMigrationByQd profile qd
    .ok inner
  | .migrateOut qd => inner.migrateOutAndSend profile qd
  | .registerState qd state => inner.registerApplicationState qd state
  | .fetchState qd decode => do
    let (inner, _) ← inner.getMigratedApplicationState qd decode
    .ok inner

/-- A successful operation of a server. -/
abbrev Transition (κ ρ : Type) := Runs.Transition (Inner κ ρ) Operation

/-- The servers reached from `start`, with the operations that led there. -/
abbrev Run (profile : Profile) (start : Inner κ ρ) :
    List (Transition κ ρ) → Inner κ ρ → Prop :=
  Runs.Run (step profile) start

/-- Carry out operations one after the other. -/
def execute (profile : Profile) (start : Inner κ ρ) (operations : List Operation) :
    Checked (List (Transition κ ρ) × Inner κ ρ) :=
  Runs.execute (step profile) ([], start) operations

end Inner

/-! ## A server to evaluate -/

/-- A configuration with a window of 1000 bytes and no scaling. -/
def TcpConfig.sample : TcpConfig := ⟨1000, 0, 5000000, false, false⟩

/-- A server that has not been used yet. -/
def Inner.sample (ip : Ipv4Addr) : Inner NoCongestionControl IntegerRto :=
  .new ⟨[50000, 50001]⟩ 3#48 ip .sample

/-- The client of the samples. -/
def SocketAddrV4.sampleClient : SocketAddrV4 := ⟨0x0a000002#32, 4321⟩

/-- A socket of 10.0.0.1 listens on a port. -/
def listenOperations (qd : QDesc) (port : UInt16) : List Operation :=
  [.socket qd, .bind qd ⟨0x0a000001#32, port⟩, .listen qd 5]

/-- The client opens a connection to a port of 10.0.0.1; its next number is 103. -/
def handshakeOperations (port : UInt16) : List Operation := [
  .segment (.sample 0) 20 ⟨0x0a000002#32, 0x0a000001#32⟩ { TcpHeader.new 4321 port with
    syn := true, seqNum := SeqNumber.ofU32 102, windowSize := 1000 } [],
  .segment (.sample 0) 0 ⟨0x0a000002#32, 0x0a000001#32⟩ { TcpHeader.new 4321 port with
    ack := true, seqNum := SeqNumber.ofU32 103, ackNum := SeqNumber.ofU32 21,
    windowSize := 1000 } []]

/-- The header of a data segment of the client. -/
def TcpHeader.sampleData (port : UInt16) (seqNum : Nat) : TcpHeader :=
  { TcpHeader.new 4321 port with
    ack := true, seqNum := SeqNumber.ofU32 seqNum, ackNum := SeqNumber.ofU32 21, windowSize := 1000 }

/-- The client sends data to a port of 10.0.0.1. -/
def Operation.fromClient (port : UInt16) (seqNum : Nat) (data : Buffer) : Operation :=
  .segment (.sample 0) 0 ⟨0x0a000002#32, 0x0a000001#32⟩ (.sampleData port seqNum) data

/-- A message, in one piece, of the server 10.0.0.3 about its connection with the client. -/
def TcpMigSegment.sample (stage : MigrationStage) (data : Buffer) : TcpMigSegment where
  dstLinkAddr := 3#48
  srcLinkAddr := 4#48
  ipv4Hdr := ⟨0x0a000003#32, 0x0a000001#32⟩
  tcpmigHdr := .new ⟨0x0a000003#32, 80⟩ .sampleClient 0 stage 80 80
  data

/-- The message arrives. -/
def Operation.fromOrigin (stage : MigrationStage) (data : Buffer) : Operation :=
  .message (TcpMigSegment.sample stage data).ipv4Hdr (TcpMigSegment.sample stage data).datagram

/-- The bytes of the sample state, without an application. -/
def TcpState.sampleBytes : Buffer := (TcpState.new .sample).serialize.toOption.getD []

end Capybara
