import Capybara.Lib.Isolation
import Capybara.Tcp.Server
import Capybara.TcpMig.Receipts

/-!
# Migrations of different clients

The migration peer of a server keeps its records, the client segments in them and
the application states by the address of the client. A call is made for one client.
A message may also deliver a state, and the application state in it is kept for the
client that the state names.

To a client, the peer is the addresses of the server, its own record and its own
application state. Calls that do not concern the client leave this part as it is, and
the calls for the client read nothing else. So no call for another client can be
noticed, by a result, by a message or by a panic.

The local address is no part of the key. Two connections of one client, to two ports
of the server, share one record.
-/

namespace Capybara

open Tables Isolation

/-- A call that the TCP peer makes to the migration peer. -/
inductive PeerCall where
  | receive (ipv4Hdr : Ipv4Header) (buf : Buffer)
  | initiateMigration (conn : SocketAddrV4 × SocketAddrV4) (qd : QDesc)
  | sendTcpState (state : TcpState)
  | tryBufferPacket (remote : SocketAddrV4) (tcpHdr : TcpHeader) (data : Buffer)
  | closeActiveMigration (remote : SocketAddrV4)
  | registerApplicationState (remote : SocketAddrV4) (state : ApplicationState)
  | getMigratedApplicationState (remote : SocketAddrV4) (decode : Buffer → ApplicationState)

/-- The client that a call is made for. A message that does not parse is for no client. -/
def PeerCall.client : PeerCall → Option SocketAddrV4
  | .receive ipv4Hdr buf =>
    match TcpMigHeader.parse ipv4Hdr buf with
    | .error _ => none
    | .ok (hdr, _) => some hdr.client
  | .initiateMigration conn _ => some conn.2
  | .sendTcpState state => some state.cb.remote
  | .tryBufferPacket remote _ _ => some remote
  | .closeActiveMigration remote => some remote
  | .registerApplicationState remote _ => some remote
  | .getMigratedApplicationState remote _ => some remote

/-- The calls that are about the application state of a client. -/
def PeerCall.reserved (client : SocketAddrV4) : PeerCall → Bool
  | .sendTcpState state => state.cb.remote = client
  | .registerApplicationState remote _ => remote = client
  | .getMigratedApplicationState remote _ => remote = client
  | _ => false

/-- What a call returns to the TCP peer. -/
inductive PeerResult where
  | done
  | received (status : Except Fail TcpmigReceiveStatus)
  | buffered (kept : Bool)
  | closed (packets : Option (List (TcpHeader × Buffer)))
  | fetched (state : Option ApplicationState)

/-- A state of the client is delivered. -/
def PeerResult.delivers (client : SocketAddrV4) : PeerResult → Bool
  | .received (.ok (.stateReceived state)) => state.cb.remote = client
  | _ => false

/-- What can be seen of a call: its result and the messages it sends. -/
structure PeerAnswer where
  result : PeerResult
  sent : List TcpMigSegment

namespace TcpMigPeer

/-- The function that a call stands for. -/
def serve (profile : Profile) (peer : TcpMigPeer) : PeerCall → Checked (TcpMigPeer × PeerResult)
  | .receive ipv4Hdr buf => do
    let (peer, status) ← peer.receive profile ipv4Hdr buf
    .ok (peer, .received status)
  | .initiateMigration conn qd => do
    let peer ← peer.initiateMigration profile conn qd
    .ok (peer, .done)
  | .sendTcpState state => do
    let peer ← peer.sendTcpState profile state
    .ok (peer, .done)
  | .tryBufferPacket remote tcpHdr data =>
    match peer.tryBufferPacket remote tcpHdr data with
    | some peer => .ok (peer, .buffered true)
    | none => .ok (peer, .buffered false)
  | .closeActiveMigration remote =>
    let (peer, packets) := peer.closeActiveMigration remote
    .ok (peer, .closed packets)
  | .registerApplicationState remote state =>
    .ok (peer.registerApplicationState remote state, .done)
  | .getMigratedApplicationState remote decode =>
    let (peer, state) := peer.getMigratedApplicationState remote decode
    .ok (peer, .fetched state)

/-- A call, with the messages that were sent during it. -/
def perform (profile : Profile) (peer : TcpMigPeer) (call : PeerCall) :
    Checked (TcpMigPeer × PeerAnswer) := do
  let (peer', result) ← peer.serve profile call
  .ok (peer', ⟨result, peer'.transmitted.drop peer.transmitted.length⟩)

/-- A call concerns the client it is made for and the client whose state it delivers. -/
def Concerns (profile : Profile) (peer : TcpMigPeer) (call : PeerCall) (client : SocketAddrV4) : Prop :=
  call.client = some client ∨ ∃ peer' state,
    peer.serve profile call = .ok (peer', .received (.ok (.stateReceived state))) ∧
      state.cb.remote = client

/-- Two peers are the same to a client. -/
structure Agree (client : SocketAddrV4) (peer peer' : TcpMigPeer) : Prop where
  localLinkAddr : peer'.localLinkAddr = peer.localLinkAddr
  localIpv4Addr : peer'.localIpv4Addr = peer.localIpv4Addr
  selfUdpPort : peer'.selfUdpPort = peer.selfUdpPort
  record : peer'.activeMigrations.lookup client = peer.activeMigrations.lookup client
  application : peer'.applicationState.lookup client = peer.applicationState.lookup client

variable {profile : Profile} {client : SocketAddrV4} {peer peer' : TcpMigPeer}

/-- Agreeing about a client is an equivalence. -/
theorem agree_equivalence (client : SocketAddrV4) : Equivalence (Agree client) where
  refl _ := ⟨rfl, rfl, rfl, rfl, rfl⟩
  symm agrees := ⟨agrees.localLinkAddr.symm, agrees.localIpv4Addr.symm, agrees.selfUdpPort.symm,
    agrees.record.symm, agrees.application.symm⟩
  trans first second := ⟨second.localLinkAddr.trans first.localLinkAddr,
    second.localIpv4Addr.trans first.localIpv4Addr, second.selfUdpPort.trans first.selfUdpPort,
    second.record.trans first.record, second.application.trans first.application⟩

/-! ## Calls for others -/

/-- What a message does beside the records: an application state that arrives is kept for
the client of the state it came with. -/
def Keeps (peer peer' : TcpMigPeer) (status : Except Fail TcpmigReceiveStatus) : Prop :=
  peer'.localLinkAddr = peer.localLinkAddr ∧
  (peer'.applicationState = peer.applicationState ∨ ∃ state buffer,
    status = .ok (.stateReceived state) ∧ peer'.applicationState =
      peer.applicationState.insert state.cb.remote (.migratedIn buffer))

/-- What the peer does with the result of a message leaves the entries of the applications,
apart from a state that arrives. -/
theorem conclude_application {remote : SocketAddrV4} {report : TcpmigReceiveStatus}
    {status : Except Fail TcpmigReceiveStatus}
    (concluded : peer.conclude remote report = .ok (peer', status)) :
    peer.Keeps peer' status := by
  cases report with
  | stateReceived state =>
    unfold conclude at concluded
    dsimp only at concluded
    split at concluded
    · cases concluded
      exact ⟨rfl, .inr ⟨_, _, rfl, rfl⟩⟩
    · cases concluded
      exact ⟨rfl, .inl rfl⟩
  | heartbeatResponse _ => cases concluded
  | returnedBySwitch _ _ => cases concluded
  | _ =>
    cases concluded
    exact ⟨rfl, .inl rfl⟩

/-- So does a message in any state of its migration. -/
theorem dispatch_application {hdr : TcpMigHeader} {buf : Buffer}
    {status : Except Fail TcpmigReceiveStatus}
    (dispatched : peer.dispatch profile hdr buf = .ok (peer', status)) :
    peer.Keeps peer' status := by
  unfold dispatch at dispatched
  split at dispatched
  · cases dispatched
  obtain ⟨⟨active, sent, report⟩, processed, dispatched⟩ := bind_ok.mp dispatched
  cases report with
  | error fail =>
    cases dispatched
    exact ⟨rfl, .inl rfl⟩
  | ok report =>
    have concluded := conclude_application dispatched
    exact concluded

/-- So does every message that was parsed. -/
theorem receiveMessage_application {hdr : TcpMigHeader} {buf : Buffer}
    {status : Except Fail TcpmigReceiveStatus}
    (received : peer.receiveMessage profile hdr buf = .ok (peer', status)) :
    peer.Keeps peer' status := by
  unfold receiveMessage at received
  split at received
  · split at received
    · cases received
    · cases received
      exact ⟨rfl, .inl rfl⟩
  split at received
  · split at received
    · cases received
      exact ⟨rfl, .inl rfl⟩
    · have dispatched := dispatch_application received
      exact dispatched
  · exact dispatch_application received

/-- Starting a migration does not touch the application states. -/
theorem initiateMigration_application {conn : SocketAddrV4 × SocketAddrV4} {qd : QDesc}
    (initiated : peer.initiateMigration profile conn qd = .ok peer') :
    peer'.localLinkAddr = peer.localLinkAddr ∧ peer'.applicationState = peer.applicationState := by
  unfold initiateMigration at initiated
  split at initiated
  · cases initiated
  obtain ⟨⟨active, sent⟩, -, initiated⟩ := bind_ok.mp initiated
  cases initiated
  exact ⟨rfl, rfl⟩

/-- Sending a state takes the application state of its client away. -/
theorem sendTcpState_application {state : TcpState}
    (sends : peer.sendTcpState profile state = .ok peer') :
    peer'.localLinkAddr = peer.localLinkAddr ∧
      peer'.applicationState = peer.applicationState.erase state.cb.remote := by
  unfold sendTcpState at sends
  dsimp only at sends
  split at sends
  · cases sends
  obtain ⟨⟨active, sent⟩, -, sends⟩ := bind_ok.mp sends
  cases sends
  exact ⟨rfl, rfl⟩

/-- A call for a client changes the record of this client and, if it is about the application
state or delivers one, an application state. -/
structure Effect (client : SocketAddrV4) (peer : TcpMigPeer) (call : PeerCall) (peer' : TcpMigPeer)
    (result : PeerResult) : Prop where
  records : ∃ record sent, peer.Becomes peer' client record sent ∧
    (peer.Filed → ∀ active, record = some active → peer.Owns client active)
  link : peer'.localLinkAddr = peer.localLinkAddr
  application : ∀ other,
    peer'.applicationState.lookup other = peer.applicationState.lookup other ∨
      (other = client ∧ call.reserved client = true) ∨ result.delivers other = true

/-- A message has an effect for one client, or none. -/
theorem receive_effect {ipv4Hdr : Ipv4Header} {buf : Buffer}
    {status : Except Fail TcpmigReceiveStatus}
    (received : peer.receive profile ipv4Hdr buf = .ok (peer', status)) :
    peer' = peer ∨ ∃ client, (PeerCall.receive ipv4Hdr buf).client = some client ∧
      Effect client peer (.receive ipv4Hdr buf) peer' (.received status) := by
  unfold receive at received
  split at received
  · cases received
    exact .inl rfl
  · rename_i hdr payload parsed
    obtain ⟨record, sent, receipt, becomes⟩ := receiveMessage_receipt received
    obtain ⟨link, kept⟩ := receiveMessage_application received
    refine .inr ⟨hdr.client, by simp only [PeerCall.client, parsed],
      ⟨record, sent, becomes, receipt.filed⟩, link, fun other => ?_⟩
    obtain same | ⟨state, buffer, rfl, same⟩ := kept
    · exact .inl (by rw [same])
    · by_cases delivered : state.cb.remote = other
      · exact .inr (.inr (decide_eq_true delivered))
      · refine .inl ?_
        rw [same, Table.lookup_insert_eq, if_neg (Ne.symm delivered)]

/-- Everything that a call can do. -/
theorem serve_effect {call : PeerCall} {result : PeerResult}
    (served : peer.serve profile call = .ok (peer', result)) :
    peer' = peer ∨ ∃ client, call.client = some client ∧ Effect client peer call peer' result := by
  cases call with
  | receive ipv4Hdr buf =>
    obtain ⟨⟨after, status⟩, received, concluded⟩ := bind_ok.mp served
    cases concluded
    exact receive_effect received
  | initiateMigration conn qd =>
    obtain ⟨after, initiated, concluded⟩ := bind_ok.mp served
    cases concluded
    obtain ⟨-, sent, -, becomes⟩ := initiateMigration_ok initiated
    obtain ⟨link, application⟩ := initiateMigration_application initiated
    refine .inr ⟨conn.2, rfl, ⟨_, _, becomes, ?_⟩, link, fun other => .inl (by rw [application])⟩
    rintro filed _ ⟨⟩
    exact ⟨rfl, rfl⟩
  | sendTcpState state =>
    obtain ⟨after, sends, concluded⟩ := bind_ok.mp served
    cases concluded
    obtain ⟨active, bytes, sent, recorded, -, -, -, becomes⟩ := sendTcpState_ok sends
    obtain ⟨link, application⟩ := sendTcpState_application sends
    refine .inr ⟨state.cb.remote, rfl, ⟨_, _, becomes, ?_⟩, link, fun other => ?_⟩
    · rintro filed _ ⟨⟩
      exact (filed _ _ recorded :)
    · by_cases same : other = state.cb.remote
      · exact .inr (.inl ⟨same, decide_eq_true rfl⟩)
      · exact .inl (by rw [application, Table.lookup_erase_eq, if_neg same])
  | tryBufferPacket remote tcpHdr data =>
    unfold serve at served
    dsimp only at served
    split at served
    · rename_i after buffered
      cases served
      obtain ⟨active, recorded, becomes⟩ := tryBufferPacket_some buffered
      obtain ⟨active, -, rfl⟩ := Option.map_eq_some_iff.mp buffered
      refine .inr ⟨remote, rfl, ⟨_, _, becomes, ?_⟩, rfl, fun other => .inl rfl⟩
      rintro filed _ ⟨⟩
      exact (filed _ _ recorded :)
    · cases served
      exact .inl rfl
  | closeActiveMigration remote =>
    cases served
    refine .inr ⟨remote, rfl, ⟨_, _, closeActiveMigration_becomes peer remote, ?_⟩, rfl,
      fun other => .inl rfl⟩
    rintro filed _ ⟨⟩
  | registerApplicationState remote state =>
    cases served
    refine .inr ⟨remote, rfl, ⟨_, _, .same remote rfl rfl rfl rfl, fun filed => filed remote⟩, rfl,
      fun other => ?_⟩
    by_cases same : other = remote
    · exact .inr (.inl ⟨same, decide_eq_true rfl⟩)
    · exact .inl ((Table.lookup_insert_eq ..).trans (if_neg same))
  | getMigratedApplicationState remote decode =>
    unfold serve getMigratedApplicationState at served
    dsimp only at served
    split at served
    · cases served
      refine .inr ⟨remote, rfl, ⟨_, _, .same remote rfl rfl rfl rfl, fun filed => filed remote⟩, rfl,
        fun other => ?_⟩
      by_cases same : other = remote
      · exact .inr (.inl ⟨same, decide_eq_true rfl⟩)
      · exact .inl ((Table.lookup_insert_eq ..).trans (if_neg same))
    · cases served
      refine .inr ⟨remote, rfl, ⟨_, _, .same remote rfl rfl rfl rfl, fun filed => filed remote⟩, rfl,
        fun other => ?_⟩
      by_cases same : other = remote
      · exact .inr (.inl ⟨same, decide_eq_true rfl⟩)
      · exact .inl ((Table.lookup_erase_eq ..).trans (if_neg same))

/-- Records stay under their clients. -/
theorem serve_filed {call : PeerCall} {result : PeerResult} (filed : peer.Filed)
    (served : peer.serve profile call = .ok (peer', result)) : peer'.Filed := by
  obtain rfl | ⟨client, -, ⟨record, sent, becomes, own⟩, -, -⟩ := serve_effect served
  · exact filed
  · exact becomes.filed filed (own filed)

/-- The application state of a client is changed only by the calls that are about it and by
the delivery of a state. -/
theorem serve_application {call : PeerCall} {result : PeerResult}
    (unreserved : call.reserved client = false) (undelivered : result.delivers client = false)
    (served : peer.serve profile call = .ok (peer', result)) :
    peer'.applicationState.lookup client = peer.applicationState.lookup client := by
  obtain rfl | ⟨own, -, effect⟩ := serve_effect served
  · rfl
  · obtain same | ⟨rfl, reserved⟩ | delivered := effect.application client
    · exact same
    · cases unreserved.symm.trans reserved
    · cases undelivered.symm.trans delivered

/-- A call for another client that delivers no state of the client leaves everything of the
client as it was. -/
theorem serve_elsewhere {call : PeerCall} {result : PeerResult} (other : call.client ≠ some client)
    (undelivered : result.delivers client = false)
    (served : peer.serve profile call = .ok (peer', result)) : Agree client peer peer' := by
  obtain rfl | ⟨own, made, ⟨record, sent, becomes, -⟩, link, application⟩ := serve_effect served
  · exact (agree_equivalence client).refl peer'
  · have different : client ≠ own := fun same => other (same ▸ made)
    refine ⟨link, becomes.localIpv4Addr, becomes.selfUdpPort, becomes.other different, ?_⟩
    obtain same | ⟨same, -⟩ | delivered := application client
    · exact same
    · exact absurd same different
    · cases undelivered.symm.trans delivered

/-- A call that does not concern a client leaves everything of the client as it was. -/
theorem serve_agree {call : PeerCall} {result : PeerResult}
    (unconcerned : ¬ peer.Concerns profile call client)
    (served : peer.serve profile call = .ok (peer', result)) : Agree client peer peer' := by
  obtain ⟨other, elsewhere⟩ := not_or.mp unconcerned
  refine serve_elsewhere other (Bool.eq_false_iff.mpr fun delivered => ?_) served
  unfold PeerResult.delivers at delivered
  split at delivered
  · rename_i state
    exact elsewhere ⟨peer', state, served, of_decide_eq_true delivered⟩
  · cases delivered

/-! ## Calls for the client -/

/-- Two peers that agree go on to two peers that agree, and send the same messages. -/
structure Tracks (client : SocketAddrV4) (before before' peer peer' : TcpMigPeer) : Prop where
  agree : Agree client peer peer'
  sent : ∃ sent, peer.transmitted = before.transmitted ++ sent ∧
    peer'.transmitted = before'.transmitted ++ sent

variable {before before' : TcpMigPeer}

/-- The report of a record has the same consequences. -/
theorem conclude_alike (tracks : Tracks client before before' peer peer')
    (report : TcpmigReceiveStatus) :
    Alike (Tracks client before before') (peer.conclude client report)
      (peer'.conclude client report) := by
  obtain ⟨agree, sent⟩ := tracks
  have erased : Tracks client before before'
      { peer with activeMigrations := peer.activeMigrations.erase client }
      { peer' with activeMigrations := peer'.activeMigrations.erase client } := by
    refine ⟨⟨agree.localLinkAddr, agree.localIpv4Addr, agree.selfUdpPort, ?_, agree.application⟩, sent⟩
    dsimp only
    rw [AList.lookup_erase, AList.lookup_erase]
  cases report with
  | stateReceived state =>
    unfold conclude
    dsimp only
    split
    · rename_i buffer carried
      refine .returned _ ⟨⟨agree.localLinkAddr, agree.localIpv4Addr, agree.selfUdpPort,
        agree.record, ?_⟩, sent⟩
      dsimp only
      rw [Table.lookup_insert_eq, Table.lookup_insert_eq, agree.application]
    · exact .returned _ ⟨agree, sent⟩
  | migrationCompleted => exact .returned _ erased
  | rejected _ _ => exact .returned _ erased
  | sentReject => exact .returned _ erased
  | ok => exact .returned _ ⟨agree, sent⟩
  | prepareMigrationAcked qd => exact .returned _ ⟨agree, sent⟩
  | heartbeatResponse _ => exact .failed _
  | returnedBySwitch _ _ => exact .failed _

/-- A record that two peers write for a client is the same for both. -/
theorem Agree.insert (agree : Agree client peer peer') (active : ActiveMigration)
    (sent sent' : List TcpMigSegment) :
    Agree client
      { peer with
        activeMigrations := peer.activeMigrations.insert client active
        transmitted := sent }
      { peer' with
        activeMigrations := peer'.activeMigrations.insert client active
        transmitted := sent' } := by
  refine ⟨agree.localLinkAddr, agree.localIpv4Addr, agree.selfUdpPort, ?_, agree.application⟩
  dsimp only
  rw [AList.lookup_insert, AList.lookup_insert]

/-- Application states that two peers keep for a client. -/
theorem Agree.withApplications (agree : Agree client peer peer')
    {table table' : Table SocketAddrV4 MigratedApplicationState}
    (same : table'.lookup client = table.lookup client) :
    Agree client { peer with applicationState := table } { peer' with applicationState := table' } :=
  ⟨agree.localLinkAddr, agree.localIpv4Addr, agree.selfUdpPort, agree.record, same⟩

/-- A new record is made from what the peers agree on. -/
theorem Agree.newActive (agree : Agree client peer peer') : peer'.newActive = peer.newActive := by
  funext destUdpPort origin other qd
  simp only [TcpMigPeer.newActive, agree.localLinkAddr, agree.localIpv4Addr, agree.selfUdpPort]

/-- The record of the client answers in the same way. -/
theorem dispatch_alike {hdr : TcpMigHeader} (agree : Agree hdr.client peer peer')
    (sent : peer.transmitted = before.transmitted) (sent' : peer'.transmitted = before'.transmitted)
    (buf : Buffer) :
    Alike (Tracks hdr.client before before') (peer.dispatch profile hdr buf)
      (peer'.dispatch profile hdr buf) := by
  unfold dispatch
  rw [agree.record]
  cases recorded : peer.activeMigrations.lookup hdr.client with
  | none => exact .failed _
  | some active =>
    dsimp only
    cases processed : active.processPacket profile hdr buf with
    | error fault => exact .failed fault
    | ok reaction =>
      obtain ⟨active', messages, status⟩ := reaction
      have tracks := Tracks.mk (agree.insert active' (peer.transmitted ++ messages)
        (peer'.transmitted ++ messages)) ⟨messages, congrArg (· ++ messages) sent,
          congrArg (· ++ messages) sent'⟩
      cases status with
      | error fail => exact .returned _ tracks
      | ok report => exact conclude_alike tracks report

/-- A message for the client is received in the same way. -/
theorem receiveMessage_alike {hdr : TcpMigHeader} (agree : Agree hdr.client peer peer')
    (buf : Buffer) :
    Alike (Tracks hdr.client peer peer') (peer.receiveMessage profile hdr buf)
      (peer'.receiveMessage profile hdr buf) := by
  have nothing : ∃ sent, peer.transmitted = peer.transmitted ++ sent ∧
      peer'.transmitted = peer'.transmitted ++ sent := ⟨[], by simp, by simp⟩
  unfold receiveMessage
  split
  · split
    · exact .failed _
    · exact .returned _ ⟨agree, nothing⟩
  split
  · rw [agree.record]
    cases recorded : peer.activeMigrations.lookup hdr.client with
    | some active =>
      refine .returned _ ⟨⟨agree.localLinkAddr, agree.localIpv4Addr, agree.selfUdpPort, ?_,
        agree.application⟩, nothing⟩
      dsimp only
      rw [AList.lookup_erase, AList.lookup_erase]
    | none =>
      dsimp only
      rw [agree.newActive]
      apply dispatch_alike
      · exact agree.insert _ _ _
      · rfl
      · rfl
  · exact dispatch_alike agree rfl rfl buf

/-- Two peers that agree about a client do the same with a message for this client. -/
theorem receive_alike (agree : Agree client peer peer') {ipv4Hdr : Ipv4Header} {buf : Buffer}
    (own : (PeerCall.receive ipv4Hdr buf).client = some client) :
    Alike (Tracks client peer peer') (peer.receive profile ipv4Hdr buf)
      (peer'.receive profile ipv4Hdr buf) := by
  unfold receive
  cases parsed : TcpMigHeader.parse ipv4Hdr buf with
  | error fail =>
    simp only [PeerCall.client, parsed] at own
    cases own
  | ok message =>
    obtain ⟨hdr, payload⟩ := message
    simp only [PeerCall.client, parsed] at own
    cases own
    exact receiveMessage_alike agree payload

/-- A migration of the client starts in the same way. -/
theorem initiateMigration_alike {conn : SocketAddrV4 × SocketAddrV4} {qd : QDesc}
    (agree : Agree conn.2 peer peer') :
    Alike (Tracks conn.2 peer peer') (peer.serve profile (.initiateMigration conn qd))
      (peer'.serve profile (.initiateMigration conn qd)) := by
  have port := congrArg ActiveMigration.firstDestPort agree.selfUdpPort
  unfold serve
  dsimp only
  unfold initiateMigration
  rw [agree.record, agree.newActive, port]
  cases recorded : peer.activeMigrations.lookup conn.2 with
  | some active => exact .failed _
  | none =>
    dsimp only
    cases started : (peer.newActive (ActiveMigration.firstDestPort peer.selfUdpPort) conn.1 conn.2
      (some qd)).initiateMigration profile with
    | error fault => exact .failed fault
    | ok result =>
      obtain ⟨active, sent⟩ := result
      exact .returned _ ⟨agree.insert active _ _, sent, rfl, rfl⟩

/-- The state of the client is sent in the same way, with the same application state. -/
theorem sendTcpState_alike {state : TcpState} (agree : Agree state.cb.remote peer peer') :
    Alike (Tracks state.cb.remote peer peer') (peer.serve profile (.sendTcpState state))
      (peer'.serve profile (.sendTcpState state)) := by
  have carried : peer'.registered state.cb.remote = peer.registered state.cb.remote := by
    simp only [registered, agree.application]
  unfold serve
  dsimp only
  unfold sendTcpState
  dsimp only
  rw [agree.record, carried]
  cases recorded : peer.activeMigrations.lookup state.cb.remote with
  | none => exact .failed _
  | some active =>
    dsimp only
    cases exported : active.sendConnectionState profile
      (state.withApplication (peer.registered state.cb.remote)) with
    | error fault => exact .failed fault
    | ok result =>
      obtain ⟨active', sent⟩ := result
      refine .returned _ ⟨⟨agree.localLinkAddr, agree.localIpv4Addr, agree.selfUdpPort,
        (agree.insert active' [] []).record, ?_⟩, sent, rfl, rfl⟩
      dsimp only
      rw [AList.lookup_erase, AList.lookup_erase]

/-- A call for a client gives the same on peers that are the same to the client. -/
theorem serve_alike {call : PeerCall} (own : call.client = some client)
    (agree : Agree client peer peer') :
    Alike (Tracks client peer peer') (peer.serve profile call) (peer'.serve profile call) := by
  have nothing : ∃ sent, peer.transmitted = peer.transmitted ++ sent ∧
      peer'.transmitted = peer'.transmitted ++ sent := ⟨[], by simp, by simp⟩
  cases call with
  | receive ipv4Hdr buf =>
    exact (receive_alike agree own).bind fun _ _ status tracks =>
      .returned (PeerResult.received status) tracks
  | initiateMigration conn qd =>
    cases own
    exact initiateMigration_alike agree
  | sendTcpState state =>
    cases own
    exact sendTcpState_alike agree
  | tryBufferPacket remote tcpHdr data =>
    cases own
    unfold serve
    dsimp only
    unfold tryBufferPacket
    rw [agree.record]
    cases recorded : peer.activeMigrations.lookup client with
    | none => exact .returned _ ⟨agree, nothing⟩
    | some active => exact .returned _ ⟨agree.insert _ _ _, nothing⟩
  | closeActiveMigration remote =>
    cases own
    have kept : (peer'.closeActiveMigration client).2 = (peer.closeActiveMigration client).2 := by
      simp only [closeActiveMigration, agree.record]
    have closed : Tracks client peer peer' (peer.closeActiveMigration client).1
        (peer'.closeActiveMigration client).1 := by
      refine ⟨⟨agree.localLinkAddr, agree.localIpv4Addr, agree.selfUdpPort, ?_, agree.application⟩,
        nothing⟩
      exact (closeActiveMigration_becomes peer' client).client.trans
        (closeActiveMigration_becomes peer client).client.symm
    unfold serve
    dsimp only
    rw [kept]
    exact .returned _ closed
  | registerApplicationState remote state =>
    cases own
    exact .returned _ ⟨agree.withApplications (by rw [AList.lookup_insert, AList.lookup_insert]), nothing⟩
  | getMigratedApplicationState remote decode =>
    cases own
    unfold serve
    dsimp only
    unfold getMigratedApplicationState
    rw [agree.application]
    split
    · exact .returned _
        ⟨agree.withApplications (by rw [AList.lookup_insert, AList.lookup_insert]), nothing⟩
    · exact .returned _
        ⟨agree.withApplications (by rw [AList.lookup_erase, AList.lookup_erase]), nothing⟩

/-- Two peers that agree about a client do the same in a call for this client, and agree about
it afterwards. -/
theorem perform_alike {call : PeerCall} (own : call.client = some client)
    (agree : Agree client peer peer') :
    Alike (Agree client) (peer.perform profile call) (peer'.perform profile call) := by
  refine (serve_alike own agree).bind fun after after' result tracks => ?_
  obtain ⟨agree', sent, transmitted, transmitted'⟩ := tracks
  dsimp only
  rw [transmitted, transmitted', List.drop_left, List.drop_left]
  exact .returned _ agree'

/-- The part of the peer that belongs to a client is a system of its own. -/
theorem isolated (profile : Profile) (client : SocketAddrV4) :
    Isolated (perform profile) (fun call => call.client = some client)
      (fun peer call => ¬ peer.Concerns profile call client) (Agree client) where
  equivalence := agree_equivalence client
  respects unconcerned performed := by
    obtain ⟨⟨after, result⟩, served, performed⟩ := bind_ok.mp performed
    cases performed
    exact serve_agree unconcerned served
  consistent own agrees := perform_alike own agrees

end TcpMigPeer

open TcpMigPeer

section Routing

variable {κ ρ : Type} [CongestionControl κ] [RtoCalculator ρ]

/-- A segment is routed by both of its addresses; at most it is kept in the record of the
client that it comes from. -/
theorem Inner.receive_agree {profile : Profile} {env : Env} {digest : UInt32}
    {inner inner' : Inner κ ρ} {ipHdr : Ipv4Header} {tcpHdr : TcpHeader} {data : Buffer}
    {result : Except Fail Unit} {client : SocketAddrV4}
    (received : inner.receive profile env digest ipHdr tcpHdr data = .ok (inner', result))
    (other : client ≠ ⟨ipHdr.srcAddr, tcpHdr.srcPort⟩) :
    Agree client inner.tcpmig inner'.tcpmig ∧ ∀ localAddr,
      inner'.established.lookup (localAddr, client) = inner.established.lookup (localAddr, client) ∧
      inner'.connecting.lookup (localAddr, client) = inner.connecting.lookup (localAddr, client) := by
  have same := (agree_equivalence client).refl inner.tcpmig
  have elsewhere (localAddr : SocketAddrV4) : (localAddr, client) ≠
      ((⟨ipHdr.destAddr, tcpHdr.dstPort⟩, ⟨ipHdr.srcAddr, tcpHdr.srcPort⟩) : Endpoints) :=
    fun equal => other (congrArg Prod.snd equal)
  unfold receive at received
  dsimp only at received
  split at received
  · cases received
    exact ⟨same, fun _ => ⟨rfl, rfl⟩⟩
  split at received
  · obtain ⟨cb, -, received⟩ := bind_ok.mp received
    cases received
    exact ⟨same, fun localAddr =>
      ⟨(Table.lookup_insert_eq ..).trans (if_neg (elsewhere localAddr)), rfl⟩⟩
  split at received
  · obtain ⟨⟨socket, sent⟩, -, received⟩ := bind_ok.mp received
    cases received
    exact ⟨same, fun localAddr =>
      ⟨rfl, (Table.lookup_insert_eq ..).trans (if_neg (elsewhere localAddr))⟩⟩
  split at received
  · rename_i tcpmig buffered
    cases received
    obtain ⟨active, recorded, becomes⟩ := tryBufferPacket_some buffered
    obtain ⟨active, -, rfl⟩ := Option.map_eq_some_iff.mp buffered
    exact ⟨⟨rfl, rfl, rfl, becomes.other other, rfl⟩, fun _ => ⟨rfl, rfl⟩⟩
  · unfold receiveUnclaimed at received
    split at received
    · obtain ⟨⟨passive, result⟩, -, received⟩ := bind_ok.mp received
      cases received
      exact ⟨same, fun _ => ⟨rfl, rfl⟩⟩
    · unfold sendRst at received
      split at received
      · cases received
        exact ⟨same, fun _ => ⟨rfl, rfl⟩⟩
      · cases received
        exact ⟨same, fun _ => ⟨rfl, rfl⟩⟩

/-- Migrations of different clients do not interfere. A call that does not concern a client
leaves its record, the segments in it and its application state as they were, and a call for
the client gives the same afterwards, panics included. Among any calls, those for the client
are answered as they would be if they were made alone. A segment of another client changes
nothing of the client either.

Proof: the calls of one client are a view of the peer that all calls respect: a call
that does not concern the client keeps the view, and a call of the client gives alike
answers on peers with the same view. Removing the unconcerned calls from a run is then
the general rule of `isolated`. -/
theorem migrations_isolated (profile : Profile) (client : SocketAddrV4) :
    (∀ {peer peer' : TcpMigPeer} {call : PeerCall} {answer : PeerAnswer},
      ¬ peer.Concerns profile call client → peer.perform profile call = .ok (peer', answer) →
        Agree client peer peer' ∧ ∀ own : PeerCall, own.client = some client →
          Alike (Agree client) (peer.perform profile own) (peer'.perform profile own)) ∧
    (∀ {start last : TcpMigPeer} {record : List (PeerCall × PeerAnswer)},
      Performs (perform profile) (fun peer call => call.client = some client ∨
        ¬ peer.Concerns profile call client) start record last →
      ∃ last', Performs (perform profile) (fun _ call => call.client = some client) start
        (record.filter fun entry => entry.1.client = some client) last' ∧ Agree client last last') ∧
    (∀ {env : Env} {digest : UInt32} {inner inner' : Inner κ ρ} {ipHdr : Ipv4Header}
        {tcpHdr : TcpHeader} {data : Buffer} {result : Except Fail Unit},
      inner.receive profile env digest ipHdr tcpHdr data = .ok (inner', result) →
      client ≠ ⟨ipHdr.srcAddr, tcpHdr.srcPort⟩ →
        Agree client inner.tcpmig inner'.tcpmig ∧ ∀ localAddr,
          inner'.established.lookup (localAddr, client) =
            inner.established.lookup (localAddr, client) ∧
          inner'.connecting.lookup (localAddr, client) =
            inner.connecting.lookup (localAddr, client)) := by
  have isolated := isolated profile client
  refine ⟨fun unconcerned performed => ?_, fun performed => ?_, Inner.receive_agree⟩
  · have agree := isolated.respects unconcerned performed
    exact ⟨agree, fun own mine => isolated.consistent mine agree⟩
  · exact isolated.alone performed (isolated.equivalence.refl _)

end Routing

/-- Another client of the samples. -/
def SocketAddrV4.otherClient : SocketAddrV4 := ⟨0x0a000004#32, 4321⟩

/-- The start of a migration of the other client is not noticed between two calls about the
application state of the client, nor is a segment of the other client. -/
theorem other_migration_unnoticed :
    ∃ peer peer' peer'' registered started fetched,
      (TcpMigPeer.new 3#48 0x0a000001#32).perform .dev
        (.registerApplicationState .sampleClient .sample) = .ok (peer, registered) ∧
      peer.perform .dev (.initiateMigration (⟨0x0a000001#32, 80⟩, .otherClient) 2) =
        .ok (peer', started) ∧
      peer'.perform .dev (.getMigratedApplicationState .sampleClient fun _ => .sample) =
        .ok (peer'', fetched) ∧
      Agree .sampleClient peer peer' ∧
      (∃ last, Performs (perform .dev) (fun _ call => call.client = some .sampleClient)
        (TcpMigPeer.new 3#48 0x0a000001#32)
        [(.registerApplicationState .sampleClient .sample, registered),
          (.getMigratedApplicationState .sampleClient fun _ => .sample, fetched)] last ∧
        Agree .sampleClient peer'' last) ∧
      ∃ inner' result, (Inner.sample 0x0a000001#32).receive .dev (.sample 0) 0
        ⟨0x0a000004#32, 0x0a000001#32⟩ (.sampleData 80 103) [] = .ok (inner', result) ∧
        Agree .sampleClient (Inner.sample 0x0a000001#32).tcpmig inner'.tcpmig := by
  obtain ⟨step, run, routed⟩ :=
    @migrations_isolated NoCongestionControl IntegerRto _ _ .dev .sampleClient
  have unconcerned (peer : TcpMigPeer) : ¬ peer.Concerns .dev
      (.initiateMigration (⟨0x0a000001#32, 80⟩, .otherClient) 2) .sampleClient := by
    rintro (own | ⟨peer', state, served, -⟩)
    · revert own
      decide
    · obtain ⟨after, -, served⟩ := bind_ok.mp served
      cases served
  have performed : Performs (perform .dev) (fun peer call => call.client = some .sampleClient ∨
        ¬ peer.Concerns .dev call .sampleClient) (TcpMigPeer.new 3#48 0x0a000001#32)
      [(.registerApplicationState .sampleClient .sample, _),
        (.initiateMigration (⟨0x0a000001#32, 80⟩, .otherClient) 2, _),
        (.getMigratedApplicationState .sampleClient fun _ => .sample, _)] _ :=
    .cons (.inl rfl) rfl (.cons (.inr (unconcerned _)) rfl (.cons (.inl rfl) rfl (.nil _)))
  have received : (Inner.sample 0x0a000001#32).receive .dev (.sample 0) 0
    ⟨0x0a000004#32, 0x0a000001#32⟩ (.sampleData 80 103) [] = .ok (_, _) := rfl
  exact ⟨_, _, _, _, _, _, rfl, rfl, rfl, (step (unconcerned _) rfl).1, run performed, _, _,
    received, (routed received (by decide)).1⟩

/-- The client is connected to two ports of one server. Each connection can be migrated, but
once the migration of the one has been started, that of the other panics. -/
theorem two_ports_one_record :
    ∃ past inner first, (Inner.sample 0x0a000001#32).execute .dev
        (listenOperations 1 80 ++ listenOperations 2 81 ++
          handshakeOperations 80 ++ [.accept (.sample 0) 1 3 0] ++
          handshakeOperations 81 ++ [.accept (.sample 0) 2 4 0]) = .ok (past, inner) ∧
      inner.step .dev (.migrateByAddr (⟨0x0a000001#32, 80⟩, .sampleClient)) = .ok first ∧
      (∃ second, inner.step .dev (.migrateByAddr (⟨0x0a000001#32, 81⟩, .sampleClient)) = .ok second) ∧
      first.step .dev (.migrateByAddr (⟨0x0a000001#32, 81⟩, .sampleClient)) =
        .error .duplicateInitiateMigration :=
  ⟨_, _, _, rfl, rfl, ⟨_, rfl⟩, rfl⟩

end Capybara
