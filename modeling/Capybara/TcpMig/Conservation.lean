import Capybara.Lib.Runs
import Capybara.TcpMig.Isolation
import Capybara.TcpMig.Transfer

/-!
# Application states across migrations

One connection moves between servers. At any time it is held by one of them or on its
way to one of them, in fragments. Its application registers states and fetches states
that migrated in, which a server allows only while it holds the connection. Beside
this, every server may be called in any way, for this client as for others. While the
state is on its way, the only call for the client at the target is the one that keeps
a segment of the client; fragments arrive in any order, each at most once.

The application state is an entry of one of three kinds, moved between the servers by
removals and insertions. Two of the removals lose it. Fetching takes any entry away and
puts back only one that had migrated in, so that a state the application registered, or
has fetched before, is lost. Sending takes any entry away and adds only a registered
one, so that a state which migrated in and was never fetched does not travel on.
-/

namespace Capybara

open Tables

/-- Where the connection is. -/
inductive Location (ι : Type) where
  | held (server : ι)
  /-- Of the fragments that were sent, those at the given places have arrived. -/
  | moving (target : ι) (sent : List TcpMigSegment) (arrived : Finset Nat)

/-- The servers, and where the connection is. -/
structure Chain (ι : Type) where
  servers : ι → TcpMigPeer
  location : Location ι

/-- Why an action does not lead on: the code panicked, or there is no such action here. -/
inductive Stop where
  | panicked (fault : Fault)
  | outside

/-- What can happen. The states and the application are those of the connection. -/
inductive ChainAction (ι : Type) where
  | register (application : ApplicationState)
  | fetch (decode : Buffer → ApplicationState)
  | depart (state : TcpState) (target : ι)
  | arrive (index : Nat)
  | call (server : ι) (call : PeerCall)
  | setPort (server : ι) (port : UInt16)

/-- The calls that leave a transfer to the server alone. -/
def PeerCall.undisturbing (client : SocketAddrV4) : PeerCall → Bool
  | .tryBufferPacket _ _ _ => true
  | call => call.client ≠ some client

/-- The server has prepared the migration of the client and has no fragment yet. -/
def TcpMigPeer.awaits (client : SocketAddrV4) (peer : TcpMigPeer) : Bool :=
  match peer.activeMigrations.lookup client with
  | none => false
  | some active => active.lastSentStage = .prepareMigrationAck ∧ active.defragmenter = .new

namespace Chain

variable {ι : Type} [DecidableEq ι]

/-- Servers that have not been used, of which one holds the connection. -/
def new (addresses : ι → MacAddress × Ipv4Addr) (holder : ι) : Chain ι where
  servers server := .new (addresses server).1 (addresses server).2
  location := .held holder

/-- One server has changed. -/
def set (chain : Chain ι) (server : ι) (peer : TcpMigPeer) : Chain ι :=
  { chain with servers := Function.update chain.servers server peer }

/-- A call of a server that is none of the actions of the connection. -/
def admits (client : SocketAddrV4) (chain : Chain ι) (server : ι) (call : PeerCall) : Bool :=
  !call.reserved client &&
    match chain.location with
    | .held _ => true
    | .moving target _ _ => server ≠ target || call.undisturbing client

/-- `send_tcp_state` of the holder, for a target that awaits the state. -/
def depart (profile : Profile) (client : SocketAddrV4) (chain : Chain ι) (state : TcpState)
    (target : ι) : Except Stop (Chain ι) :=
  match chain.location with
  | .moving _ _ _ => .error .outside
  | .held server =>
    if state.cb.remote = client ∧ (chain.servers target).awaits client = true then
      match (chain.servers server).sendTcpState profile state with
      | .error fault => .error (.panicked fault)
      | .ok peer => .ok { chain.set server peer with
          location := .moving target
            (peer.transmitted.drop (chain.servers server).transmitted.length) ∅ }
    else .error .outside

/-- `receive` of the target, for a fragment that has not arrived yet. -/
def arrive (profile : Profile) (chain : Chain ι) (index : Nat) : Except Stop (Chain ι) :=
  match chain.location with
  | .held _ => .error .outside
  | .moving target sent arrived =>
    if index ∈ arrived then .error .outside
    else match sent[index]? with
    | none => .error .outside
    | some fragment =>
      match (chain.servers target).receive profile fragment.ipv4Hdr fragment.datagram with
      | .error fault => .error (.panicked fault)
      | .ok (peer, .ok (.stateReceived _)) =>
        .ok { chain.set target peer with location := .held target }
      | .ok (peer, _) =>
        .ok { chain.set target peer with location := .moving target sent (insert index arrived) }

/-- A call of any server. -/
def serve (profile : Profile) (client : SocketAddrV4) (chain : Chain ι) (server : ι)
    (call : PeerCall) : Except Stop (Chain ι) :=
  if chain.admits client server call then
    match (chain.servers server).serve profile call with
    | .error fault => .error (.panicked fault)
    | .ok (peer, result) =>
      if result.delivers client then .error .outside else .ok (chain.set server peer)
  else .error .outside

/-- One action. The application of a connection that is on its way cannot call. -/
def step (profile : Profile) (client : SocketAddrV4) (chain : Chain ι) :
    ChainAction ι → Except Stop (Chain ι)
  | .register application =>
    match chain.location with
    | .held server =>
      .ok (chain.set server ((chain.servers server).registerApplicationState client application))
    | .moving _ _ _ => .error .outside
  | .fetch decode =>
    match chain.location with
    | .held server =>
      .ok (chain.set server ((chain.servers server).getMigratedApplicationState client decode).1)
    | .moving _ _ _ => .error .outside
  | .depart state target => chain.depart profile client state target
  | .arrive index => chain.arrive profile index
  | .call server call => chain.serve profile client server call
  | .setPort server port => .ok (chain.set server ((chain.servers server).setPort port))

/-- A successful action. -/
abbrev Transition (ι : Type) := Runs.Transition (Chain ι) (ChainAction ι)

/-- The chains reached from servers that have not been used. -/
abbrev Run (profile : Profile) (client : SocketAddrV4) (addresses : ι → MacAddress × Ipv4Addr)
    (holder : ι) : List (Transition ι) → Chain ι → Prop :=
  Runs.Run (step profile client) (.new addresses holder)

end Chain

/-- The bytes that the encoder of an application writes. -/
def ApplicationState.image (application : ApplicationState) : Buffer :=
  application.serialize (List.replicate application.serializedSize 0)

/-- What an application writes is the image of its state. -/
theorem ApplicationState.Writes.image {application : ApplicationState} {bytes : Buffer}
    (writes : application.Writes bytes) : application.image = bytes := by
  unfold ApplicationState.image
  rw [writes.2 _ (by simp), List.drop_of_length_le (by simp), List.append_nil]

/-- The bytes of the state that the application registered last. -/
def Chain.latest {ι : Type} : List (Transition ι) → Option Buffer
  | [] => none
  | ⟨_, .register application, _⟩ :: _ => some application.image
  | _ :: past => latest past

/-! ## What a call leaves alone -/

namespace TcpMigPeer

variable {profile : Profile} {peer peer' : TcpMigPeer} {client : SocketAddrV4}

/-- What a transfer needs of a record is left alone by a segment that is kept, and by every
call for another client. -/
theorem serve_record {call : PeerCall} {result : PeerResult} {active : ActiveMigration}
    (undisturbing : call.undisturbing client = true) (undelivered : result.delivers client = false)
    (served : peer.serve profile call = .ok (peer', result))
    (recorded : peer.activeMigrations.lookup client = some active) :
    ∃ active', peer'.activeMigrations.lookup client = some active' ∧
      active'.lastSentStage = active.lastSentStage ∧ active'.defragmenter = active.defragmenter := by
  by_cases other : call.client = some client
  · cases call with
    | tryBufferPacket remote tcpHdr data =>
      cases other
      unfold serve at served
      dsimp only at served
      split at served
      · rename_i after buffered
        cases served
        obtain ⟨active', recorded', becomes⟩ := tryBufferPacket_some buffered
        cases recorded.symm.trans recorded'
        exact ⟨_, becomes.client, rfl, rfl⟩
      · cases served
        exact ⟨active, recorded, rfl, rfl⟩
    | _ => exact absurd other (of_decide_eq_true undisturbing)
  · have agree := serve_elsewhere other undelivered served
    exact ⟨active, agree.record.trans recorded, rfl, rfl⟩

end TcpMigPeer

/-! ## The state stays attached -/

namespace Chain

variable {ι : Type} [DecidableEq ι] {profile : Profile} {client : SocketAddrV4}

/-- The entry of the client at a server. -/
def entry (client : SocketAddrV4) (chain : Chain ι) (server : ι) : Option MigratedApplicationState :=
  (chain.servers server).applicationState.lookup client

/-- The bytes are attached to the connection. At the holder they are what a registered
application will write when the connection moves on, or what can be fetched. On the way,
the fragments that have arrived and those that have not are together a state which the
target will read with these bytes. -/
def Attached (profile : Profile) (client : SocketAddrV4) (bytes : Buffer) (chain : Chain ι) : Prop :=
  match chain.location with
  | .held server =>
    (∃ application, chain.entry client server = some (.registered application) ∧
      application.Writes bytes) ∨ chain.entry client server = some (.migratedIn bytes)
  | .moving target sent arrived => ∃ cb segment pieces, cb.remote = client ∧
    Transfer profile client ⟨cb, .migratedIn bytes⟩ segment pieces sent arrived (chain.servers target)

/-- The conditions on an action. An application that is registered writes as many bytes as it
announces, and not none. A state is fetched only if it has not been fetched or replaced on
this server, and is restored to an application that writes the same bytes. The connection
moves on only if no state that migrated in is still to be fetched. -/
def Preserving (client : SocketAddrV4) (chain : Chain ι) : ChainAction ι → Prop
  | .register application => ∃ bytes, bytes ≠ [] ∧ application.Writes bytes
  | .fetch decode => ∀ server, chain.location = .held server →
    (∀ application, chain.entry client server ≠ some (.registered application)) ∧
    ∀ bytes, chain.entry client server = some (.migratedIn bytes) → (decode bytes).Writes bytes
  | .depart _ _ => ∀ server, chain.location = .held server →
    ∀ bytes, chain.entry client server ≠ some (.migratedIn bytes)
  | _ => True

/-- Records are kept under their clients, and the state that was registered last is attached. -/
structure Sound (profile : Profile) (client : SocketAddrV4) (latest : Option Buffer)
    (chain : Chain ι) : Prop where
  filed : ∀ server, (chain.servers server).Filed
  attached : ∀ bytes, latest = some bytes → bytes ≠ [] ∧ chain.Attached profile client bytes

variable {chain chain' : Chain ι} {latest : Option Buffer}

/-- One server may change as long as its own records are filed under their clients. -/
theorem filed_set (filed : ∀ server, (chain.servers server).Filed) {server : ι} {peer : TcpMigPeer}
    (own : peer.Filed) : ∀ other, ((chain.set server peer).servers other).Filed := by
  intro other
  by_cases same : other = server
  · subst same
    simpa [set] using own
  · simpa [set, same] using filed other

/-- A change of one server changes its entries only. -/
theorem entry_set (chain : Chain ι) (server other : ι) (peer : TcpMigPeer) :
    (chain.set server peer).entry client other =
      if other = server then peer.applicationState.lookup client else chain.entry client other := by
  unfold entry set
  by_cases same : other = server
  · subst same
    simp
  · simp [same]

omit [DecidableEq ι] in
/-- The state of a holder is attached. -/
theorem attached_held {server : ι} {bytes : Buffer} (location : chain.location = .held server) :
    chain.Attached profile client bytes ↔
      (∃ application, chain.entry client server = some (.registered application) ∧
        application.Writes bytes) ∨ chain.entry client server = some (.migratedIn bytes) := by
  unfold Attached
  rw [location]

/-- The state of a holder that has changed is attached. -/
theorem attached_set {server : ι} {peer : TcpMigPeer} {bytes : Buffer}
    (location : chain.location = .held server) :
    (chain.set server peer).Attached profile client bytes ↔
      (∃ application, peer.applicationState.lookup client = some (.registered application) ∧
        application.Writes bytes) ∨
      peer.applicationState.lookup client = some (.migratedIn bytes) := by
  have here : (chain.set server peer).location = .held server := location
  rw [attached_held here, entry_set, if_pos rfl]

omit [DecidableEq ι] in
/-- An action that keeps the entry of the client at the holder, and what the transfer needs of
the record at the target. -/
theorem Attached.kept {bytes : Buffer} (attached : chain.Attached profile client bytes)
    (location : chain'.location = chain.location)
    (entries : ∀ server, chain'.entry client server = chain.entry client server)
    (records : ∀ target sent arrived, chain.location = .moving target sent arrived →
      ∀ active, (chain.servers target).activeMigrations.lookup client = some active →
        ∃ active', (chain'.servers target).activeMigrations.lookup client = some active' ∧
          active'.lastSentStage = active.lastSentStage ∧
          active'.defragmenter = active.defragmenter) :
    chain'.Attached profile client bytes := by
  unfold Attached at attached ⊢
  rw [location]
  split
  · rename_i server here
    rw [here] at attached
    rw [entries]
    exact attached
  · rename_i target sent arrived here
    rw [here] at attached
    obtain ⟨cb, segment, pieces, remote, transfer⟩ := attached
    exact ⟨cb, segment, pieces, remote, transfer.congr (records target sent arrived here)⟩

/-- A registered state is what is to be found from now on. -/
theorem Sound.register {server : ι} {application : ApplicationState} {bytes : Buffer}
    (sound : chain.Sound profile client latest) (location : chain.location = .held server)
    (something : bytes ≠ []) (writes : application.Writes bytes) :
    (chain.set server ((chain.servers server).registerApplicationState client application)).Sound
      profile client (some application.image) := by
  refine ⟨filed_set sound.filed (sound.filed server :), ?_⟩
  rintro _ ⟨⟩
  rw [writes.image]
  refine ⟨something, (attached_set location).mpr (.inl ⟨application, ?_, writes⟩)⟩
  exact AList.lookup_insert _

/-- What is fetched is what was registered last. A registered state that is fetched by the
server itself would be lost, which the condition excludes. -/
theorem Sound.fetch {server : ι} {decode : Buffer → ApplicationState}
    (sound : chain.Sound profile client latest) (location : chain.location = .held server)
    (preserving : chain.Preserving client (.fetch decode)) :
    (chain.set server
      ((chain.servers server).getMigratedApplicationState client decode).1).Sound
      profile client latest := by
  obtain ⟨unregistered, restores⟩ := preserving server location
  constructor
  · refine filed_set sound.filed ?_
    unfold TcpMigPeer.getMigratedApplicationState
    split
    · exact (sound.filed server :)
    · exact (sound.filed server :)
  · intro bytes last
    obtain ⟨something, attached⟩ := sound.attached bytes last
    refine ⟨something, (attached_set location).mpr ?_⟩
    obtain ⟨application, registered, -⟩ | waiting := (attached_held location).mp attached
    · exact absurd registered (unregistered application)
    · refine .inl ⟨decode bytes, ?_, restores bytes waiting⟩
      unfold TcpMigPeer.getMigratedApplicationState
      unfold entry at waiting
      rw [waiting]
      exact AList.lookup_insert _

/-- No other call of a migration peer touches the state of an application. -/
theorem Sound.call {server : ι} {call : PeerCall} (sound : chain.Sound profile client latest)
    (served : chain.serve profile client server call = .ok chain') :
    chain'.Sound profile client latest := by
  unfold serve at served
  split at served
  · rename_i admitted
    split at served
    · cases served
    rename_i peer result performed
    split at served
    · cases served
    rename_i undelivered
    cases served
    obtain ⟨unreserved, quiet⟩ := Bool.and_eq_true_iff.mp admitted
    have silent : result.delivers client = false := Bool.eq_false_iff.mpr undelivered
    have same := TcpMigPeer.serve_application (by simpa using unreserved) silent performed
    refine ⟨filed_set sound.filed (TcpMigPeer.serve_filed (sound.filed server) performed), ?_⟩
    intro bytes last
    obtain ⟨something, attached⟩ := sound.attached bytes last
    refine ⟨something, attached.kept rfl ?_ ?_⟩
    · intro other
      rw [entry_set]
      split
      · rename_i here
        rw [here]
        exact same
      · rfl
    · intro target sent arrived moving active recorded
      rw [moving] at quiet
      by_cases here : target = server
      · subst here
        simp only [set, Function.update_self]
        refine TcpMigPeer.serve_record ?_ silent performed recorded
        simpa using quiet
      · simp only [set, Function.update_of_ne here]
        exact ⟨active, recorded, rfl, rfl⟩
  · cases served

/-- A migration takes the state out of the entry and along with the connection. One that only
arrived and was not registered again would be lost, which the condition excludes. -/
theorem Sound.depart {state : TcpState} {target : ι} (sound : chain.Sound profile client latest)
    (preserving : chain.Preserving client (.depart state target))
    (departed : chain.depart profile client state target = .ok chain') :
    chain'.Sound profile client latest := by
  unfold Chain.depart at departed
  split at departed
  · cases departed
  rename_i server location
  split at departed
  · rename_i ready
    obtain ⟨rfl, awaits⟩ := ready
    split at departed
    · cases departed
    rename_i peer sends
    cases departed
    have served : (chain.servers server).serve profile (.sendTcpState state) = .ok (peer, .done) :=
      bind_ok.mpr ⟨peer, sends, rfl⟩
    refine ⟨filed_set sound.filed (TcpMigPeer.serve_filed (sound.filed server) served), ?_⟩
    intro bytes last
    obtain ⟨something, attached⟩ := sound.attached bytes last
    refine ⟨something, ?_⟩
    obtain ⟨application, registered, writes⟩ | waiting := (attached_held location).mp attached
    · unfold TcpMigPeer.awaits at awaits
      split at awaits
      · cases awaits
      rename_i active recorded
      obtain ⟨prepared, fresh⟩ := of_decide_eq_true awaits
      -- the holder is preparing, so it is not the target
      have elsewhere : target ≠ server := by
        rintro rfl
        obtain ⟨active', _, _, recorded', preparing, -⟩ := TcpMigPeer.sendTcpState_ok sends
        cases recorded.symm.trans recorded'
        exact absurd (prepared.symm.trans preparing) (by decide)
      obtain ⟨segment, pieces, transfer⟩ := Transfer.depart sends
        (fun active found => (sound.filed server _ active found).1) registered writes something recorded prepared fresh
      refine ⟨state.cb.untimed, segment, pieces, rfl, ?_⟩
      simp only [set, Function.update_of_ne elsewhere]
      exact transfer
    · exact absurd waiting (preserving server location bytes)
  · cases departed

/-- A migrated state that arrives is kept for its client. -/
theorem Sound.arrive {index : Nat} (sound : chain.Sound profile client latest)
    (arrives : chain.arrive profile index = .ok chain') :
    chain'.Sound profile client latest := by
  unfold Chain.arrive at arrives
  split at arrives
  · cases arrives
  rename_i target sent arrived location
  split at arrives
  · cases arrives
  rename_i missing
  split at arrives
  · cases arrives
  rename_i fragment found
  have filed {peer : TcpMigPeer} {status : Except Fail TcpmigReceiveStatus}
      (received : (chain.servers target).receive profile fragment.ipv4Hdr fragment.datagram =
        .ok (peer, status)) : peer.Filed := by
    have served : (chain.servers target).serve profile
        (.receive fragment.ipv4Hdr fragment.datagram) = .ok (peer, .received status) :=
      bind_ok.mpr ⟨_, received, rfl⟩
    exact TcpMigPeer.serve_filed (sound.filed target) served
  have outcome {peer : TcpMigPeer} {status : Except Fail TcpmigReceiveStatus} {bytes : Buffer}
      (received : (chain.servers target).receive profile fragment.ipv4Hdr fragment.datagram =
        .ok (peer, status)) (last : latest = some bytes) :
      bytes ≠ [] ∧ ∃ cb segment pieces, cb.remote = client ∧
        (((∃ state, status = .ok (.stateReceived state)) ∧ peer.applicationState =
          (chain.servers target).applicationState.insert cb.remote (.migratedIn bytes)) ∨
        (status = .ok .ok ∧ Transfer profile client ⟨cb, .migratedIn bytes⟩ segment pieces sent
          (insert index arrived) peer)) := by
    obtain ⟨something, attached⟩ := sound.attached bytes last
    unfold Attached at attached
    rw [location] at attached
    obtain ⟨cb, segment, pieces, remote, transfer⟩ := attached
    refine ⟨something, cb, segment, pieces, remote, ?_⟩
    obtain completed | ⟨reported, -, further⟩ := transfer.arrive missing found received
    · exact .inl completed
    · exact .inr ⟨reported, further⟩
  split at arrives
  · cases arrives
  · rename_i peer state received
    cases arrives
    refine ⟨filed_set sound.filed (filed received), ?_⟩
    intro bytes last
    obtain ⟨something, cb, segment, pieces, rfl, ⟨-, kept⟩ | ⟨reported, -⟩⟩ := outcome received last
    · refine ⟨something, .inr ?_⟩
      unfold entry
      simp only [set, Function.update_self, kept]
      exact AList.lookup_insert _
    · cases reported
  · rename_i peer status unfinished received
    cases arrives
    refine ⟨filed_set sound.filed (filed received), ?_⟩
    intro bytes last
    obtain ⟨something, cb, segment, pieces, rfl, ⟨⟨state, rfl⟩, -⟩ | ⟨-, transfer⟩⟩ :=
      outcome received last
    · exact absurd rfl (unfinished state)
    · refine ⟨something, cb, segment, pieces, rfl, ?_⟩
      simp only [set, Function.update_self]
      exact transfer

/-- One action keeps the state attached. -/
theorem Sound.step {action : ChainAction ι} {past : List (Transition ι)}
    (sound : chain.Sound profile client (Chain.latest past))
    (preserving : chain.Preserving client action)
    (stepped : chain.step profile client action = .ok chain') :
    chain'.Sound profile client (Chain.latest (⟨chain, action, chain'⟩ :: past)) := by
  cases action with
  | register application =>
    obtain ⟨bytes, something, writes⟩ := preserving
    unfold Chain.step at stepped
    dsimp only at stepped
    split at stepped
    · rename_i server location
      cases stepped
      exact sound.register location something writes
    · cases stepped
  | fetch decode =>
    unfold Chain.step at stepped
    dsimp only at stepped
    split at stepped
    · rename_i server location
      cases stepped
      exact sound.fetch location preserving
    · cases stepped
  | depart state target => exact sound.depart preserving stepped
  | arrive index => exact sound.arrive stepped
  | call server call => exact sound.call stepped
  | setPort server port =>
    cases stepped
    refine ⟨filed_set sound.filed (sound.filed server :), fun bytes last => ?_⟩
    obtain ⟨something, attached⟩ := sound.attached bytes last
    refine ⟨something, attached.kept rfl (fun other => ?_) fun target _ _ _ active recorded => ?_⟩
    · rw [entry_set]
      split
      · rename_i here
        rw [here]
        rfl
      · rfl
    · refine ⟨active, ?_, rfl, rfl⟩
      by_cases here : target = server
      · subst here
        simp only [set, Function.update_self]
        exact recorded
      · simp only [set, Function.update_of_ne here]
        exact recorded

/-- Application states are conserved. In every run whose actions meet the conditions, the
state that the application registered last is attached to the connection, byte by byte,
wherever the connection is.

Proof: `Sound` says that the records are filed under their clients and that the state
registered last is attached, to the holder or to the message that is on its way. Every
action that meets the conditions keeps it, by cases on the action. -/
theorem application_conserved (addresses : ι → MacAddress × Ipv4Addr) (holder : ι)
    {past : List (Transition ι)} (run : Run profile client addresses holder past chain)
    (preserving : Runs.Meets (Preserving client) past) :
    ∀ bytes, Chain.latest past = some bytes → chain.Attached profile client bytes := by
  have sound : chain.Sound profile client (Chain.latest past) := by
    refine Runs.run_invariant (fun past chain => chain.Sound profile client (Chain.latest past))
      ?_ ?_ run preserving
    · refine ⟨fun server other active found => ?_, fun bytes last => nomatch last⟩
      exact nomatch (AList.lookup_empty other).symm.trans found
    · intro past source action target _ here sound stepped
      exact sound.step here stepped
  exact fun bytes last => (sound.attached bytes last).2

/-! ## Two servers to evaluate -/

/-- The frontend and the backend. -/
def sampleAddresses : Bool → MacAddress × Ipv4Addr
  | false => (FRONTEND_MAC, FRONTEND_IP)
  | true => (BACKEND_MAC, BACKEND_IP)

/-- A message about the client arrives from the other server. -/
def sampleMessage (origin sender : Bool) (stage : MigrationStage) : PeerCall :=
  let segment : TcpMigSegment := {
    dstLinkAddr := (sampleAddresses !sender).1
    srcLinkAddr := (sampleAddresses sender).1
    ipv4Hdr := ⟨(sampleAddresses sender).2, (sampleAddresses !sender).2⟩
    tcpmigHdr := .new ⟨(sampleAddresses origin).2, 10000⟩ .sampleClient 0 stage 10000 10001
    data := [] }
  .receive segment.ipv4Hdr segment.datagram

/-- The connection moves from one server to the other and is accepted there. -/
def sampleHop (origin : Bool) : List (ChainAction Bool) := [
  .call origin (.initiateMigration (⟨(sampleAddresses origin).2, 10000⟩, .sampleClient) 3),
  .call (!origin) (sampleMessage origin origin .prepareMigration),
  .call origin (sampleMessage origin (!origin) .prepareMigrationAck),
  .depart (.new .sample) (!origin),
  .arrive 0,
  .call origin (sampleMessage origin (!origin) .connectionStateAck),
  .call (!origin) (.closeActiveMigration .sampleClient)]

/-- Actions of the sample, from the start. -/
def sampleRun (actions : List (ChainAction Bool)) :
    Except Stop (List (Transition Bool) × Chain Bool) :=
  Runs.execute (step .dev .sampleClient) ([], .new sampleAddresses false) actions

/-- What can be fetched by the application at the holder. -/
def waiting (chain : Chain Bool) : Option Buffer :=
  match chain.location with
  | .moving _ _ _ => none
  | .held server =>
    match chain.entry .sampleClient server with
    | some (.migratedIn bytes) => some bytes
    | _ => none

/-- The application is there for the taking when it is fetched, and not when the connection
moves on. -/
def settled (chain : Chain Bool) : ChainAction Bool → Bool
  | .fetch _ => chain.waiting = some [20, 21]
  | .depart _ _ => chain.waiting = none
  | _ => true

/-- The application of the sample is registered, and states are restored to it. -/
def samplesOnly : ChainAction Bool → Prop
  | .register application => application = .sample
  | .fetch decode => decode = fun _ => .sample
  | _ => True

/-- For the samples the condition is one that can be computed. -/
theorem preserving_of_settled {chain : Chain Bool} {action : ChainAction Bool}
    (settled : chain.settled action = true) (samples : samplesOnly action) :
    chain.Preserving .sampleClient action := by
  cases action with
  | register application =>
    cases samples
    exact ⟨[20, 21], by decide, ApplicationState.sample_writes⟩
  | fetch decode =>
    cases samples
    intro server location
    have found : chain.waiting = some [20, 21] := of_decide_eq_true settled
    unfold waiting at found
    rw [location] at found
    dsimp only at found
    split at found
    · rename_i bytes entry
      cases found
      refine ⟨fun application registered => ?_, fun bytes fetched => ?_⟩
      · cases entry.symm.trans registered
      · cases entry.symm.trans fetched
        exact ApplicationState.sample_writes
    · cases found
  | depart state target =>
    intro server location bytes entry
    have nothing : chain.waiting = none := of_decide_eq_true settled
    unfold waiting at nothing
    rw [location] at nothing
    dsimp only at nothing
    rw [entry] at nothing
    cases nothing
  | _ => trivial

/-- The state moves to the backend, is fetched there, and moves back. -/
theorem application_there_and_back :
    ∃ past chain, Run .dev .sampleClient sampleAddresses false past chain ∧
      Runs.Meets (Preserving .sampleClient) past ∧ Chain.latest past = some [20, 21] ∧
      chain.location = .held false ∧ chain.Attached .dev .sampleClient [20, 21] := by
  let actions := ChainAction.register .sample ::
    (sampleHop false ++ .fetch (fun _ => .sample) :: sampleHop true)
  have computed : (match sampleRun actions with
      | .ok (past, chain) =>
        decide (Runs.Meets (fun chain action => chain.settled action = true) past ∧
          Chain.latest past = some [20, 21]) &&
        match chain.location with
        | .held server => !server
        | .moving _ _ _ => false
      | .error _ => false) = true := by decide +kernel
  cases executed : sampleRun actions with
  | error stop =>
    rw [executed] at computed
    cases computed
  | ok reached =>
    obtain ⟨past, chain⟩ := reached
    rw [executed] at computed
    obtain ⟨meets, location⟩ := Bool.and_eq_true_iff.mp computed
    obtain ⟨settled, last⟩ := of_decide_eq_true meets
    have samples : Runs.Meets (fun _ action => samplesOnly action) past := by
      refine Runs.meets_of_execute actions (Runs.meets_nil _) ?_ executed
      simp [actions, sampleHop, samplesOnly]
    have preserving : Runs.Meets (Preserving .sampleClient) past := fun transition member =>
      preserving_of_settled (settled transition member) (samples transition member)
    have run := Runs.run_of_execute .nil executed
    refine ⟨past, chain, run, preserving, last, ?_,
      application_conserved sampleAddresses false run preserving [20, 21] last⟩
    cases here : chain.location with
    | held server =>
      rw [here] at location
      cases server with
      | false => rfl
      | true => cases location
    | moving target sent arrived =>
      rw [here] at location
      cases location

/-- A holder without an entry has nothing attached. -/
theorem not_attached {chain : Chain Bool} {server : Bool} (location : chain.location = .held server)
    (nothing : (chain.entry .sampleClient server).isNone = true) :
    ¬ chain.Attached .dev .sampleClient [20, 21] := by
  rw [attached_held location, Option.isNone_iff_eq_none.mp nothing]
  rintro (⟨_, registered, -⟩ | waiting)
  · cases registered
  · cases waiting

/-- The application registers a state and then asks for one that migrated in: nothing is
attached any more. Nor is there anything when the connection moves twice and the state has
not been fetched in between. -/
theorem application_lost :
    (∃ past chain, sampleRun [.register .sample, .fetch fun _ => .sample] = .ok (past, chain) ∧
      Chain.latest past = some [20, 21] ∧ ¬ chain.Attached .dev .sampleClient [20, 21]) ∧
    ∃ past chain,
      sampleRun (.register .sample :: (sampleHop false ++ sampleHop true)) = .ok (past, chain) ∧
      Chain.latest past = some [20, 21] ∧ ¬ chain.Attached .dev .sampleClient [20, 21] := by
  refine ⟨⟨_, _, rfl, rfl, not_attached rfl rfl⟩, ?_⟩
  have computed :
      (match sampleRun (.register .sample :: (sampleHop false ++ sampleHop true)) with
      | .ok (past, chain) => decide (Chain.latest past = some [20, 21]) &&
        match chain.location with
        | .held server => (chain.entry .sampleClient server).isNone
        | .moving _ _ _ => false
      | .error _ => false) = true := by decide +kernel
  cases executed : sampleRun (.register .sample :: (sampleHop false ++ sampleHop true)) with
  | error stop =>
    rw [executed] at computed
    cases computed
  | ok reached =>
    obtain ⟨past, chain⟩ := reached
    rw [executed] at computed
    obtain ⟨last, nothing⟩ := Bool.and_eq_true_iff.mp computed
    refine ⟨past, chain, rfl, of_decide_eq_true last, ?_⟩
    cases here : chain.location with
    | held server =>
      rw [here] at nothing
      exact not_attached here nothing
    | moving target sent arrived =>
      rw [here] at nothing
      cases nothing

end Chain

end Capybara
