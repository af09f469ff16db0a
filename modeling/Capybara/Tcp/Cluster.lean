import Capybara.Tcp.Custody
import Capybara.Tcp.Established.Transparency
import Capybara.TcpMig.Transfer

/-!
# A cluster of servers

Several servers and the migration messages that are on their way between them. A server
serves its application, its clients and its coroutines at any time; a message reaches any
server, in any order, or none.

For the connections of a cluster a step of a server is one of four things: it exports a
connection, it stores a piece of a state, it imports a state that is complete, or it does
neither, and then no state is sent and no record gains a piece of one.
-/

namespace Capybara

open Tables TcpMigDefragmenter

/-- Servers, and the messages between them. -/
structure Cluster (ι κ ρ : Type) where
  servers : ι → Inner κ ρ
  network : List TcpMigSegment

/-- What can happen in a cluster. -/
inductive ClusterAction (ι : Type) where
  | acts (server : ι) (operation : Operation)
  | arrives (server : ι) (index : Nat)
  | loses (index : Nat)

namespace Cluster

variable {ι κ ρ : Type} [DecidableEq ι] [CongestionControl κ] [RtoCalculator ρ]

/-- Servers that have not been used yet. -/
def new (ports : ι → EphemeralPorts) (addresses : ι → MacAddress × Ipv4Addr)
    (tcpConfig : ι → TcpConfig) : Cluster ι κ ρ where
  servers server := .new (ports server) (addresses server).1 (addresses server).2 (tcpConfig server)
  network := []

/-- A server goes on, and what it has sent is on its way beside other messages. -/
def goesOn (cluster : Cluster ι κ ρ) (server : ι) (inner : Inner κ ρ)
    (network : List TcpMigSegment) : Cluster ι κ ρ where
  servers := Function.update cluster.servers server inner
  network := network ++
    inner.tcpmig.transmitted.drop (cluster.servers server).tcpmig.transmitted.length

/-- One action. A message on its way is delivered once. One that arrives again, or that nobody
has sent, is an operation of the server that it reaches. -/
def step (profile : Profile) (cluster : Cluster ι κ ρ) :
    ClusterAction ι → Checked (Cluster ι κ ρ)
  | .acts server operation => do
    let inner ← (cluster.servers server).step profile operation
    .ok (cluster.goesOn server inner cluster.network)
  | .arrives server index =>
    match cluster.network[index]? with
    | none => .ok cluster
    | some segment => do
      let inner ← (cluster.servers server).step profile
        (.message segment.ipv4Hdr segment.datagram)
      .ok (cluster.goesOn server inner (cluster.network.eraseIdx index))
  | .loses index => .ok { cluster with network := cluster.network.eraseIdx index }

/-- A message of the migrations that reaches a server otherwise than from the network: one that
arrives again, or one that nobody has sent. -/
def strays : ClusterAction ι → Option (ι × Ipv4Header × Buffer)
  | .acts server (.message ipHdr buf) => some (server, ipHdr, buf)
  | _ => none

/-- A successful action of a cluster. -/
abbrev Transition (ι κ ρ : Type) := Runs.Transition (Cluster ι κ ρ) (ClusterAction ι)

/-- The clusters reached from `start`, with the actions that led there. -/
abbrev Run (profile : Profile) (start : Cluster ι κ ρ) :
    List (Transition ι κ ρ) → Cluster ι κ ρ → Prop :=
  Runs.Run (step profile) start

end Cluster

/-! ## States on their way -/

/-- A message about a client that is a piece of a state. Behind the pieces a fragmenter
whose counter comes back to zero sends messages that are none. -/
def TcpMigSegment.carries (client : SocketAddrV4) (segment : TcpMigSegment) : Bool :=
  segment.tcpmigHdr.stage = .connectionState ∧ segment.tcpmigHdr.client = client ∧
    ¬(segment.tcpmigHdr.flagNextFragment = false ∧ segment.tcpmigHdr.fragmentOffset = 0 ∧
      segment.data = [])

/-- The fragments of a message are about the same client and of the same stage. -/
theorem Fragmented.header {segment fragment : TcpMigSegment} {pieces : List Buffer}
    {sent : List TcpMigSegment} (fragmented : Fragmented segment pieces sent)
    (member : fragment ∈ sent) :
    fragment.tcpmigHdr.stage = segment.tcpmigHdr.stage ∧
      fragment.tcpmigHdr.client = segment.tcpmigHdr.client := by
  obtain ⟨index, found⟩ := List.mem_iff_getElem?.mp member
  by_cases inside : index < pieces.length
  · cases (fragmented.piece index inside).symm.trans found
    exact ⟨rfl, rfl⟩
  · obtain ⟨-, header⟩ := fragmented.extra index fragment (Nat.le_of_not_lt inside) found
    rw [header]
    exact ⟨rfl, rfl⟩

namespace TcpMigPeer

variable {profile : Profile} {peer peer' peer'' : TcpMigPeer}

/-- What the record of a client that awaits a state has stored of it. -/
def collecting (peer : TcpMigPeer) (client : SocketAddrV4) : Option TcpMigDefragmenter :=
  match peer.activeMigrations.lookup client with
  | none => none
  | some active =>
    if active.lastSentStage = .prepareMigrationAck then some active.defragmenter else none

/-- No state is sent, and no record gains a piece of one. -/
structure Quiet (peer peer' : TcpMigPeer) : Prop where
  collecting : ∀ client defragmenter, peer'.collecting client = some defragmenter →
    peer.collecting client = some defragmenter ∨ defragmenter = .new
  transmitted : ∃ sent, peer'.transmitted = peer.transmitted ++ sent ∧
    ∀ segment ∈ sent, segment.tcpmigHdr.stage ≠ .connectionState

/-- Nothing has happened. -/
theorem Quiet.refl (peer : TcpMigPeer) : peer.Quiet peer :=
  ⟨fun _ _ => .inl, [], (List.append_nil _).symm, fun _ member => by cases member⟩

/-- Only the records and what is sent matter. -/
theorem Quiet.of_records (records : peer'.activeMigrations = peer.activeMigrations)
    (transmitted : peer'.transmitted = peer.transmitted) : peer.Quiet peer' := by
  refine ⟨fun client defragmenter found => .inl ?_, [], ?_, fun _ member => by cases member⟩
  · unfold TcpMigPeer.collecting at found ⊢
    rwa [records] at found
  · rw [transmitted, List.append_nil]

/-- Two quiet changes are quiet together. -/
theorem Quiet.trans (first : peer.Quiet peer') (second : peer'.Quiet peer'') :
    peer.Quiet peer'' := by
  obtain ⟨sent, transmitted, silent⟩ := first.transmitted
  obtain ⟨sent', transmitted', silent'⟩ := second.transmitted
  refine ⟨fun client defragmenter found => ?_, sent ++ sent', ?_, fun segment member => ?_⟩
  · obtain before | fresh := second.collecting client defragmenter found
    · exact first.collecting client defragmenter before
    · exact .inr fresh
  · rw [transmitted', transmitted, List.append_assoc]
  · obtain member | member := List.mem_append.mp member
    · exact silent segment member
    · exact silent' segment member

/-- A record that does not await a state, or awaits the one that it did. -/
theorem Quiet.of_becomes {client : SocketAddrV4} {record : Option ActiveMigration}
    {sent : List TcpMigSegment} (becomes : peer.Becomes peer' client record sent)
    (awaits : ∀ active, record = some active → active.lastSentStage = .prepareMigrationAck →
      peer.collecting client = some active.defragmenter ∨ active.defragmenter = .new)
    (silent : ∀ segment ∈ sent, segment.tcpmigHdr.stage ≠ .connectionState) :
    peer.Quiet peer' := by
  refine ⟨fun other defragmenter found => ?_, sent, becomes.transmitted, silent⟩
  unfold TcpMigPeer.collecting at found
  rw [becomes.records] at found
  split at found
  · cases found
  rename_i active recorded
  split at found
  · rename_i stage
    cases found
    split at recorded
    · rename_i same
      subst same
      exact awaits active recorded stage
    · refine .inl ?_
      unfold TcpMigPeer.collecting
      rw [recorded]
      exact if_pos stage
  · cases found

/-- A record that awaits a state. -/
theorem collecting_of_recorded {client : SocketAddrV4} {active : ActiveMigration}
    (recorded : peer.activeMigrations.lookup client = some active)
    (stage : active.lastSentStage = .prepareMigrationAck) :
    peer.collecting client = some active.defragmenter := by
  unfold collecting
  rw [recorded]
  exact if_pos stage

/-- What a record sends is of the stage of its message. -/
theorem send_stage {active : ActiveMigration} {hdr : TcpMigHeader} {buf : Buffer}
    {sent : List TcpMigSegment} (sends : active.send profile hdr buf = .ok sent)
    (other : hdr.stage ≠ .connectionState) :
    ∀ segment ∈ sent, segment.tcpmigHdr.stage ≠ .connectionState := by
  obtain ⟨pieces, -, fragmented⟩ := ActiveMigration.send_fragmented sends
  intro segment member
  rw [(fragmented.header member).1]
  exact other

/-- What a message can do to states on their way. -/
inductive Reading (profile : Profile) (peer : TcpMigPeer) (ipHdr : Ipv4Header) (buf : Buffer)
    (peer' : TcpMigPeer) (status : Except Fail TcpmigReceiveStatus) : Prop where
  | quiet (peers : peer.Quiet peer') (nothing : ∀ state, status ≠ .ok (.stateReceived state))
  | gathers {hdr : TcpMigHeader} {data : Buffer} {defragmenter further : TcpMigDefragmenter}
      (parsed : TcpMigHeader.parse ipHdr buf = .ok (hdr, data))
      (stage : hdr.stage = .connectionState)
      (collected : peer.collecting hdr.client = some defragmenter)
      (gathered : defragmenter.defragment profile hdr data = .ok (further, none))
      (collecting : ∀ client, peer'.collecting client =
        if client = hdr.client then some further else peer.collecting client)
      (transmitted : peer'.transmitted = peer.transmitted) (reported : status = .ok .ok)
  | imports {hdr : TcpMigHeader} {data : Buffer} {defragmenter further : TcpMigDefragmenter}
      {whole : TcpMigHeader} {bytes : Buffer} {read state : TcpState}
      (parsed : TcpMigHeader.parse ipHdr buf = .ok (hdr, data))
      (stage : hdr.stage = .connectionState)
      (collected : peer.collecting hdr.client = some defragmenter)
      (gathered : defragmenter.defragment profile hdr data = .ok (further, some (whole, bytes)))
      (decoded : TcpState.deserialize profile bytes = .ok read)
      (collecting : ∀ client, peer'.collecting client =
        if client = hdr.client then none else peer.collecting client)
      (transmitted : ∃ sent, peer'.transmitted = peer.transmitted ++ sent ∧
        ∀ segment ∈ sent, segment.tcpmigHdr.stage ≠ .connectionState)
      (reported : status = .ok (.stateReceived state))
      (rebuilt : ∃ active port, peer.activeMigrations.lookup hdr.client = some active ∧
        state.cb = read.cb.setLocal ⟨active.localIpv4Addr, port⟩)

/-- The record of another client is collecting what it was. -/
theorem Becomes.collecting {client : SocketAddrV4} {record : Option ActiveMigration}
    {sent : List TcpMigSegment} (becomes : peer.Becomes peer' client record sent)
    {now : Option TcpMigDefragmenter} (own : peer'.collecting client = now)
    (other : SocketAddrV4) :
    peer'.collecting other = if other = client then now else peer.collecting other := by
  split
  · rename_i same
    rw [same, own]
  · rename_i different
    unfold TcpMigPeer.collecting
    rw [becomes.other different]

/-- There is nothing else that a message can do. -/
theorem receive_reading {ipHdr : Ipv4Header} {buf : Buffer}
    {status : Except Fail TcpmigReceiveStatus}
    (received : peer.receive profile ipHdr buf = .ok (peer', status)) :
    Reading profile peer ipHdr buf peer' status := by
  unfold receive at received
  split at received
  · cases received
    exact .quiet (.refl _) (fun state same => by cases same)
  rename_i hdr data parsed
  obtain ⟨record, sent, receipt, becomes⟩ := receiveMessage_receipt received
  -- A record that is not at the stage of awaiting a state collects nothing.
  have other {active : ActiveMigration} (recorded : record = some active)
      (stage : active.lastSentStage ≠ .prepareMigrationAck) :
      peer'.collecting hdr.client = none := by
    unfold TcpMigPeer.collecting
    rw [becomes.client, recorded]
    exact if_neg stage
  cases receipt with
  | heartbeat sum stage =>
    refine .quiet (.of_becomes becomes ?_ (fun _ member => by cases member)) (fun _ same => by cases same)
    exact fun active recorded prepared => .inl (collecting_of_recorded recorded prepared)
  | returned stage recorded =>
    exact .quiet (.of_becomes becomes (fun _ none_ => by cases none_) (fun _ member => by cases member))
      (fun _ same => by cases same)
  | prepares stage unrecorded answered =>
    refine .quiet (.of_becomes becomes ?_ (send_stage answered ?_)) (fun _ same => by cases same)
    · rintro _ ⟨⟩ -
      exact .inr rfl
    · simp [preparedHeader, ActiveMigration.nextHeader, TcpMigHeader.swapSrcDstPort]
  | refuses recorded =>
    refine .quiet (.of_becomes becomes ?_ (fun _ member => by cases member)) (fun _ same => by cases same)
    rintro _ ⟨⟩ prepared
    exact .inl (collecting_of_recorded recorded prepared)
  | acked stage recorded preparing described =>
    refine .quiet (.of_becomes becomes ?_ (fun _ member => by cases member)) (fun _ same => by cases same)
    rintro _ ⟨⟩ prepared
    cases preparing.symm.trans prepared
  | rejected stage recorded preparing =>
    exact .quiet (.of_becomes becomes (fun _ none_ => by cases none_) (fun _ member => by cases member))
      (fun _ same => by cases same)
  | gathers stage recorded prepared gathered =>
    have own : peer'.collecting hdr.client = some _ :=
      collecting_of_recorded becomes.client prepared
    exact .gathers parsed stage (collecting_of_recorded recorded prepared) gathered
      (becomes.collecting own) (by rw [becomes.transmitted, List.append_nil]) rfl
  | receives stage recorded prepared gathered decoded same answered =>
    refine .imports parsed stage (collecting_of_recorded recorded prepared) gathered decoded
      (becomes.collecting (other rfl (by simp))) ⟨sent, becomes.transmitted, send_stage answered ?_⟩
      rfl ⟨_, _, recorded, same⟩
    simp [ActiveMigration.nextHeader, TcpMigHeader.swapSrcDstPort]
  | finished stage recorded exported =>
    exact .quiet (.of_becomes becomes (fun _ none_ => by cases none_) (fun _ member => by cases member))
      (fun _ same => by cases same)
  | ignores different recorded imported =>
    refine .quiet (.of_becomes becomes ?_ (fun _ member => by cases member)) (fun _ same => by cases same)
    rintro _ ⟨⟩ prepared
    cases imported.symm.trans prepared

/-- A migration that is started sends no state. -/
theorem initiateMigration_quiet {conn : Endpoints} {qd : QDesc}
    (initiated : peer.initiateMigration profile conn qd = .ok peer') : peer.Quiet peer' := by
  obtain ⟨-, sent, sends, becomes⟩ := initiateMigration_ok initiated
  refine .of_becomes becomes ?_ (send_stage sends (by simp [TcpMigHeader.new]))
  rintro _ ⟨⟩ prepared
  cases prepared

/-- A segment that is buffered is quiet: it changes neither what was sent nor what is collected.
-/
theorem tryBufferPacket_quiet {remote : SocketAddrV4} {tcpHdr : TcpHeader} {data : Buffer}
    (buffered : peer.tryBufferPacket remote tcpHdr data = some peer') : peer.Quiet peer' := by
  obtain ⟨active, recorded, becomes⟩ := tryBufferPacket_some buffered
  refine .of_becomes becomes ?_ (fun _ member => by cases member)
  rintro _ ⟨⟩ prepared
  exact .inl (collecting_of_recorded recorded prepared :)

/-- A migration that is closed is quiet. -/
theorem closeActiveMigration_quiet (peer : TcpMigPeer) (remote : SocketAddrV4) :
    peer.Quiet (peer.closeActiveMigration remote).1 :=
  .of_becomes (closeActiveMigration_becomes peer remote) (fun _ none_ => by cases none_)
    (fun _ member => by cases member)

/-- A state that is sent is about the client of the record. -/
theorem sendTcpState_ships {state : TcpState} (filed : peer.Filed)
    (sends : peer.sendTcpState profile state = .ok peer') :
    (∀ client defragmenter, peer'.collecting client = some defragmenter →
      peer.collecting client = some defragmenter) ∧
    ∃ segment pieces sent, Fragmented segment pieces sent ∧
      segment.tcpmigHdr.client = state.cb.remote ∧ segment.tcpmigHdr.stage = .connectionState ∧
      TcpState.Image state.cb pieces.flatten ∧ peer'.transmitted = peer.transmitted ++ sent := by
  obtain ⟨active, bytes, sent, recorded, -, serialized, sends, becomes⟩ := sendTcpState_ok sends
  obtain ⟨pieces, whole, fragmented⟩ := ActiveMigration.send_fragmented sends
  refine ⟨fun client defragmenter found => ?_, _, pieces, sent, fragmented,
    (filed _ active recorded).1, rfl, ?_, becomes.transmitted⟩
  · have own : peer'.collecting state.cb.remote = none := by
      unfold TcpMigPeer.collecting
      rw [becomes.client]
      exact if_neg (by simp)
    rw [becomes.collecting own] at found
    split at found
    · cases found
    · exact found
  · rw [whole]
    have image := TcpState.image_of_serialized serialized
    rwa [TcpState.withApplication_cb] at image

/-- A message leaves records filed. -/
theorem Filed.receive {ipHdr : Ipv4Header} {buf : Buffer}
    {status : Except Fail TcpmigReceiveStatus} (filed : peer.Filed)
    (received : peer.receive profile ipHdr buf = .ok (peer', status)) : peer'.Filed := by
  unfold TcpMigPeer.receive at received
  split at received
  · cases received
    exact filed
  · obtain ⟨record, sent, receipt, becomes⟩ := receiveMessage_receipt received
    exact becomes.filed filed (receipt.filed filed)

/-- Records stay filed under their clients. -/
theorem Filed.step {κ ρ : Type} [CongestionControl κ] [RtoCalculator ρ]
    {before after : ServerTables κ ρ} {operation : Operation}
    (filed : before.tcpmig.Filed) (effect : Capybara.Effect profile before operation after) :
    after.tcpmig.Filed := by
  refine effect.peer_kept ?_ filed
  intro peer peer' call filed
  cases call with
  | setsPort | registers => exact filed
  | receives received => exact filed.receive received
  | initiates initiated =>
    obtain ⟨-, sent, -, becomes⟩ := initiateMigration_ok initiated
    refine becomes.filed filed ?_
    rintro _ ⟨⟩
    exact ⟨rfl, rfl⟩
  | sends sent =>
    obtain ⟨active, bytes, sent, recorded, -, -, -, becomes⟩ := sendTcpState_ok sent
    refine becomes.filed filed ?_
    rintro _ ⟨⟩
    exact (filed _ _ recorded :)
  | buffers buffered =>
    obtain ⟨active, recorded, becomes⟩ := tryBufferPacket_some buffered
    refine becomes.filed filed ?_
    rintro _ ⟨⟩
    exact (filed _ _ recorded :)
  | closes =>
    refine (closeActiveMigration_becomes _ _).filed filed ?_
    rintro _ ⟨⟩

end TcpMigPeer

/-! ## The steps of a server -/

section Turns

variable {κ ρ : Type} [CongestionControl κ] [RtoCalculator ρ]

/-- What a step of a server is for the connections of a cluster. -/
inductive Turn (profile : Profile) (before after : ServerTables κ ρ) (operation : Operation) :
    Prop where
  | quiet (peers : before.tcpmig.Quiet after.tcpmig) (departed : before.departed after = [])
      (arrived : before.arrived after operation = [])
  | exports {cb : ControlBlock κ ρ} {segment : TcpMigSegment} {pieces : List Buffer}
      {calm sent : List TcpMigSegment} (departed : before.departed after = [cb])
      (arrived : before.arrived after operation = []) (exportable : cb.Exportable)
      (image : TcpState.Image cb.exported pieces.flatten)
      (fragmented : Fragmented segment pieces sent)
      (client : segment.tcpmigHdr.client = cb.remote)
      (stage : segment.tcpmigHdr.stage = .connectionState)
      (collecting : ∀ client defragmenter, after.tcpmig.collecting client = some defragmenter →
        before.tcpmig.collecting client = some defragmenter ∨ defragmenter = .new)
      (silent : ∀ segment ∈ calm, segment.tcpmigHdr.stage ≠ .connectionState)
      (transmitted : after.tcpmig.transmitted = before.tcpmig.transmitted ++ calm ++ sent)
  | gathers {ipHdr : Ipv4Header} {buf : Buffer} {hdr : TcpMigHeader} {data : Buffer}
      {defragmenter further : TcpMigDefragmenter} (message : operation = .message ipHdr buf)
      (parsed : TcpMigHeader.parse ipHdr buf = .ok (hdr, data))
      (stage : hdr.stage = .connectionState)
      (collected : before.tcpmig.collecting hdr.client = some defragmenter)
      (gathered : defragmenter.defragment profile hdr data = .ok (further, none))
      (collecting : ∀ client, after.tcpmig.collecting client =
        if client = hdr.client then some further else before.tcpmig.collecting client)
      (transmitted : after.tcpmig.transmitted = before.tcpmig.transmitted)
      (departed : before.departed after = []) (arrived : before.arrived after operation = [])
  | imports {ipHdr : Ipv4Header} {buf : Buffer} {hdr : TcpMigHeader} {data : Buffer}
      {defragmenter further : TcpMigDefragmenter} {whole : TcpMigHeader} {bytes : Buffer}
      {read : TcpState} (message : operation = .message ipHdr buf)
      (parsed : TcpMigHeader.parse ipHdr buf = .ok (hdr, data))
      (stage : hdr.stage = .connectionState)
      (collected : before.tcpmig.collecting hdr.client = some defragmenter)
      (gathered : defragmenter.defragment profile hdr data = .ok (further, some (whole, bytes)))
      (decoded : TcpState.deserialize profile bytes = .ok read)
      (collecting : ∀ client, after.tcpmig.collecting client =
        if client = hdr.client then none else before.tcpmig.collecting client)
      (transmitted : ∃ sent, after.tcpmig.transmitted = before.tcpmig.transmitted ++ sent ∧
        ∀ segment ∈ sent, segment.tcpmigHdr.stage ≠ .connectionState)
      (departed : before.departed after = [])
      (arrived : before.arrived after operation = [] ∨ ∃ port,
        before.arrived after operation = [.fromState before.importer
          (read.cb.setLocal ⟨before.tcpmig.localIpv4Addr, port⟩)])

variable {profile : Profile} {before after : ServerTables κ ρ}

omit [CongestionControl κ] [RtoCalculator ρ] in
/-- Nothing arrives while the queues stay. -/
theorem arrived_nil {operation : Operation} (same : after.passive = before.passive) :
    before.arrived after operation = [] := by
  unfold ServerTables.arrived
  split
  · exact ServerTables.news_same same
  · rfl

/-- An export, whatever led to it. -/
theorem Turn.of_exports {qd : QDesc} {operation : Operation} (tcpmig : TcpMigPeer)
    (described : before.Described) (filed : tcpmig.Filed) (peers : before.tcpmig.Quiet tcpmig)
    (exports : ServerTables.Exports profile qd { before with tcpmig } after) :
    Turn profile before after operation := by
  obtain ⟨localAddr, remote, connection, state, tcpmig', -, known, found, exported, sends, rfl⟩ :=
    exports
  obtain ⟨connection', found', named⟩ := described _ (AList.lookup_isSome.mp known)
  cases found.symm.trans found'
  obtain ⟨collecting, segment, pieces, sent, fragmented, client, stage, image, transmits⟩ :=
    TcpMigPeer.sendTcpState_ships filed sends
  obtain ⟨small, rfl⟩ := ControlBlock.ofControlBlock_ok.mp exported
  obtain ⟨calm, transmitted, silent⟩ := peers.transmitted
  refine .exports (ServerTables.departed_erase found rfl) (arrived_nil rfl) ⟨small, image.1⟩ image
    fragmented client stage ?_ silent ?_
  · exact fun other defragmenter now =>
      peers.collecting other defragmenter (collecting other defragmenter now)
  · rw [transmits, transmitted]

/-- An operation that is quiet for the migration peer, and takes no connection away. -/
theorem Turn.of_quiet {operation : Operation} (peers : before.tcpmig.Quiet after.tcpmig)
    (stay : ∀ key, key ∈ before.established → key ∈ after.established)
    (arrived : before.arrived after operation = []) : Turn profile before after operation :=
  .quiet peers (ServerTables.departed_nil stay) arrived

/-- A migration that begins moves no connection. -/
theorem Turn.of_initiates {conn : Endpoints} {qd : QDesc} {operation : Operation}
    (tcpmig : TcpMigPeer) (peers : before.tcpmig.Quiet tcpmig)
    (initiates : ServerTables.Initiates profile conn qd { before with tcpmig } after) :
    Turn profile before after operation := by
  obtain ⟨connection, tcpmig', found, initiated, rfl⟩ := initiates
  exact .of_quiet (peers.trans (TcpMigPeer.initiateMigration_quiet initiated))
    (fun _ member => AList.mem_insert _ |>.mpr (.inr member)) (arrived_nil rfl)

/-- Every operation of a server is one of the four turns. -/
theorem Effect.turn {operation : Operation} (described : before.Described)
    (filed : before.tcpmig.Filed) (effect : Effect profile before operation after) :
    Turn profile before after operation := by
  cases effect with
  | idle | opens | connects | awaits | drops | dangles =>
    exact .of_quiet (.refl _) (fun _ => id) (arrived_nil rfl)
  | binds | setsPort | registers =>
    exact .of_quiet (.of_records rfl rfl) (fun _ => id) (arrived_nil rfl)
  | listens | polls | shakes | completes => exact .of_quiet (.refl _) (fun _ => id) rfl
  | connected | closes | moves =>
    exact .of_quiet (.refl _) (fun _ member => AList.mem_insert _ |>.mpr (.inr member)) (arrived_nil rfl)
  | accepts listening accepted =>
    obtain ⟨passive, ready, cb, found, front, -, -, -, -, rfl⟩ := accepted
    exact .of_quiet (TcpMigPeer.closeActiveMigration_quiet _ _)
      (fun _ member => AList.mem_insert _ |>.mpr (.inr member)) rfl
  | buffers buffered =>
    exact .of_quiet (TcpMigPeer.tryBufferPacket_quiet buffered) (fun _ => id) (arrived_nil rfl)
  | @migrates ipHdr buf tcpmig status after received acts =>
    cases TcpMigPeer.receive_reading received with
    | quiet peers nothing =>
      cases acts with
      | failed | settled | completed | sentReject | heartbeat =>
        exact .of_quiet peers (fun _ => id) (arrived_nil rfl)
      | rejected found =>
        exact .of_quiet peers (fun _ member => AList.mem_insert _ |>.mpr (.inr member))
          (arrived_nil rfl)
      | returned known initiates => exact .of_initiates tcpmig peers initiates
      | acked exports =>
        exact .of_exports tcpmig described (filed.receive received) peers exports
      | received imports => exact absurd rfl (nothing _)
    | gathers parsed stage collected gathered collecting transmitted reported =>
      cases reported
      cases acts
      exact .gathers rfl parsed stage collected gathered collecting transmitted
        (ServerTables.departed_nil fun _ => id) (arrived_nil rfl)
    | @imports hdr data _ _ _ _ read state parsed stage collected gathered decoded collecting
        transmitted reported rebuilt =>
      cases reported
      cases acts with
      | received imports =>
        obtain ⟨active, port, recorded, rebuilt⟩ := rebuilt
        obtain ⟨stay, -, news⟩ := ServerTables.imports_keeps hdr.client imports
        have same : after.tcpmig = tcpmig := by
          obtain ⟨-, rfl⟩ | ⟨passive, ready, -, -, rfl⟩ := imports
          · rfl
          · rfl
        rw [← same] at collecting transmitted
        refine .imports rfl parsed stage collected gathered decoded collecting transmitted stay ?_
        rw [rebuilt, (filed _ _ recorded).2] at news
        exact news.imp id fun arrived => ⟨port, arrived⟩
  | initiatesByAddr known initiates => exact .of_initiates before.tcpmig (.refl _) initiates
  | initiatesByQd established initiates => exact .of_initiates before.tcpmig (.refl _) initiates
  | exports exports => exact .of_exports before.tcpmig described filed (.refl _) exports

end Turns

end Capybara
