import Capybara.TcpMig.Peer

/-!
# What a message does to the record of its client

A migration message concerns the record of one client. `Receipt` lists what can
become of that record, with what is sent and what is reported, and
`receiveMessage_receipt` shows that there is nothing else. Starting a migration and
sending a state are described in the same way.
-/

namespace Capybara

open Tables

namespace TcpMigPeer

/-- One record changes, and messages are sent. -/
structure Becomes (peer peer' : TcpMigPeer) (client : SocketAddrV4)
    (record : Option ActiveMigration) (sent : List TcpMigSegment) : Prop where
  records : ∀ other, peer'.activeMigrations.lookup other =
    if other = client then record else peer.activeMigrations.lookup other
  transmitted : peer'.transmitted = peer.transmitted ++ sent
  localIpv4Addr : peer'.localIpv4Addr = peer.localIpv4Addr
  selfUdpPort : peer'.selfUdpPort = peer.selfUdpPort

/-- The record of another client stays. -/
theorem Becomes.other {peer peer' : TcpMigPeer} {client other : SocketAddrV4}
    {record : Option ActiveMigration} {sent : List TcpMigSegment}
    (becomes : peer.Becomes peer' client record sent) (different : other ≠ client) :
    peer'.activeMigrations.lookup other = peer.activeMigrations.lookup other := by
  rw [becomes.records, if_neg different]

/-- The record of the client is the new one. -/
theorem Becomes.client {peer peer' : TcpMigPeer} {client : SocketAddrV4}
    {record : Option ActiveMigration} {sent : List TcpMigSegment}
    (becomes : peer.Becomes peer' client record sent) :
    peer'.activeMigrations.lookup client = record := by
  rw [becomes.records, if_pos rfl]

/-- The record that answers a preparing message. -/
def prepared (peer : TcpMigPeer) (hdr : TcpMigHeader) : ActiveMigration :=
  { peer.newActive hdr.origin.port hdr.origin hdr.client none with
    lastSentStage := .prepareMigrationAck }

/-- The header that answers a preparing message. -/
def preparedHeader (hdr : TcpMigHeader) : TcpMigHeader :=
  { ActiveMigration.nextHeader hdr .prepareMigrationAck with flagLoad := true }

/-- What a message can do: the record of the client afterwards, the messages sent and
the report. -/
inductive Receipt (profile : Profile) (peer : TcpMigPeer) (hdr : TcpMigHeader) (buf : Buffer) :
    Option ActiveMigration → List TcpMigSegment → Except Fail TcpmigReceiveStatus → Prop where
  | heartbeat (sum : Nat) (stage : hdr.stage = .heartbeatResponse) :
      Receipt profile peer hdr buf (peer.activeMigrations.lookup hdr.client) []
        (.ok (.heartbeatResponse sum))
  | returned {active : ActiveMigration} (stage : hdr.stage = .prepareMigration)
      (recorded : peer.activeMigrations.lookup hdr.client = some active) :
      Receipt profile peer hdr buf none [] (.ok (.returnedBySwitch hdr.origin hdr.client))
  | prepares {sent : List TcpMigSegment} (stage : hdr.stage = .prepareMigration)
      (unrecorded : peer.activeMigrations.lookup hdr.client = none)
      (answered : (peer.prepared hdr).send profile (preparedHeader hdr) [] = .ok sent) :
      Receipt profile peer hdr buf (some (peer.prepared hdr)) sent (.ok .ok)
  /-- The stage is not the expected one. -/
  | refuses {active : ActiveMigration} {fail : Fail}
      (recorded : peer.activeMigrations.lookup hdr.client = some active) :
      Receipt profile peer hdr buf (some active) [] (.error fail)
  | acked {active : ActiveMigration} {qd : QDesc} (stage : hdr.stage = .prepareMigrationAck)
      (recorded : peer.activeMigrations.lookup hdr.client = some active)
      (preparing : active.lastSentStage = .prepareMigration) (described : active.qd = some qd) :
      Receipt profile peer hdr buf (some { active with destUdpPort := hdr.sourceUdpPort }) []
        (.ok (.prepareMigrationAcked qd))
  | rejected {active : ActiveMigration} (stage : hdr.stage = .rejected)
      (recorded : peer.activeMigrations.lookup hdr.client = some active)
      (preparing : active.lastSentStage = .prepareMigration) :
      Receipt profile peer hdr buf none [] (.ok (.rejected hdr.origin hdr.client))
  /-- More fragments are to come. -/
  | gathers {active : ActiveMigration} {defragmenter : TcpMigDefragmenter}
      (stage : hdr.stage = .connectionState)
      (recorded : peer.activeMigrations.lookup hdr.client = some active)
      (prepared : active.lastSentStage = .prepareMigrationAck)
      (gathered : active.defragmenter.defragment profile hdr buf = .ok (defragmenter, none)) :
      Receipt profile peer hdr buf (some { active with defragmenter }) [] (.ok .ok)
  | receives {active : ActiveMigration} {defragmenter : TcpMigDefragmenter}
      {whole : TcpMigHeader} {bytes : Buffer} {read state : TcpState} {sent : List TcpMigSegment}
      (stage : hdr.stage = .connectionState)
      (recorded : peer.activeMigrations.lookup hdr.client = some active)
      (prepared : active.lastSentStage = .prepareMigrationAck)
      (gathered : active.defragmenter.defragment profile hdr buf =
        .ok (defragmenter, some (whole, bytes)))
      (decoded : TcpState.deserialize profile bytes = .ok read)
      (same : state.cb = read.cb.setLocal ⟨active.localIpv4Addr, active.selfUdpPort⟩)
      (answered : { active with defragmenter, lastSentStage := .connectionStateAck }.send profile
        (ActiveMigration.nextHeader whole .connectionStateAck) [] = .ok sent) :
      Receipt profile peer hdr buf
        (some { active with defragmenter, lastSentStage := .connectionStateAck }) sent
        (.ok (.stateReceived state))
  | finished {active : ActiveMigration} (stage : hdr.stage = .connectionStateAck)
      (recorded : peer.activeMigrations.lookup hdr.client = some active)
      (exported : active.lastSentStage = .connectionState) :
      Receipt profile peer hdr buf none [] (.ok .migrationCompleted)
  /-- The state has been received; only the accept is missing. -/
  | ignores {active : ActiveMigration} (other : hdr.stage ≠ .prepareMigration)
      (recorded : peer.activeMigrations.lookup hdr.client = some active)
      (imported : active.lastSentStage = .connectionStateAck) :
      Receipt profile peer hdr buf (some active) [] (.ok .ok)

variable {profile : Profile} {peer peer' : TcpMigPeer} {hdr : TcpMigHeader} {buf : Buffer}
  {status : Except Fail TcpmigReceiveStatus}

/-- A record that was looked up is written back, and others stay. -/
theorem Becomes.of_insert (peer : TcpMigPeer) (client : SocketAddrV4) (active : ActiveMigration)
    (sent : List TcpMigSegment) (applicationState : Table SocketAddrV4 MigratedApplicationState) :
    peer.Becomes { peer with
      activeMigrations := peer.activeMigrations.insert client active
      applicationState
      transmitted := peer.transmitted ++ sent } client (some active) sent :=
  ⟨fun other => Table.lookup_insert_eq _ client other active, rfl, rfl, rfl⟩

/-- A record that was written back is removed again. -/
theorem Becomes.of_erase (peer : TcpMigPeer) (client : SocketAddrV4) (active : ActiveMigration)
    (sent : List TcpMigSegment) :
    peer.Becomes { peer with
      activeMigrations := (peer.activeMigrations.insert client active).erase client
      transmitted := peer.transmitted ++ sent } client none sent := by
  refine ⟨fun other => ?_, rfl, rfl, rfl⟩
  rw [Table.lookup_erase_eq]
  split
  · rfl
  · rename_i different
    rw [Table.lookup_insert_eq, if_neg different]

/-- A message that the record of its client is asked about. -/
theorem dispatch_receipt {active : ActiveMigration}
    (recorded : peer.activeMigrations.lookup hdr.client = some active)
    (other : hdr.stage ≠ .prepareMigration)
    (dispatched : peer.dispatch profile hdr buf = .ok (peer', status)) :
    ∃ record sent, Receipt profile peer hdr buf record sent status ∧
      peer.Becomes peer' hdr.client record sent := by
  unfold dispatch at dispatched
  rw [recorded] at dispatched
  obtain ⟨⟨active', sent, report⟩, processed, dispatched⟩ := bind_ok.mp dispatched
  unfold ActiveMigration.processPacket at processed
  split at processed
  · unfold ActiveMigration.processFresh at processed
    split at processed
    · rename_i stage
      exact absurd stage other
    · cases processed
      cases dispatched
      exact ⟨_, _, .refuses recorded, .of_insert ..⟩
  · rename_i last
    unfold ActiveMigration.processPreparing at processed
    split at processed
    · rename_i stage
      dsimp only at processed
      split at processed
      · rename_i qd described
        cases processed
        cases dispatched
        exact ⟨_, _, .acked stage recorded last described, .of_insert ..⟩
      · cases processed
    · rename_i stage
      cases processed
      cases dispatched
      exact ⟨_, _, .rejected stage recorded last, .of_erase ..⟩
    · cases processed
      cases dispatched
      exact ⟨_, _, .refuses recorded, .of_insert ..⟩
  · rename_i last
    unfold ActiveMigration.processPrepared at processed
    split at processed
    · rename_i stage
      obtain ⟨⟨defragmenter, whole⟩, gathered, processed⟩ := bind_ok.mp processed
      cases whole with
      | none =>
        cases processed
        cases dispatched
        exact ⟨_, _, .gathers stage recorded last gathered, .of_insert ..⟩
      | some whole =>
        obtain ⟨whole, bytes⟩ := whole
        obtain ⟨read, decoded, processed⟩ := bind_ok.mp processed
        obtain ⟨sent', answered, processed⟩ := bind_ok.mp processed
        cases processed
        unfold conclude at dispatched
        dsimp only at dispatched
        split at dispatched
        · cases dispatched
          exact ⟨_, _, .receives stage recorded last gathered decoded rfl answered, .of_insert ..⟩
        · cases dispatched
          exact ⟨_, _, .receives stage recorded last gathered decoded rfl answered, .of_insert ..⟩
    · cases processed
      cases dispatched
      exact ⟨_, _, .refuses recorded, .of_insert ..⟩
  · rename_i last
    unfold ActiveMigration.processExported at processed
    split at processed
    · rename_i stage
      cases processed
      cases dispatched
      exact ⟨_, _, .finished stage recorded last, .of_erase ..⟩
    · cases processed
      cases dispatched
      exact ⟨_, _, .refuses recorded, .of_insert ..⟩
  · rename_i last
    cases processed
    cases dispatched
    exact ⟨_, _, .ignores other recorded last, .of_insert ..⟩
  · cases processed
  · cases processed
  · cases processed

/-- The record of a preparing message is made and answers at once. -/
theorem prepare_receipt (stage : hdr.stage = .prepareMigration)
    (unrecorded : peer.activeMigrations.lookup hdr.client = none)
    (dispatched : dispatch profile { peer with
      activeMigrations := peer.activeMigrations.insert hdr.client
        (peer.newActive hdr.origin.port hdr.origin hdr.client none) } hdr buf = .ok (peer', status)) :
    ∃ record sent, Receipt profile peer hdr buf record sent status ∧
      peer.Becomes peer' hdr.client record sent := by
  unfold dispatch at dispatched
  dsimp only at dispatched
  rw [AList.lookup_insert] at dispatched
  obtain ⟨⟨active, sent, report⟩, processed, dispatched⟩ := bind_ok.mp dispatched
  change ActiveMigration.processFresh profile _ hdr = _ at processed
  unfold ActiveMigration.processFresh at processed
  rw [stage] at processed
  obtain ⟨sent', answered, processed⟩ := bind_ok.mp processed
  cases processed
  cases dispatched
  refine ⟨_, _, .prepares stage unrecorded answered, fun other => ?_, rfl, rfl, rfl⟩
  dsimp only
  rw [Table.lookup_insert_eq, Table.lookup_insert_eq]
  split
  · rfl
  · rfl

/-- Everything that a message can do. -/
theorem receiveMessage_receipt (received : peer.receiveMessage profile hdr buf = .ok (peer', status)) :
    ∃ record sent, Receipt profile peer hdr buf record sent status ∧
      peer.Becomes peer' hdr.client record sent := by
  unfold receiveMessage at received
  split at received
  · rename_i stage
    split at received
    · cases received
    cases received
    refine ⟨_, _, .heartbeat _ stage, fun other => ?_, by simp, rfl, rfl⟩
    split
    · rename_i same
      rw [same]
    · rfl
  split at received
  · rename_i stage
    split at received
    · rename_i active recorded
      cases received
      refine ⟨_, _, .returned stage recorded, fun other => ?_, by simp, rfl, rfl⟩
      exact Table.lookup_erase_eq _ _ _
    · rename_i unrecorded
      exact prepare_receipt stage unrecorded received
  · rename_i other
    cases recorded : peer.activeMigrations.lookup hdr.client with
    | none =>
      unfold dispatch at received
      rw [recorded] at received
      cases received
    | some active => exact dispatch_receipt recorded other received

/-- A migration that is started gets a record that has sent the preparing message. -/
theorem initiateMigration_ok {conn : SocketAddrV4 × SocketAddrV4} {qd : QDesc}
    (initiated : peer.initiateMigration profile conn qd = .ok peer') :
    let active : ActiveMigration := { peer.newActive
      (ActiveMigration.firstDestPort peer.selfUdpPort) conn.1 conn.2 (some qd) with
      lastSentStage := .prepareMigration }
    peer.activeMigrations.lookup conn.2 = none ∧
    ∃ sent, active.send profile (TcpMigHeader.new conn.1 conn.2 0 .prepareMigration peer.selfUdpPort
        (ActiveMigration.firstDestPort peer.selfUdpPort)) [] = .ok sent ∧
      peer.Becomes peer' conn.2 (some active) sent := by
  unfold initiateMigration at initiated
  split at initiated
  · cases initiated
  rename_i unrecorded
  obtain ⟨⟨active, sent⟩, started, initiated⟩ := bind_ok.mp initiated
  cases initiated
  obtain ⟨sent', sends, started⟩ := bind_ok.mp started
  cases started
  exact ⟨unrecorded, sent, sends, .of_insert ..⟩

/-- A state is sent by a record that has prepared the migration. -/
theorem sendTcpState_ok {state : TcpState} (sends : peer.sendTcpState profile state = .ok peer') :
    ∃ active bytes sent, peer.activeMigrations.lookup state.cb.remote = some active ∧
      active.lastSentStage = .prepareMigration ∧
      (state.withApplication (peer.registered state.cb.remote)).serialize = .ok bytes ∧
      { active with lastSentStage := .connectionState }.send profile (TcpMigHeader.new active.origin
        active.client 0 .connectionState active.selfUdpPort active.destUdpPort) bytes = .ok sent ∧
      peer.Becomes peer' state.cb.remote
        (some { active with lastSentStage := .connectionState }) sent := by
  unfold sendTcpState at sends
  dsimp only at sends
  split at sends
  · cases sends
  rename_i active recorded
  obtain ⟨⟨active', sent⟩, exported, sends⟩ := bind_ok.mp sends
  cases sends
  unfold ActiveMigration.sendConnectionState at exported
  split at exported
  · cases exported
  rename_i preparing
  obtain ⟨bytes, serialized, exported⟩ := bind_ok.mp exported
  obtain ⟨sent', fragments, exported⟩ := bind_ok.mp exported
  cases exported
  exact ⟨active, bytes, sent, recorded, not_not.mp preparing, serialized, fragments, .of_insert ..⟩

/-- A segment that is kept is appended to the record of its client. -/
theorem tryBufferPacket_some {remote : SocketAddrV4} {tcpHdr : TcpHeader} {data : Buffer}
    (buffered : peer.tryBufferPacket remote tcpHdr data = some peer') :
    ∃ active, peer.activeMigrations.lookup remote = some active ∧
      peer.Becomes peer' remote (some (active.bufferPacket tcpHdr data)) [] := by
  obtain ⟨active, recorded, rfl⟩ := Option.map_eq_some_iff.mp buffered
  refine ⟨active, recorded, fun other => ?_, by simp, rfl, rfl⟩
  exact Table.lookup_insert_eq _ _ _ _

/-- An accept removes the record of the client. -/
theorem closeActiveMigration_becomes (peer : TcpMigPeer) (remote : SocketAddrV4) :
    peer.Becomes (peer.closeActiveMigration remote).1 remote none [] :=
  ⟨fun _ => Table.lookup_erase_eq _ _ _, by simp [closeActiveMigration], rfl, rfl⟩

/-- A record is about the client and has the address of its server. -/
def Owns (peer : TcpMigPeer) (client : SocketAddrV4) (active : ActiveMigration) : Prop :=
  active.client = client ∧ active.localIpv4Addr = peer.localIpv4Addr

/-- Every record is kept under its own client, with the address of the server. -/
def Filed (peer : TcpMigPeer) : Prop :=
  ∀ client active, peer.activeMigrations.lookup client = some active → peer.Owns client active

/-- A record that belongs to its client is filed right. -/
theorem Becomes.filed {client : SocketAddrV4} {record : Option ActiveMigration} {sent : List TcpMigSegment}
    (becomes : peer.Becomes peer' client record sent) (filed : peer.Filed)
    (own : ∀ active, record = some active → peer.Owns client active) : peer'.Filed := by
  intro other active found
  rw [becomes.records] at found
  unfold Owns
  rw [becomes.localIpv4Addr]
  split at found
  · rename_i same
    rw [same]
    exact own active found
  · exact filed other active found

/-- A message leaves a record of its client. -/
theorem Receipt.filed {record : Option ActiveMigration} {sent : List TcpMigSegment}
    (receipt : Receipt profile peer hdr buf record sent status) (filed : peer.Filed) :
    ∀ active, record = some active → peer.Owns hdr.client active := by
  intro active recorded
  cases receipt with
  | heartbeat sum stage => exact filed _ _ recorded
  | returned stage found => cases recorded
  | rejected stage found preparing => cases recorded
  | finished stage found exported => cases recorded
  | prepares stage found answered =>
    cases recorded
    exact ⟨rfl, rfl⟩
  | refuses found =>
    cases recorded
    exact (filed _ _ found :)
  | acked stage found preparing described =>
    cases recorded
    exact (filed _ _ found :)
  | gathers stage found prepared gathered =>
    cases recorded
    exact (filed _ _ found :)
  | receives stage found prepared gathered decoded same answered =>
    cases recorded
    exact (filed _ _ found :)
  | ignores other found imported =>
    cases recorded
    exact (filed _ _ found :)

/-- Nothing happens to the records. -/
theorem Becomes.same (client : SocketAddrV4) (records : peer'.activeMigrations = peer.activeMigrations)
    (transmitted : peer'.transmitted = peer.transmitted)
    (ip : peer'.localIpv4Addr = peer.localIpv4Addr) (port : peer'.selfUdpPort = peer.selfUdpPort) :
    peer.Becomes peer' client (peer.activeMigrations.lookup client) [] := by
  refine ⟨fun other => ?_, by rw [transmitted, List.append_nil], ip, port⟩
  rw [records]
  split
  · rename_i same
    rw [same]
  · rfl

end TcpMigPeer

end Capybara
