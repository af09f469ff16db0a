import Capybara.Tcp.ConnectionTables
import Capybara.Tcp.Established.Transparency
import Capybara.TcpMig.Defragmentation
import Capybara.TcpMig.Receipts

/-!
# Messages that do not stop a server

A migration message is judged by the last message that was sent for its client. Many
combinations are answered with an error; others rely on what an orderly exchange
would have left in the tables, and panic when it is not there. `Harmless` lists, for
each kind of message, what has to be there. It is shown that a server in any state it
can reach returns from a harmless message.

What the records themselves guarantee in every reachable state is collected first.
-/

namespace Capybara

open Tables ServerTables TcpMigPeer

/-! ## The records -/

/-- What holds of every record: the last message is one that a record sends, the
origin knows its descriptor, and the fragments are counted. -/
structure ActiveMigration.Sound (active : ActiveMigration) : Prop where
  stage : active.lastSentStage ≠ .rejected ∧ active.lastSentStage ≠ .heartbeatUpdate ∧
    active.lastSentStage ≠ .heartbeatResponse
  described : active.lastSentStage = .prepareMigration → active.qd.isSome
  covers : active.defragmenter.Covers

namespace TcpMigPeer

/-- Every record is sound. -/
def Sound (peer : TcpMigPeer) : Prop :=
  ∀ client active, peer.activeMigrations.lookup client = some active → active.Sound

variable {profile : Profile} {peer peer' : TcpMigPeer} {hdr : TcpMigHeader} {buf : Buffer}

/-- A peer whose record of one client changes stays sound if the new record is. -/
theorem Sound.of_becomes {client : SocketAddrV4} {record : Option ActiveMigration}
    {sent : List TcpMigSegment} (sound : peer.Sound)
    (becomes : peer.Becomes peer' client record sent)
    (kept : ∀ active, record = some active → active.Sound) : peer'.Sound := by
  intro other active found
  rw [becomes.records] at found
  split at found
  · exact kept active found
  · exact sound other active found

/-- A message leaves the record of its client sound, whatever state it finds it in. -/
theorem Sound.of_receipt {record : Option ActiveMigration} {sent : List TcpMigSegment}
    {status : Except Fail TcpmigReceiveStatus} (sound : peer.Sound)
    (receipt : Receipt profile peer hdr buf record sent status)
    (becomes : peer.Becomes peer' hdr.client record sent) : peer'.Sound := by
  refine sound.of_becomes becomes ?_
  intro active found
  cases receipt with
  | heartbeat => exact sound _ _ found
  | returned | rejected | finished => cases found
  | prepares =>
    cases found
    exact ⟨by simp [prepared], by simp [prepared], TcpMigDefragmenter.covers_new⟩
  | refuses recorded =>
    cases found
    exact sound _ _ recorded
  | ignores _ recorded =>
    cases found
    exact sound _ _ recorded
  | acked _ recorded =>
    cases found
    obtain ⟨stage, described, covers⟩ := sound _ _ recorded
    exact ⟨stage, described, covers⟩
  | gathers _ recorded last gathered =>
    cases found
    obtain ⟨stage, described, covers⟩ := sound _ _ recorded
    exact ⟨stage, described, covers.defragment gathered⟩
  | receives _ recorded last gathered =>
    cases found
    obtain ⟨-, -, covers⟩ := sound _ _ recorded
    exact ⟨by simp, by simp, covers.defragment gathered⟩

/-- What arrives leaves the peer sound. -/
theorem Sound.of_receive {ipHdr : Ipv4Header} {status : Except Fail TcpmigReceiveStatus}
    (sound : peer.Sound) (received : peer.receive profile ipHdr buf = .ok (peer', status)) :
    peer'.Sound := by
  unfold receive at received
  split at received
  · cases received
    exact sound
  · obtain ⟨record, sent, receipt, becomes⟩ := receiveMessage_receipt received
    exact sound.of_receipt receipt becomes

/-- A migration that begins has a sound record. -/
theorem Sound.of_initiate {conn : SocketAddrV4 × SocketAddrV4} {qd : QDesc} (sound : peer.Sound)
    (initiated : peer.initiateMigration profile conn qd = .ok peer') : peer'.Sound := by
  obtain ⟨-, sent, -, becomes⟩ := initiateMigration_ok initiated
  refine sound.of_becomes becomes ?_
  intro active found
  cases found
  exact ⟨by simp, fun _ => rfl, TcpMigDefragmenter.covers_new⟩

/-- A migration whose state is sent has a sound record. -/
theorem Sound.of_send {state : TcpState} (sound : peer.Sound)
    (sends : peer.sendTcpState profile state = .ok peer') : peer'.Sound := by
  obtain ⟨active, bytes, sent, recorded, -, -, -, becomes⟩ := sendTcpState_ok sends
  refine sound.of_becomes becomes ?_
  intro active' found
  cases found
  exact ⟨by simp, by simp, (sound _ _ recorded).covers⟩

/-- A segment that is buffered goes into a record that is filed already. -/
theorem Sound.of_buffer {remote : SocketAddrV4} {tcpHdr : TcpHeader} {data : Buffer}
    (sound : peer.Sound) (buffered : peer.tryBufferPacket remote tcpHdr data = some peer') :
    peer'.Sound := by
  obtain ⟨active, recorded, becomes⟩ := tryBufferPacket_some buffered
  refine sound.of_becomes becomes ?_
  intro active' found
  cases found
  obtain ⟨stage, described, covers⟩ := sound _ _ recorded
  exact ⟨stage, described, covers⟩

end TcpMigPeer

section Runs

variable {κ ρ : Type} [CongestionControl κ] [RtoCalculator ρ] {profile : Profile}

/-- Records stay sound through every operation. -/
theorem Effect.sound {before after : ServerTables κ ρ} {operation : Operation}
    (sound : before.tcpmig.Sound) (effect : Effect profile before operation after) :
    after.tcpmig.Sound := by
  refine effect.peer_kept ?_ sound
  intro peer peer' step sound
  cases step with
  | setsPort | registers => exact sound
  | receives received => exact sound.of_receive received
  | initiates initiated => exact sound.of_initiate initiated
  | sends sent => exact sound.of_send sent
  | buffers buffered => exact sound.of_buffer buffered
  | closes =>
    refine sound.of_becomes (closeActiveMigration_becomes _ _) ?_
    intro active found
    cases found

/-- The records of a reachable server are sound. -/
theorem Inner.run_sound {start inner : Inner κ ρ} {past : List (Inner.Transition κ ρ)}
    (initially : start.tcpmig.Sound) (run : Inner.Run profile start past inner) :
    inner.tcpmig.Sound := by
  induction run with
  | nil => exact initially
  | step operation earlier stepped inductionHypothesis =>
    exact (Inner.step_effect stepped).sound inductionHypothesis

end Runs

/-! ## What a message needs -/

variable {κ ρ : Type}

namespace Inner

/-- The connection of a descriptor can leave: the tables know it, the format can express
it, its client has a record that prepares a migration, and its fragments can be counted. -/
structure CanLeave (profile : Profile) (inner : Inner κ ρ) (qd : QDesc) (localAddr remote : SocketAddrV4)
    (connection : Connection κ ρ) (record : ActiveMigration) : Prop where
  established : inner.sockets.lookup qd = some (.established localAddr remote)
  known : (localAddr, remote) ∈ inner.qds
  held : inner.established.lookup (localAddr, remote) = some connection
  exportable : connection.cb.Exportable
  recorded : inner.tcpmig.activeMigrations.lookup connection.cb.remote = some record
  preparing : record.lastSentStage = .prepareMigration
  size : ((TcpState.new connection.cb.exported).withApplication
    (inner.tcpmig.registered connection.cb.remote)).serializedSize / MAX_FRAGMENT_SIZE ≤ 2 ^ 16 - 1
  counted : profile.checks = true → ((TcpState.new connection.cb.exported).withApplication
    (inner.tcpmig.registered connection.cb.remote)).serializedSize ≤
      MAX_FRAGMENT_SIZE * (2 ^ 16 - 1)

/-- A fragment can be received: it is stored behind the others if it is the last one, and
what it completes is a state for a client that has no connection waiting at the address
of the record. -/
structure CanArrive (inner : Inner κ ρ) (record : ActiveMigration) (hdr : TcpMigHeader)
    (buf : Buffer) : Prop where
  fits : record.defragmenter.Fits hdr
  image : ∀ bytes, record.defragmenter.payload hdr buf = some bytes → ∃ cb, TcpState.Image cb bytes ∧
    ∀ passive, inner.passive.lookup ⟨record.localIpv4Addr, record.selfUdpPort⟩ = some passive →
      cb.remote ∉ passive.ready.endpoints

/-- The messages that find what they rely on. -/
inductive Harmless (profile : Profile) (inner : Inner κ ρ) (hdr : TcpMigHeader) (buf : Buffer) :
    Prop where
  | heartbeat (stage : hdr.stage = .heartbeatResponse) (long : 4 ≤ buf.length)
  | prepares (stage : hdr.stage = .prepareMigration)
      (unrecorded : inner.tcpmig.activeMigrations.lookup hdr.client = none)
  /-- A preparing message that is taken for one that the switch returned. -/
  | returned {record : ActiveMigration} (stage : hdr.stage = .prepareMigration)
      (recorded : inner.tcpmig.activeMigrations.lookup hdr.client = some record)
      (known : (hdr.origin, hdr.client) ∈ inner.qds)
      (held : (hdr.origin, hdr.client) ∈ inner.established)
  | acked {record other : ActiveMigration} {qd : QDesc} {localAddr remote : SocketAddrV4}
      {connection : Connection κ ρ} (stage : hdr.stage = .prepareMigrationAck)
      (recorded : inner.tcpmig.activeMigrations.lookup hdr.client = some record)
      (preparing : record.lastSentStage = .prepareMigration) (described : record.qd = some qd)
      (leaves : inner.CanLeave profile qd localAddr remote connection other)
  | rejected {record : ActiveMigration} {connection : Connection κ ρ}
      (stage : hdr.stage = .rejected)
      (recorded : inner.tcpmig.activeMigrations.lookup hdr.client = some record)
      (preparing : record.lastSentStage = .prepareMigration)
      (held : inner.established.lookup (hdr.origin, hdr.client) = some connection)
      (uncounted : connection.cb.statsEnabled = false)
  | arrives {record : ActiveMigration} (stage : hdr.stage = .connectionState)
      (recorded : inner.tcpmig.activeMigrations.lookup hdr.client = some record)
      (prepared : record.lastSentStage = .prepareMigrationAck)
      (arrives : inner.CanArrive record hdr buf)
  /-- There is a record, but not for a message of this kind. -/
  | unexpected {record : ActiveMigration}
      (other : hdr.stage ≠ .heartbeatResponse ∧ hdr.stage ≠ .prepareMigration)
      (recorded : inner.tcpmig.activeMigrations.lookup hdr.client = some record)
      (preparing : record.lastSentStage = .prepareMigration →
        hdr.stage ≠ .prepareMigrationAck ∧ hdr.stage ≠ .rejected)
      (prepared : record.lastSentStage = .prepareMigrationAck → hdr.stage ≠ .connectionState)

end Inner

/-! ## Such messages return -/

variable {profile : Profile}

/-- A message without data is always sent. -/
theorem ActiveMigration.send_nil (active : ActiveMigration) (hdr : TcpMigHeader) :
    Returns (active.send profile hdr []) := by
  unfold send
  rw [if_neg (by simp)]
  exact TcpMigSegment.fragments_returns profile _ fun _ => Nat.zero_le _

namespace TcpMigPeer

variable {peer : TcpMigPeer} {hdr : TcpMigHeader} {buf : Buffer} {record : ActiveMigration}

/-- A migration can be started for a client without a record. -/
theorem initiateMigration_returns (profile : Profile) (peer : TcpMigPeer)
    (conn : SocketAddrV4 × SocketAddrV4) (qd : QDesc)
    (unrecorded : peer.activeMigrations.lookup conn.2 = none) :
    Returns (peer.initiateMigration profile conn qd) := by
  unfold initiateMigration
  rw [unrecorded]
  have started : Returns ((peer.newActive (ActiveMigration.firstDestPort peer.selfUdpPort) conn.1
      conn.2 (some qd)).initiateMigration profile) := by
    unfold ActiveMigration.initiateMigration
    rw [if_neg (by simp [newActive, ActiveMigration.new])]
    obtain ⟨sent, sends⟩ := ActiveMigration.send_nil _ _
    exact .bind sends (.ok _)
  obtain ⟨value, started⟩ := started
  exact .bind started (.ok _)

/-- A state is sent if the format can express it and its fragments can be counted. -/
theorem sendTcpState_returns {state : TcpState} (fits : state.cb.Fits)
    (recorded : peer.activeMigrations.lookup state.cb.remote = some record)
    (preparing : record.lastSentStage = .prepareMigration)
    (size : (state.withApplication (peer.registered state.cb.remote)).serializedSize /
      MAX_FRAGMENT_SIZE ≤ 2 ^ 16 - 1)
    (counted : profile.checks = true →
      (state.withApplication (peer.registered state.cb.remote)).serializedSize ≤
        MAX_FRAGMENT_SIZE * (2 ^ 16 - 1)) :
    Returns (peer.sendTcpState profile state) := by
  obtain ⟨bytes, -, serialized, -⟩ := TcpState.cb_travels profile
    (state.withApplication (peer.registered state.cb.remote)) (by
      rw [TcpState.withApplication_cb]
      exact fits)
  have length := TcpState.serialize_length serialized
  rw [← length] at size counted
  have sent (active : ActiveMigration) (hdr : TcpMigHeader) : Returns (active.send profile hdr bytes) := by
    unfold ActiveMigration.send
    rw [if_neg (Nat.not_lt.mpr size)]
    exact TcpMigSegment.fragments_returns profile _ counted
  unfold sendTcpState
  simp only [recorded]
  have exported : Returns (record.sendConnectionState profile
      (state.withApplication (peer.registered state.cb.remote))) := by
    unfold ActiveMigration.sendConnectionState
    rw [if_neg (not_not.mpr preparing)]
    obtain ⟨fragments, sends⟩ := sent _ _
    exact .bind serialized (.bind sends (.ok _))
  obtain ⟨value, exported⟩ := exported
  exact .bind exported (.ok _)

/-- A message that the record of its client refuses. -/
theorem receiveMessage_refused {active : ActiveMigration} {sent : List TcpMigSegment} {fail : Fail}
    (other : hdr.stage ≠ .heartbeatResponse ∧ hdr.stage ≠ .prepareMigration)
    (recorded : peer.activeMigrations.lookup hdr.client = some record)
    (processed : record.processPacket profile hdr buf = .ok (active, sent, .error fail)) :
    ∃ tcpmig, peer.receiveMessage profile hdr buf = .ok (tcpmig, .error fail) := by
  unfold receiveMessage dispatch
  rw [if_neg other.1, if_neg other.2, recorded]
  simp only [processed, bind, Except.bind]
  exact ⟨_, rfl⟩

/-- A message about which the record of its client reports something. -/
theorem receiveMessage_reported {active : ActiveMigration} {sent : List TcpMigSegment}
    {status : TcpmigReceiveStatus}
    (other : hdr.stage ≠ .heartbeatResponse ∧ hdr.stage ≠ .prepareMigration)
    (recorded : peer.activeMigrations.lookup hdr.client = some record)
    (processed : record.processPacket profile hdr buf = .ok (active, sent, .ok status)) :
    peer.receiveMessage profile hdr buf = { peer with
      activeMigrations := peer.activeMigrations.insert hdr.client active
      transmitted := peer.transmitted ++ sent }.conclude hdr.client status := by
  unfold receiveMessage dispatch
  rw [if_neg other.1, if_neg other.2, recorded]
  simp only [processed, bind, Except.bind]

/-- A state that was received is passed on; only its application is kept back. -/
theorem conclude_state (peer : TcpMigPeer) (client : SocketAddrV4) (state : TcpState) :
    ∃ tcpmig state', peer.conclude client (.stateReceived state) =
      .ok (tcpmig, .ok (.stateReceived state')) ∧ state'.cb = state.cb := by
  unfold conclude
  dsimp only
  split
  · exact ⟨_, _, rfl, rfl⟩
  · exact ⟨_, _, rfl, rfl⟩

end TcpMigPeer

namespace Inner

variable {inner : Inner κ ρ} {hdr : TcpMigHeader} {buf : Buffer} {record : ActiveMigration}

/-- A connection that can leave does. -/
theorem migrateOutAndSend_returns {qd : QDesc} {localAddr remote : SocketAddrV4}
    {connection : Connection κ ρ} (leaves : inner.CanLeave profile qd localAddr remote connection record) :
    Returns (inner.migrateOutAndSend profile qd) := by
  obtain ⟨qd', known⟩ := AList.lookup_isSome.mpr leaves.known |> Option.isSome_iff_exists.mp
  have exports := ControlBlock.ofControlBlock_ok.mpr ⟨leaves.exportable.1, rfl⟩
  have leaving : inner.migrateOutConnection qd = .ok ({ inner with
      sockets := inner.sockets.insert qd (.migratedOut localAddr remote)
      qds := inner.qds.erase (localAddr, remote)
      established := inner.established.erase (localAddr, remote)
      woken := inner.woken ++ connection.cb.waker.toList }, TcpState.new connection.cb.exported) := by
    simp only [migrateOutConnection, leaves.established, known, leaves.held, exports]
    rfl
  have fits : (TcpState.new connection.cb.exported).cb.Fits := leaves.exportable.2
  obtain ⟨tcpmig, sends⟩ :=
    sendTcpState_returns fits leaves.recorded leaves.preparing leaves.size leaves.counted
  exact .bind leaving (.bind sends (.ok _))

/-- The tables and the application do not change while the record is asked. -/
theorem CanLeave.of_becomes {qd : QDesc} {localAddr remote client : SocketAddrV4}
    {connection : Connection κ ρ} {active : ActiveMigration} {tcpmig : TcpMigPeer}
    {sent : List TcpMigSegment} (leaves : inner.CanLeave profile qd localAddr remote connection record)
    (becomes : inner.tcpmig.Becomes tcpmig client (some active) sent)
    (preparing : active.lastSentStage = .prepareMigration)
    (registered : tcpmig.applicationState = inner.tcpmig.applicationState) :
    ∃ record, ({ inner with tcpmig, migratedQd := some qd } : Inner κ ρ).CanLeave profile qd localAddr
      remote connection record := by
  have same : tcpmig.registered = inner.tcpmig.registered := by
    funext other
    rw [TcpMigPeer.registered, TcpMigPeer.registered, registered]
  have size := leaves.size
  have counted := leaves.counted
  rw [← same] at size counted
  by_cases own : connection.cb.remote = client
  · refine ⟨active, leaves.established, leaves.known, leaves.held, leaves.exportable, ?_, preparing, size,
      counted⟩
    rw [own]
    exact becomes.client
  · refine ⟨record, leaves.established, leaves.known, leaves.held, leaves.exportable, ?_,
      leaves.preparing, size, counted⟩
    exact (becomes.other own).trans leaves.recorded

/-- An acknowledged preparation of a connection that can leave. -/
theorem acked_returns {other : ActiveMigration} {qd : QDesc} {localAddr remote : SocketAddrV4}
    {connection : Connection κ ρ} [CongestionControl κ] [RtoCalculator ρ]
    (stage : hdr.stage = .prepareMigrationAck)
    (recorded : inner.tcpmig.activeMigrations.lookup hdr.client = some record)
    (preparing : record.lastSentStage = .prepareMigration) (described : record.qd = some qd)
    (leaves : inner.CanLeave profile qd localAddr remote connection other) :
    ∃ tcpmig status, inner.tcpmig.receiveMessage profile hdr buf = .ok (tcpmig, .ok status) ∧
      Returns (({ inner with tcpmig } : Inner κ ρ).act profile status) := by
  have processed : record.processPacket profile hdr buf =
      .ok ({ record with destUdpPort := hdr.sourceUdpPort }, [], .ok (.prepareMigrationAcked qd)) := by
    simp only [ActiveMigration.processPacket, preparing, ActiveMigration.processPreparing, stage,
      described]
  refine ⟨_, _, receiveMessage_reported (by simp [stage]) recorded processed, ?_⟩
  obtain ⟨record', leaves'⟩ := leaves.of_becomes
    (.of_insert inner.tcpmig hdr.client { record with destUdpPort := hdr.sourceUdpPort } []
      inner.tcpmig.applicationState) preparing rfl
  obtain ⟨after, migrated⟩ := migrateOutAndSend_returns leaves'
  exact .bind migrated (.ok _)

variable [CongestionControl κ] [RtoCalculator ρ]

/-- The message that the switch is taken to have returned starts a new migration. -/
theorem returned_returns (stage : hdr.stage = .prepareMigration)
    (recorded : inner.tcpmig.activeMigrations.lookup hdr.client = some record)
    (known : (hdr.origin, hdr.client) ∈ inner.qds)
    (held : (hdr.origin, hdr.client) ∈ inner.established) :
    ∃ tcpmig status, inner.tcpmig.receiveMessage profile hdr buf = .ok (tcpmig, .ok status) ∧
      Returns (({ inner with tcpmig } : Inner κ ρ).act profile status) := by
  obtain ⟨qd, known⟩ := Option.isSome_iff_exists.mp (AList.lookup_isSome.mpr known)
  obtain ⟨connection, held⟩ := Option.isSome_iff_exists.mp (AList.lookup_isSome.mpr held)
  refine ⟨{ inner.tcpmig with activeMigrations := inner.tcpmig.activeMigrations.erase hdr.client },
    .returnedBySwitch hdr.origin hdr.client, ?_, ?_⟩
  · unfold receiveMessage
    rw [if_neg (by simp [stage]), if_pos stage, recorded]
  · have unrecorded : (inner.tcpmig.activeMigrations.erase hdr.client).lookup hdr.client = none :=
      AList.lookup_erase _ _
    obtain ⟨tcpmig, initiated⟩ := TcpMigPeer.initiateMigration_returns profile
      { inner.tcpmig with activeMigrations := inner.tcpmig.activeMigrations.erase hdr.client }
      (hdr.origin, hdr.client) qd unrecorded
    have started : Returns (initiateMigrationByAddr profile { inner with tcpmig := { inner.tcpmig with
        activeMigrations := inner.tcpmig.activeMigrations.erase hdr.client } }
        (hdr.origin, hdr.client)) := by
      simp only [initiateMigrationByAddr, known, initiateMigration, held]
      exact .bind initiated (.ok _)
    obtain ⟨after, started⟩ := started
    exact .bind started (.ok _)

/-- A state is imported unless a connection of its client waits at the same address. -/
theorem migrateInConnection_returns {state : TcpState}
    (free : ∀ passive, inner.passive.lookup state.cb.localAddr = some passive →
      state.cb.remote ∉ passive.ready.endpoints) :
    Returns (inner.migrateInConnection state) := by
  unfold migrateInConnection
  dsimp only
  split
  · exact .ok _
  · rename_i passive found
    have pushed : Returns (passive.ready.pushOk (.fromState inner.importer state.cb)) := by
      unfold ReadySockets.pushOk
      rw [if_neg]
      · exact .ok _
      · exact free passive found
    obtain ⟨ready, pushed⟩ := pushed
    exact .bind (bind_ok.mpr ⟨ready, pushed, rfl⟩) (.ok _)

/-- A fragment that can arrive. -/
theorem arrives_returns (stage : hdr.stage = .connectionState)
    (recorded : inner.tcpmig.activeMigrations.lookup hdr.client = some record)
    (prepared : record.lastSentStage = .prepareMigrationAck) (covers : record.defragmenter.Covers)
    (arrives : inner.CanArrive record hdr buf) :
    ∃ tcpmig status, inner.tcpmig.receiveMessage profile hdr buf = .ok (tcpmig, .ok status) ∧
      Returns (({ inner with tcpmig } : Inner κ ρ).act profile status) := by
  have something : record.defragmenter.payload hdr buf ≠ some [] := by
    intro empty
    obtain ⟨cb, ⟨-, written, flag, rest, -, bytes⟩, -⟩ := arrives.image [] empty
    simp at bytes
  have gathered := TcpMigDefragmenter.defragment_eq profile covers arrives.fits something
  cases complete : record.defragmenter.payload hdr buf with
  | none =>
    rw [complete] at gathered
    have processed : record.processPacket profile hdr buf =
        .ok ({ record with defragmenter := record.defragmenter.advanced hdr buf }, [], .ok .ok) := by
      simp only [ActiveMigration.processPacket, prepared, ActiveMigration.processPrepared, stage]
      exact bind_ok.mpr ⟨_, gathered, rfl⟩
    exact ⟨_, _, receiveMessage_reported (by simp [stage]) recorded processed, .ok _⟩
  | some bytes =>
    rw [complete] at gathered
    obtain ⟨cb, image, free⟩ := arrives.image bytes complete
    obtain ⟨appState, decoded⟩ := image.deserialize profile
    obtain ⟨sent, answered⟩ := ActiveMigration.send_nil
      { record with
        defragmenter := record.defragmenter.advanced hdr buf, lastSentStage := .connectionStateAck }
      (ActiveMigration.nextHeader { hdr with flagNextFragment := false, fragmentOffset := 0 }
        .connectionStateAck)
    have processed : record.processPacket profile hdr buf = .ok (
        { record with
          defragmenter := record.defragmenter.advanced hdr buf
          lastSentStage := .connectionStateAck },
        sent,
        .ok (.stateReceived (TcpState.setLocal ⟨cb.untimed, appState⟩
          ⟨record.localIpv4Addr, record.selfUdpPort⟩))) := by
      simp only [ActiveMigration.processPacket, prepared, ActiveMigration.processPrepared, stage]
      refine bind_ok.mpr ⟨_, gathered, ?_⟩
      exact bind_ok.mpr ⟨_, decoded, bind_ok.mpr ⟨_, answered, rfl⟩⟩
    obtain ⟨tcpmig, state, concluded, same⟩ := conclude_state { inner.tcpmig with
        activeMigrations := inner.tcpmig.activeMigrations.insert hdr.client { record with
          defragmenter := record.defragmenter.advanced hdr buf, lastSentStage := .connectionStateAck }
        transmitted := inner.tcpmig.transmitted ++ sent } hdr.client
      (TcpState.setLocal ⟨cb.untimed, appState⟩ ⟨record.localIpv4Addr, record.selfUdpPort⟩)
    refine ⟨tcpmig, .stateReceived state,
      (receiveMessage_reported (by simp [stage]) recorded processed).trans concluded, ?_⟩
    refine migrateInConnection_returns ?_
    rw [same]
    exact free

omit [CongestionControl κ] [RtoCalculator ρ] in
/-- A record answers a message it does not expect with an error, or takes note of it. -/
theorem unexpected_processed (sound : record.Sound) (other : hdr.stage ≠ .prepareMigration)
    (preparing : record.lastSentStage = .prepareMigration →
      hdr.stage ≠ .prepareMigrationAck ∧ hdr.stage ≠ .rejected)
    (prepared : record.lastSentStage = .prepareMigrationAck → hdr.stage ≠ .connectionState) :
    (∃ active sent fail, record.processPacket profile hdr buf = .ok (active, sent, .error fail)) ∨
    ∃ active sent, record.processPacket profile hdr buf = .ok (active, sent, .ok .ok) ∨
      record.processPacket profile hdr buf = .ok (active, sent, .ok .migrationCompleted) := by
  unfold ActiveMigration.processPacket
  split
  · unfold ActiveMigration.processFresh
    split
    · rename_i stage
      exact absurd stage other
    · exact .inl ⟨_, _, _, rfl⟩
  · rename_i last
    unfold ActiveMigration.processPreparing
    split
    · rename_i stage
      exact absurd stage (preparing last).1
    · rename_i stage
      exact absurd stage (preparing last).2
    · exact .inl ⟨_, _, _, rfl⟩
  · rename_i last
    unfold ActiveMigration.processPrepared
    split
    · rename_i stage
      exact absurd stage (prepared last)
    · exact .inl ⟨_, _, _, rfl⟩
  · unfold ActiveMigration.processExported
    split
    · exact .inr ⟨_, _, .inr rfl⟩
    · exact .inl ⟨_, _, _, rfl⟩
  · exact .inr ⟨_, _, .inl rfl⟩
  · rename_i last
    exact absurd last sound.stage.1
  · rename_i last
    exact absurd last sound.stage.2.1
  · rename_i last
    exact absurd last sound.stage.2.2

omit [CongestionControl κ] [RtoCalculator ρ] in
/-- A client without a record gets one, and an answer. -/
theorem prepares_returns (stage : hdr.stage = .prepareMigration)
    (unrecorded : inner.tcpmig.activeMigrations.lookup hdr.client = none) :
    ∃ tcpmig, inner.tcpmig.receiveMessage profile hdr buf = .ok (tcpmig, .ok .ok) := by
  obtain ⟨sent, answered⟩ := ActiveMigration.send_nil (inner.tcpmig.prepared hdr)
    (preparedHeader hdr)
  unfold receiveMessage
  rw [if_neg (by simp [stage]), if_pos stage, unrecorded]
  dsimp only
  unfold dispatch
  dsimp only
  rw [AList.lookup_insert]
  have processed : (inner.tcpmig.newActive hdr.origin.port hdr.origin hdr.client none).processPacket
      profile hdr buf = .ok (inner.tcpmig.prepared hdr, sent, .ok .ok) := by
    change ActiveMigration.processFresh profile _ hdr = _
    unfold ActiveMigration.processFresh
    rw [stage]
    exact bind_ok.mpr ⟨sent, answered, rfl⟩
  exact ⟨_, bind_ok.mpr ⟨_, processed, rfl⟩⟩

/-- The origin learns that the target has rejected the migration. -/
theorem rejected_returns {connection : Connection κ ρ}
    (stage : hdr.stage = .rejected)
    (recorded : inner.tcpmig.activeMigrations.lookup hdr.client = some record)
    (preparing : record.lastSentStage = .prepareMigration)
    (held : inner.established.lookup (hdr.origin, hdr.client) = some connection)
    (uncounted : connection.cb.statsEnabled = false) :
    ∃ tcpmig status, inner.tcpmig.receiveMessage profile hdr buf = .ok (tcpmig, .ok status) ∧
      Returns (({ inner with tcpmig } : Inner κ ρ).act profile status) := by
  have processed : record.processPacket profile hdr buf =
      .ok (record, [], .ok (.rejected hdr.origin hdr.client)) := by
    simp only [ActiveMigration.processPacket, preparing, ActiveMigration.processPreparing, stage]
  refine ⟨_, _, receiveMessage_reported (by simp [stage]) recorded processed, ?_⟩
  simp only [act, held, ControlBlock.enableStats, uncounted]
  exact .ok _

/-- Migration messages do not stop a server. In every state that a server can reach,
`receive_tcpmig` returns on a packet that does not parse and on a harmless message.

Proof: `Sound` is kept by every step of the server and says what the records of the
active migrations contain. For each kind of harmless message one lemma says that the
peer processes it, and that the server can act on the status it reports. -/
theorem harmless_messages_return (profile : Profile) (ephemeralPorts : EphemeralPorts)
    (localLinkAddr : MacAddress) (localIpv4Addr : Ipv4Addr) (tcpConfig : TcpConfig)
    {past : List (Transition κ ρ)} {inner : Inner κ ρ}
    (run : Run profile (new ephemeralPorts localLinkAddr localIpv4Addr tcpConfig) past inner)
    (ipHdr : Ipv4Header) (packet : Buffer)
    (harmless : ∀ hdr buf, TcpMigHeader.parse ipHdr packet = .ok (hdr, buf) →
      inner.Harmless profile hdr buf) :
    ∃ after result, inner.receiveTcpmig profile ipHdr packet = .ok (after, result) := by
  have sound : inner.tcpmig.Sound := by
    refine run_sound ?_ run
    intro client active found
    cases found
  suffices returns : Returns (inner.receiveTcpmig profile ipHdr packet) by
    obtain ⟨⟨after, result⟩, returned⟩ := returns
    exact ⟨after, result, returned⟩
  cases parsed : TcpMigHeader.parse ipHdr packet with
  | error fail =>
    have received : inner.tcpmig.receive profile ipHdr packet = .ok (inner.tcpmig, .error fail) := by
      simp only [TcpMigPeer.receive, parsed]
    exact .bind received (.ok _)
  | ok message =>
    obtain ⟨hdr, buf⟩ := message
    have routed : inner.tcpmig.receive profile ipHdr packet =
        inner.tcpmig.receiveMessage profile hdr buf := by
      simp only [TcpMigPeer.receive, parsed]
    have concludes {tcpmig : TcpMigPeer} {status : TcpmigReceiveStatus}
        (received : inner.tcpmig.receiveMessage profile hdr buf = .ok (tcpmig, .ok status))
        (acts : Returns (({ inner with tcpmig } : Inner κ ρ).act profile status)) :
        Returns (inner.receiveTcpmig profile ipHdr packet) :=
      .bind (routed.trans received) acts
    cases harmless hdr buf parsed with
    | heartbeat stage long =>
      have received : inner.tcpmig.receiveMessage profile hdr buf =
          .ok (inner.tcpmig, .ok (.heartbeatResponse (Wire.ofBigEndian (buf.take 4)))) := by
        simp only [receiveMessage, if_pos stage, if_neg (Nat.not_lt.mpr long)]
      exact concludes received (.ok _)
    | prepares stage unrecorded =>
      obtain ⟨tcpmig, received⟩ := prepares_returns stage unrecorded
      exact concludes received (.ok _)
    | returned stage recorded known held =>
      obtain ⟨tcpmig, status, received, acts⟩ := returned_returns stage recorded known held
      exact concludes received acts
    | acked stage recorded preparing described leaves =>
      obtain ⟨tcpmig, status, received, acts⟩ := acked_returns stage recorded preparing described leaves
      exact concludes received acts
    | rejected stage recorded preparing held uncounted =>
      obtain ⟨tcpmig, status, received, acts⟩ :=
        rejected_returns stage recorded preparing held uncounted
      exact concludes received acts
    | arrives stage recorded prepared arrives =>
      obtain ⟨tcpmig, status, received, acts⟩ :=
        arrives_returns stage recorded prepared (sound _ _ recorded).covers arrives
      exact concludes received acts
    | unexpected other recorded preparing prepared =>
      obtain ⟨active, sent, fail, processed⟩ | ⟨active, sent, processed | processed⟩ :=
        unexpected_processed (sound _ _ recorded) other.2 preparing prepared
      · obtain ⟨tcpmig, received⟩ := receiveMessage_refused other recorded processed
        exact .bind (routed.trans received) (.ok _)
      · exact concludes (receiveMessage_reported other recorded processed) (.ok _)
      · exact concludes (receiveMessage_reported other recorded processed) (.ok _)

/-- The state of a connection arrives at a server that has answered the preparing message. -/
theorem harmless_state_returns :
    ∃ past inner after result,
      (sample 0x0a000001#32).execute .dev (listenOperations 1 80 ++
        [.fromOrigin .prepareMigration []]) = .ok (past, inner) ∧
      inner.receiveTcpmig .dev ⟨0x0a000003#32, 0x0a000001#32⟩
        (TcpMigSegment.sample .connectionState TcpState.sampleBytes).datagram = .ok (after, result) := by
  have evaluated : ((sample 0x0a000001#32).execute .dev (listenOperations 1 80 ++
      [.fromOrigin .prepareMigration []])).toOption.any (fun (_, inner) =>
        (inner.tcpmig.activeMigrations.lookup .sampleClient).any fun record =>
          record.lastSentStage = .prepareMigrationAck && record.defragmenter = .new &&
          (inner.passive.lookup ⟨record.localIpv4Addr, record.selfUdpPort⟩).all fun passive =>
            passive.ready.endpoints = []) = true := by
    decide +kernel
  obtain ⟨⟨past, inner⟩, executed, evaluated⟩ := any_ok evaluated
  obtain ⟨record, recorded, evaluated⟩ := (Option.any_eq_true _ _).mp evaluated
  simp only [Bool.and_eq_true, decide_eq_true_eq] at evaluated
  obtain ⟨⟨prepared, fresh⟩, free⟩ := evaluated
  obtain ⟨bytes, -, serialized, -⟩ := TcpState.cb_travels .dev (TcpState.new .sample)
    ⟨⟨by decide, by decide⟩, ⟨by decide, by decide⟩, ⟨by decide, by decide⟩, ⟨by decide, by decide⟩⟩
  have same : TcpState.sampleBytes = bytes := by
    rw [TcpState.sampleBytes, serialized]
    rfl
  have parsed : TcpMigHeader.parse ⟨0x0a000003#32, 0x0a000001#32⟩
      (TcpMigSegment.sample .connectionState TcpState.sampleBytes).datagram =
      .ok (.new ⟨0x0a000003#32, 80⟩ .sampleClient 0 .connectionState 80 80, TcpState.sampleBytes) := by
    decide +kernel
  refine ⟨past, inner, ?_⟩
  obtain ⟨after, result, returned⟩ := harmless_messages_return .dev ⟨[50000, 50001]⟩ 3#48
    0x0a000001#32 .sample (Runs.run_of_execute .nil executed) ⟨0x0a000003#32, 0x0a000001#32⟩
    (TcpMigSegment.sample .connectionState TcpState.sampleBytes).datagram (by
      intro hdr buf other
      obtain ⟨rfl, rfl⟩ := Prod.mk.inj (Except.ok.inj (parsed.symm.trans other))
      refine .arrives rfl recorded prepared ⟨?_, ?_⟩
      · intro _ later
        exact absurd rfl later
      · intro received whole
        rw [TcpMigDefragmenter.payload, if_pos ⟨rfl, rfl⟩, same] at whole
        obtain rfl := Option.some.inj whole
        refine ⟨.sample, TcpState.image_of_serialized serialized, ?_⟩
        intro passive found
        rw [found] at free
        simp only [Option.all_some, decide_eq_true_eq] at free
        rw [free]
        exact List.not_mem_nil)
  exact ⟨after, result, executed, returned⟩

/-- Once the connection has been accepted its record is gone, and a second copy of the
state stops the server. -/
theorem late_state_panics :
    ∃ past inner,
      (sample 0x0a000001#32).execute .release (listenOperations 1 80 ++
        [.fromOrigin .prepareMigration [], .fromOrigin .connectionState TcpState.sampleBytes,
          .accept (.sample 0) 1 2 0]) = .ok (past, inner) ∧
      (inner.receiveTcpmig .release ⟨0x0a000003#32, 0x0a000001#32⟩
        (TcpMigSegment.sample .connectionState TcpState.sampleBytes).datagram).map (fun _ => ()) =
        .error .noSuchActiveMigration := by
  have evaluated : ((sample 0x0a000001#32).execute .release (listenOperations 1 80 ++
      [.fromOrigin .prepareMigration [], .fromOrigin .connectionState TcpState.sampleBytes,
        .accept (.sample 0) 1 2 0])).toOption.any (fun (_, inner) =>
      (inner.receiveTcpmig .release ⟨0x0a000003#32, 0x0a000001#32⟩
        (TcpMigSegment.sample .connectionState TcpState.sampleBytes).datagram).map (fun _ => ()) =
        .error .noSuchActiveMigration) = true := by
    decide +kernel
  obtain ⟨⟨past, inner⟩, executed, evaluated⟩ := any_ok evaluated
  exact ⟨past, inner, executed, of_decide_eq_true evaluated⟩

end Inner

end Capybara
