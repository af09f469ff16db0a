import Capybara.Tcp.Server

/-!
# What an operation does to the tables of a server

Everything that is proved about servers follows from what one operation can do to
the tables. That is said here once: `Effect` lists the outcomes of each operation,
with what was looked up and what was inserted, and `step_effect` shows that there
are no others. Outcomes that change no table are one case.
-/

namespace Capybara

open Tables

variable {κ ρ : Type} [CongestionControl κ] [RtoCalculator ρ]

/-- The tables of a server, with what it contributes to rebuilt connections. -/
structure ServerTables (κ ρ : Type) where
  importer : Importer
  sockets : Table QDesc Socket
  qds : Table Endpoints QDesc
  passive : Table SocketAddrV4 (PassiveSocket κ ρ)
  connecting : Table Endpoints (ActiveOpenSocket κ ρ)
  established : Table Endpoints (Connection κ ρ)
  tcpmig : TcpMigPeer

/-- The tables of a server. -/
def Inner.tables (inner : Inner κ ρ) : ServerTables κ ρ where
  importer := inner.importer
  sockets := inner.sockets
  qds := inner.qds
  passive := inner.passive
  connecting := inner.connecting
  established := inner.established
  tcpmig := inner.tcpmig

namespace ServerTables

/-- A migration is started for a connection that is established. -/
def Initiates (profile : Profile) (conn : Endpoints) (qd : QDesc)
    (before after : ServerTables κ ρ) : Prop :=
  ∃ connection tcpmig, before.established.lookup conn = some connection ∧
    before.tcpmig.initiateMigration profile conn qd = .ok tcpmig ∧
    after = { before with
      established := before.established.insert conn
        { connection with cb := connection.cb.disableStats }
      tcpmig }

/-- The connection of a descriptor leaves the server. -/
def Exports (profile : Profile) (qd : QDesc) (before after : ServerTables κ ρ) : Prop :=
  ∃ localAddr remote connection state tcpmig,
    before.sockets.lookup qd = some (.established localAddr remote) ∧
    (before.qds.lookup (localAddr, remote)).isSome ∧
    before.established.lookup (localAddr, remote) = some connection ∧
    ControlBlockState.ofControlBlock connection.cb = .ok state ∧
    before.tcpmig.sendTcpState profile (TcpState.new state) = .ok tcpmig ∧
    after = { before with
      sockets := before.sockets.insert qd (.migratedOut localAddr remote)
      qds := before.qds.erase (localAddr, remote)
      established := before.established.erase (localAddr, remote)
      tcpmig }

/-- A connection is rebuilt from a state and waits to be accepted, if someone listens. -/
def Imports (state : TcpState) (before after : ServerTables κ ρ) : Prop :=
  (before.passive.lookup state.cb.localAddr = none ∧ after = before) ∨
  ∃ passive ready, before.passive.lookup state.cb.localAddr = some passive ∧
    passive.ready.pushOk (.fromState before.importer state.cb) = .ok ready ∧
    after = { before with
      passive := before.passive.insert state.cb.localAddr { passive with ready } }

/-- What follows from the report of the migration peer. -/
inductive Acts (profile : Profile) (before : ServerTables κ ρ) :
    Except Fail TcpmigReceiveStatus → ServerTables κ ρ → Prop where
  | failed (fail : Fail) : Acts profile before (.error fail) before
  | settled : Acts profile before (.ok .ok) before
  | completed : Acts profile before (.ok .migrationCompleted) before
  | sentReject : Acts profile before (.ok .sentReject) before
  | heartbeat (sum : Nat) : Acts profile before (.ok (.heartbeatResponse sum)) before
  | rejected {localAddr remote : SocketAddrV4} {connection : Connection κ ρ}
      (held : before.established.lookup (localAddr, remote) = some connection)
      (uncounted : connection.cb.statsEnabled = false) :
      Acts profile before (.ok (.rejected localAddr remote)) { before with
        established := before.established.insert (localAddr, remote)
          { connection with cb := { connection.cb with statsEnabled := true } } }
  | returned {localAddr remote : SocketAddrV4} {qd : QDesc} {after : ServerTables κ ρ}
      (known : before.qds.lookup (localAddr, remote) = some qd)
      (initiates : Initiates profile (localAddr, remote) qd before after) :
      Acts profile before (.ok (.returnedBySwitch localAddr remote)) after
  | acked {qd : QDesc} {after : ServerTables κ ρ} (exports : Exports profile qd before after) :
      Acts profile before (.ok (.prepareMigrationAcked qd)) after
  | received {state : TcpState} {after : ServerTables κ ρ} (imports : Imports state before after) :
      Acts profile before (.ok (.stateReceived state)) after

/-- The packets that the record of a client has kept. -/
def kept (tables : ServerTables κ ρ) (remote : SocketAddrV4) : List (TcpHeader × Buffer) :=
  ((tables.tcpmig.activeMigrations.lookup remote).map ActiveMigration.recvQueue).getD []

/-- An accept takes the connection at the front of a queue. -/
def Accepts (profile : Profile) (env : Env) (newQd : QDesc) (localAddr : SocketAddrV4)
    (taken : ControlBlock κ ρ) (before after : ServerTables κ ρ) : Prop :=
  ∃ passive ready cb,
    before.passive.lookup localAddr = some passive ∧
    passive.ready.ready = .ok taken :: ready ∧
    Inner.receiveAll profile env (before.kept taken.remote) taken = .ok cb ∧
    (∀ l r, before.sockets.lookup newQd ≠ some (.established l r)) ∧
    before.qds.lookup (localAddr, taken.remote) = none ∧
    before.established.lookup (localAddr, taken.remote) = none ∧
    after = { before with
      sockets := before.sockets.insert newQd (.established localAddr taken.remote)
      qds := before.qds.insert (localAddr, taken.remote) newQd
      passive := before.passive.insert localAddr { passive with ready := { passive.ready with
        ready, endpoints := passive.ready.endpoints.erase taken.remote } }
      established := before.established.insert (localAddr, taken.remote)
        ⟨{ cb with statsEnabled := true }, .top⟩
      tcpmig := (before.tcpmig.closeActiveMigration taken.remote).1 }

end ServerTables

open ServerTables

/-- What an operation can do to the tables. -/
inductive Effect (profile : Profile) (before : ServerTables κ ρ) :
    Operation → ServerTables κ ρ → Prop where
  /-- Nothing changes. -/
  | idle (operation : Operation) : Effect profile before operation before
  | opens {qd : QDesc} (free : before.sockets.lookup qd = none) :
      Effect profile before (.socket qd) { before with
        sockets := before.sockets.insert qd (.inactive none) }
  | binds {qd : QDesc} {addr : SocketAddrV4} (port : UInt16)
      (open_ : before.sockets.lookup qd = some (.inactive none)) :
      Effect profile before (.bind qd addr) { before with
        sockets := before.sockets.insert qd (.inactive (some { addr with port }))
        tcpmig := before.tcpmig.setPort port }
  /-- A `bind` that fails has set the migration port. -/
  | setsPort {qd : QDesc} {addr : SocketAddrV4} (port : UInt16) :
      Effect profile before (.bind qd addr) { before with tcpmig := before.tcpmig.setPort port }
  | listens {qd : QDesc} {backlog : Nat} {localAddr : SocketAddrV4} {passive : PassiveSocket κ ρ}
      (bound : before.sockets.lookup qd = some (.inactive (some localAddr)))
      (free : before.passive.lookup localAddr = none) (empty : passive.ready = .new)
      (at_ : passive.localAddr = localAddr) :
      Effect profile before (.listen qd backlog) { before with
        sockets := before.sockets.insert qd (.listening localAddr)
        passive := before.passive.insert localAddr passive }
  | connects {digest : UInt32} {qd : QDesc} {bound : Option SocketAddrV4}
      {localAddr remote : SocketAddrV4} {socket : ActiveOpenSocket κ ρ}
      (inactive : before.sockets.lookup qd = some (.inactive bound)) :
      Effect profile before (.connect digest qd remote) { before with
        sockets := before.sockets.insert qd (.connecting localAddr remote)
        connecting := before.connecting.insert (localAddr, remote) socket }
  /-- An opening proceeds, or is given up. -/
  | awaits {operation : Operation} {connecting : Table Endpoints (ActiveOpenSocket κ ρ)}
      (fewer : ∀ key, before.connecting.lookup key = none → connecting.lookup key = none) :
      Effect profile before operation { before with connecting }
  | connected {qd : QDesc} {waker : Waker} {localAddr remote : SocketAddrV4}
      {socket : ActiveOpenSocket κ ρ} {cb : ControlBlock κ ρ}
      (awaited : before.sockets.lookup qd = some (.connecting localAddr remote))
      (found : before.connecting.lookup (localAddr, remote) = some socket)
      (result : socket.result = some (.ok cb))
      (free : before.established.lookup (localAddr, remote) = none) :
      Effect profile before (.connectFinished qd waker) { before with
        connecting := before.connecting.erase (localAddr, remote)
        established := before.established.insert (localAddr, remote) ⟨cb, .top⟩
        sockets := before.sockets.insert qd (.established localAddr remote) }
  /-- A socket without a connection is removed, or there was none. -/
  | drops {env : Env} {qd : QDesc}
      (apart : ∀ l r, before.sockets.lookup qd ≠ some (.established l r)) :
      Effect profile before (.close env qd) { before with sockets := before.sockets.erase qd }
  /-- A socket that is established is removed although nothing is behind it. -/
  | dangles {env : Env} {qd : QDesc} {localAddr remote : SocketAddrV4}
      (established : before.sockets.lookup qd = some (.established localAddr remote))
      (missing : before.established.lookup (localAddr, remote) = none) :
      Effect profile before (.close env qd) { before with sockets := before.sockets.erase qd }
  | closes {env : Env} {qd : QDesc} {localAddr remote : SocketAddrV4}
      {connection : Connection κ ρ} {cb : ControlBlock κ ρ}
      (established : before.sockets.lookup qd = some (.established localAddr remote))
      (held : before.established.lookup (localAddr, remote) = some connection)
      (closed : connection.cb.close profile env = .ok cb) :
      Effect profile before (.close env qd) { before with
        sockets := before.sockets.erase qd
        established := before.established.insert (localAddr, remote) { connection with cb } }
  /-- An established connection takes a step of its own. -/
  | moves {operation : Operation} {key : Endpoints} {connection connection' : Connection κ ρ}
      {action : Action} (held : before.established.lookup key = some connection)
      (stepped : connection.step profile action = .ok connection') :
      Effect profile before operation { before with
        established := before.established.insert key connection' }
  /-- Nothing was ready, or what was ready is an error. -/
  | polls {env : Env} {qd newQd : QDesc} {waker : Waker} {localAddr : SocketAddrV4}
      {passive : PassiveSocket κ ρ} {ready : ReadySockets κ ρ}
      (found : before.passive.lookup localAddr = some passive)
      (same : ready.endpoints = passive.ready.endpoints)
      (fewer : passive.ready.ready = ready.ready ∨ ∃ fail, passive.ready.ready = .error fail :: ready.ready) :
      Effect profile before (.accept env qd newQd waker) { before with
        passive := before.passive.insert localAddr { passive with ready } }
  | accepts {env : Env} {qd newQd : QDesc} {waker : Waker} {localAddr : SocketAddrV4}
      {taken : ControlBlock κ ρ} {after : ServerTables κ ρ}
      (listening : before.sockets.lookup qd = some (.listening localAddr))
      (accepted : Accepts profile env newQd localAddr taken before after) :
      Effect profile before (.accept env qd newQd waker) after
  /-- A segment is kept for a connection that is on its way. -/
  | buffers {env : Env} {digest : UInt32} {ipHdr : Ipv4Header} {tcpHdr : TcpHeader} {data : Buffer}
      {tcpmig : TcpMigPeer}
      (buffered : before.tcpmig.tryBufferPacket ⟨ipHdr.srcAddr, tcpHdr.srcPort⟩ tcpHdr data =
        some tcpmig) :
      Effect profile before (.segment env digest ipHdr tcpHdr data) { before with tcpmig }
  /-- A handshake proceeds without completing. -/
  | shakes {env : Env} {digest : UInt32} {ipHdr : Ipv4Header} {tcpHdr : TcpHeader} {data : Buffer}
      {localAddr : SocketAddrV4} {passive passive' : PassiveSocket κ ρ}
      (found : before.passive.lookup localAddr = some passive)
      (ready : passive'.ready = passive.ready) (at_ : passive'.localAddr = passive.localAddr) :
      Effect profile before (.segment env digest ipHdr tcpHdr data) { before with
        passive := before.passive.insert localAddr passive' }
  /-- A handshake is complete. -/
  | completes {env : Env} {digest : UInt32} {ipHdr : Ipv4Header} {tcpHdr : TcpHeader}
      {data : Buffer} {passive passive' : PassiveSocket κ ρ} {inflight : InflightAccept}
      {cb : ControlBlock κ ρ}
      (found : before.passive.lookup ⟨ipHdr.destAddr, tcpHdr.dstPort⟩ = some passive)
      (unclaimed : before.established.lookup
        (⟨ipHdr.destAddr, tcpHdr.dstPort⟩, ⟨ipHdr.srcAddr, tcpHdr.srcPort⟩) = none)
      (unrecorded : before.tcpmig.activeMigrations.lookup ⟨ipHdr.srcAddr, tcpHdr.srcPort⟩ = none)
      (opened : passive.opened ⟨ipHdr.srcAddr, tcpHdr.srcPort⟩ inflight = .ok cb)
      (pushed : passive.ready.pushOk cb = .ok passive'.ready)
      (at_ : passive'.localAddr = passive.localAddr) :
      Effect profile before (.segment env digest ipHdr tcpHdr data) { before with
        passive := before.passive.insert ⟨ipHdr.destAddr, tcpHdr.dstPort⟩ passive' }
  | migrates {ipHdr : Ipv4Header} {buf : Buffer} {tcpmig : TcpMigPeer}
      {status : Except Fail TcpmigReceiveStatus} {after : ServerTables κ ρ}
      (received : before.tcpmig.receive profile ipHdr buf = .ok (tcpmig, status))
      (acts : Acts profile { before with tcpmig } status after) :
      Effect profile before (.message ipHdr buf) after
  | initiatesByAddr {conn : Endpoints} {qd : QDesc} {after : ServerTables κ ρ}
      (known : before.qds.lookup conn = some qd)
      (initiates : Initiates profile conn qd before after) :
      Effect profile before (.migrateByAddr conn) after
  | initiatesByQd {qd : QDesc} {localAddr remote : SocketAddrV4} {after : ServerTables κ ρ}
      (established : before.sockets.lookup qd = some (.established localAddr remote))
      (initiates : Initiates profile (localAddr, remote) qd before after) :
      Effect profile before (.migrateByQd qd) after
  | exports {qd : QDesc} {after : ServerTables κ ρ} (exported : Exports profile qd before after) :
      Effect profile before (.migrateOut qd) after
  | registers {operation : Operation} {applicationState : Table SocketAddrV4 MigratedApplicationState} :
      Effect profile before operation { before with
        tcpmig := { before.tcpmig with applicationState } }

/-! ## The migration peer alone -/

/-- What an operation does to the migration peer, one call at a time. -/
inductive PeerEffect (profile : Profile) (before : ServerTables κ ρ) :
    Operation → TcpMigPeer → TcpMigPeer → Prop where
  | setsPort {qd : QDesc} {addr : SocketAddrV4} (peer : TcpMigPeer) (port : UInt16) :
      PeerEffect profile before (.bind qd addr) peer (peer.setPort port)
  | registers {operation : Operation} (peer : TcpMigPeer)
      (applicationState : Table SocketAddrV4 MigratedApplicationState) :
      PeerEffect profile before operation peer { peer with applicationState }
  | receives {ipHdr : Ipv4Header} {buf : Buffer} {peer peer' : TcpMigPeer}
      {status : Except Fail TcpmigReceiveStatus}
      (received : peer.receive profile ipHdr buf = .ok (peer', status)) :
      PeerEffect profile before (.message ipHdr buf) peer peer'
  | initiates {operation : Operation} {conn : Endpoints} {qd : QDesc} {peer peer' : TcpMigPeer}
      (initiated : peer.initiateMigration profile conn qd = .ok peer') :
      PeerEffect profile before operation peer peer'
  | sends {operation : Operation} {state : TcpState} {peer peer' : TcpMigPeer}
      (sent : peer.sendTcpState profile state = .ok peer') :
      PeerEffect profile before operation peer peer'
  | buffers {env : Env} {digest : UInt32} {ipHdr : Ipv4Header} {tcpHdr : TcpHeader} {data : Buffer}
      {peer peer' : TcpMigPeer}
      (buffered : peer.tryBufferPacket ⟨ipHdr.srcAddr, tcpHdr.srcPort⟩ tcpHdr data = some peer') :
      PeerEffect profile before (.segment env digest ipHdr tcpHdr data) peer peer'
  | closes {env : Env} {qd newQd : QDesc} {waker : Waker} {localAddr : SocketAddrV4}
      {taken : ControlBlock κ ρ} {passive : PassiveSocket κ ρ}
      {ready : List (Except Fail (ControlBlock κ ρ))} (peer : TcpMigPeer)
      (listening : before.sockets.lookup qd = some (.listening localAddr))
      (found : before.passive.lookup localAddr = some passive)
      (front : passive.ready.ready = .ok taken :: ready) :
      PeerEffect profile before (.accept env qd newQd waker) peer
        (peer.closeActiveMigration taken.remote).1

/-- A property of the migration peer that its calls keep is kept by an operation. -/
theorem Effect.peer_kept {profile : Profile} {before after : ServerTables κ ρ}
    {operation : Operation} {property : TcpMigPeer → Prop}
    (effect : Effect profile before operation after)
    (kept : ∀ peer peer', PeerEffect profile before operation peer peer' →
      property peer → property peer') (holds : property before.tcpmig) : property after.tcpmig := by
  cases effect with
  | idle | opens | listens | connects | awaits | connected | drops | dangles | closes | moves | polls
  | shakes | completes => exact holds
  | binds port | setsPort port => exact kept _ _ (.setsPort _ port) holds
  | registers => exact kept _ _ (.registers _ _) holds
  | buffers buffered => exact kept _ _ (.buffers buffered) holds
  | accepts listening accepted =>
    obtain ⟨passive, ready, cb, found, front, -, -, -, -, rfl⟩ := accepted
    exact kept _ _ (.closes _ listening found front) holds
  | migrates received acts =>
    have still := kept _ _ (.receives received) holds
    cases acts with
    | failed | settled | completed | sentReject | heartbeat | rejected => exact still
    | returned _ initiates =>
      obtain ⟨connection, tcpmig, -, initiated, rfl⟩ := initiates
      exact kept _ _ (.initiates initiated) still
    | acked exports =>
      obtain ⟨localAddr, remote, connection, state, tcpmig, -, -, -, -, sends, rfl⟩ := exports
      exact kept _ _ (.sends sends) still
    | received imports =>
      obtain ⟨-, rfl⟩ | ⟨passive, ready, -, -, rfl⟩ := imports
      · exact still
      · exact still
  | initiatesByAddr _ initiates | initiatesByQd _ initiates =>
    obtain ⟨connection, tcpmig, -, initiated, rfl⟩ := initiates
    exact kept _ _ (.initiates initiated) holds
  | exports exported =>
    obtain ⟨localAddr, remote, connection, state, tcpmig, -, -, -, -, sends, rfl⟩ := exported
    exact kept _ _ (.sends sends) holds

/-! ## There are no other outcomes -/

/-- A passive socket starts a handshake, completes one, or ignores the segment. -/
theorem PassiveSocket.receive_cases {profile : Profile} {digest : UInt32}
    {passive passive' : PassiveSocket κ ρ} {ipHeader : Ipv4Header} {header : TcpHeader}
    {result : Except Fail Unit}
    (received : passive.receive profile digest ipHeader header = .ok (passive', result)) :
    passive'.localAddr = passive.localAddr ∧
    (passive'.ready = passive.ready ∨
      ∃ inflight cb, passive.opened ⟨ipHeader.srcAddr, header.srcPort⟩ inflight = .ok cb ∧
        passive.ready.pushOk cb = .ok passive'.ready) := by
  unfold receive at received
  dsimp only at received
  split at received
  · cases received
    exact ⟨rfl, .inl rfl⟩
  split at received
  · rename_i inflight _
    unfold receiveAck at received
    split at received
    · cases received
      exact ⟨rfl, .inl rfl⟩
    split at received
    · cases received
      exact ⟨rfl, .inl rfl⟩
    obtain ⟨cb, opened, received⟩ := bind_ok.mp received
    obtain ⟨ready, pushed, received⟩ := bind_ok.mp received
    cases received
    exact ⟨rfl, .inr ⟨inflight, cb, opened, pushed⟩⟩
  · unfold receiveSyn at received
    split at received
    · cases received
      exact ⟨rfl, .inl rfl⟩
    split at received
    · cases received
      exact ⟨rfl, .inl rfl⟩
    obtain ⟨⟨localIsn, isnGenerator⟩, -, received⟩ := bind_ok.mp received
    cases received
    exact ⟨rfl, .inl rfl⟩

namespace Inner

variable {profile : Profile} {inner inner' : Inner κ ρ}

/-- `do_socket` adds an inactive socket under a descriptor that was free, or changes nothing. -/
theorem doSocket_effect (qd : QDesc) :
    Effect profile inner.tables (.socket qd) (inner.doSocket qd).1.tables := by
  unfold doSocket
  split
  · rename_i free
    exact .opens free
  · exact .idle _

/-- `bind` gives an inactive socket an address, or leaves the sockets alone. -/
theorem bind_effect (qd : QDesc) (addr : SocketAddrV4) :
    Effect profile inner.tables (.bind qd addr) (inner.bind qd addr).1.tables := by
  unfold bind
  split
  · exact .idle _
  split
  · exact .idle _
  rename_i port ephemeralPorts _
  dsimp only
  split
  · rename_i bindable
    exact .binds port bindable
  all_goals
    dsimp only
    split <;> exact .setsPort port

/-- `listen` turns a bound socket into a listening one and adds its passive socket, or changes
nothing. -/
theorem listen_effect (qd : QDesc) (backlog : Nat) :
    Effect profile inner.tables (.listen qd backlog) (inner.listen qd backlog).1.tables := by
  unfold listen
  split
  · rename_i localAddr bound
    split
    · exact .idle _
    · rename_i free
      exact .listens bound free rfl rfl
  all_goals exact .idle _

/-- With an address chosen, `connect` adds an opening socket under the addresses of both ends.
-/
theorem connectFrom_effect {digest : UInt32} {qd : QDesc} {bound : Option SocketAddrV4}
    {localAddr remote : SocketAddrV4} {result : Except Fail Unit}
    (inactive : inner.sockets.lookup qd = some (.inactive bound))
    (connected : inner.connectFrom profile digest qd localAddr remote = .ok (inner', result)) :
    Effect profile inner.tables (.connect digest qd remote) inner'.tables := by
  obtain ⟨⟨localIsn, isnGenerator⟩, -, connected⟩ := bind_ok.mp connected
  dsimp only at connected
  split at connected <;> cases connected <;> exact .connects inactive

/-- `connect` has the same effect for a bound socket and for one that gets an ephemeral port,
and none where it fails. -/
theorem connect_effect {digest : UInt32} {qd : QDesc} {remote : SocketAddrV4}
    {result : Except Fail Unit}
    (connected : inner.connect profile digest qd remote = .ok (inner', result)) :
    Effect profile inner.tables (.connect digest qd remote) inner'.tables := by
  unfold connect at connected
  split at connected
  · rename_i inactive
    split at connected
    · cases connected
      exact .idle _
    · rename_i port ephemeralPorts _
      have further : Effect profile ({ inner with ephemeralPorts } : Inner κ ρ).tables
          (.connect digest qd remote) inner'.tables := connectFrom_effect inactive connected
      exact further
  · rename_i localAddr inactive
    exact connectFrom_effect inactive connected
  all_goals
    cases connected
    exact .idle _

/-- A connection that has been opened is moved to the established ones. Its descriptor is not
noted in `qds`. -/
theorem pollConnectFinished_effect {qd : QDesc} {waker : Waker}
    {result : Option (Except Fail Unit)}
    (polled : inner.pollConnectFinished qd waker = .ok (inner', result)) :
    Effect profile inner.tables (.connectFinished qd waker) inner'.tables := by
  unfold pollConnectFinished at polled
  split at polled
  · rename_i localAddr remote awaited
    dsimp only at polled
    split at polled
    · cases polled
      exact .idle _
    rename_i socket found
    split at polled
    · cases polled
      refine .awaits fun key absent => ?_
      rw [Table.lookup_insert_eq, if_neg]
      · exact absent
      · rintro rfl
        cases found.symm.trans absent
    · cases polled
      refine .awaits fun key absent => ?_
      rw [Table.lookup_erase_eq]
      split
      · rfl
      · exact absent
    · rename_i cb result
      split at polled
      · cases polled
      · rename_i free
        cases polled
        refine .connected awaited found ?_ free
        unfold ActiveOpenSocket.pollResult at result
        split at result
        · cases result
        · rename_i stored
          cases result
          exact stored
  all_goals
    cases polled
    exact .idle _

/-- A connection that is not opened in time keeps its entry, with the error as its result. -/
theorem connectTimeout_effect (key : Endpoints) :
    Effect profile inner.tables (.connectTimeout key) (inner.connectTimeout key).tables := by
  unfold connectTimeout
  split
  · exact .idle _
  · rename_i socket found
    refine .awaits fun other absent => ?_
    rw [Table.lookup_insert_eq, if_neg]
    · exact absent
    · rintro rfl
      cases found.symm.trans absent

/-- `do_close` removes the socket, and closes its connection if it has one. It leaves `qds`
alone. -/
theorem doClose_effect {env : Env} {qd : QDesc} {result : Except Fail Unit}
    (closed : inner.doClose profile env qd = .ok (inner', result)) :
    Effect profile inner.tables (.close env qd) inner'.tables := by
  unfold doClose at closed
  dsimp only at closed
  split at closed
  · rename_i localAddr remote established
    split at closed
    · rename_i connection held
      obtain ⟨cb, closes, closed⟩ := bind_ok.mp closed
      cases closed
      exact .closes established held closes
    · rename_i missing
      cases closed
      exact .dangles established missing
  · rename_i socket apart found
    cases closed
    refine .drops fun l r established => apart l r ?_
    exact Option.some.inj (found.symm.trans established)
  · rename_i absent
    cases closed
    refine .drops fun l r established => ?_
    cases absent.symm.trans established

/-! ## Segments and steps of connections -/

/-- What happens to one connection leaves the other ones alone. -/
theorem onConnection_effect {operation : Operation} {key : Endpoints} {action : Action}
    (stepped : inner.onConnection profile key action = .ok inner') :
    Effect profile inner.tables operation inner'.tables := by
  unfold onConnection at stepped
  split at stepped
  · cases stepped
    exact .idle _
  · rename_i connection held
    obtain ⟨connection', moved, stepped⟩ := bind_ok.mp stepped
    cases stepped
    exact .moves held moved

/-- The same for a call that names the socket of the connection. -/
theorem onSocket_effect {operation : Operation} {qd : QDesc} {action : Action}
    (stepped : inner.onSocket profile qd action = .ok inner') :
    Effect profile inner.tables operation inner'.tables := by
  unfold onSocket at stepped
  split at stepped
  · exact onConnection_effect stepped
  · cases stepped
    exact .idle _

omit [CongestionControl κ] [RtoCalculator ρ] in
/-- A RST that is sent changes no table. -/
theorem sendRst_tables (inner : Inner κ ρ) (env : Env) (localAddr remote : SocketAddrV4) :
    (inner.sendRst env localAddr remote).1.tables = inner.tables := by
  unfold sendRst
  split <;> rfl

/-- A segment goes to the connection, the opening or the listening socket that it belongs to, or
to the buffer of a migration, and changes that one only. -/
theorem receive_effect {env : Env} {digest : UInt32} {ipHdr : Ipv4Header} {tcpHdr : TcpHeader}
    {data : Buffer} {result : Except Fail Unit}
    (received : inner.receive profile env digest ipHdr tcpHdr data = .ok (inner', result)) :
    Effect profile inner.tables (.segment env digest ipHdr tcpHdr data) inner'.tables := by
  unfold receive at received
  dsimp only at received
  split at received
  · cases received
    exact .idle _
  split at received
  · rename_i connection held
    obtain ⟨cb, receives, received⟩ := bind_ok.mp received
    cases received
    have stepped : connection.step profile (.receive env tcpHdr data) = .ok { connection with cb } :=
      bind_ok.mpr ⟨cb, receives, rfl⟩
    exact .moves held stepped
  rename_i unclaimed
  split at received
  · rename_i socket found
    obtain ⟨⟨socket', sent⟩, -, received⟩ := bind_ok.mp received
    cases received
    refine .awaits fun other absent => ?_
    rw [Table.lookup_insert_eq, if_neg]
    · exact absent
    · rintro rfl
      cases found.symm.trans absent
  split at received
  · rename_i tcpmig buffered
    cases received
    exact .buffers buffered
  rename_i unbuffered
  have unrecorded : inner.tcpmig.activeMigrations.lookup ⟨ipHdr.srcAddr, tcpHdr.srcPort⟩ = none :=
    Option.map_eq_none_iff.mp unbuffered
  unfold receiveUnclaimed at received
  split at received
  · rename_i passive found
    obtain ⟨⟨passive', result'⟩, receives, received⟩ := bind_ok.mp received
    cases received
    obtain ⟨at_, same | ⟨inflight, cb, opened, pushed⟩⟩ := PassiveSocket.receive_cases receives
    · exact .shakes found same at_
    · exact .completes found unclaimed unrecorded opened pushed at_
  · have same := inner.sendRst_tables env ⟨ipHdr.destAddr, tcpHdr.dstPort⟩
      ⟨ipHdr.srcAddr, tcpHdr.srcPort⟩
    rw [Except.ok.inj received] at same
    rw [same]
    exact .idle _

/-! ## Accepting -/

omit [CongestionControl κ] [RtoCalculator ρ] in
/-- The front of the queue, or nothing to take. -/
theorem poll_cases {waker : Waker}
    {sockets sockets' : ReadySockets κ ρ} {polled : Option (Except Fail (ControlBlock κ ρ))}
    (polls : sockets.poll waker = .ok (sockets', polled)) :
    ((∀ cb, polled ≠ some (.ok cb)) ∧ sockets'.endpoints = sockets.endpoints ∧
      (sockets.ready = sockets'.ready ∨ ∃ fail, sockets.ready = .error fail :: sockets'.ready)) ∨
    ∃ cb ready, polled = some (.ok cb) ∧ sockets.ready = .ok cb :: ready ∧
      sockets' = { sockets with ready, endpoints := sockets.endpoints.erase cb.remote } := by
  unfold ReadySockets.poll at polls
  split at polls
  · cases polls
    exact .inl ⟨by simp, rfl, .inl (by simp)⟩
  · rename_i fail ready front
    cases polls
    exact .inl ⟨by simp, rfl, .inr ⟨fail, front⟩⟩
  · rename_i cb ready front
    split at polls
    · cases polls
      exact .inr ⟨cb, ready, rfl, front, rfl⟩
    · cases polls

omit [CongestionControl κ] [RtoCalculator ρ] in
/-- The insertions of an accept have met free places. -/
theorem acceptSocket_ok {newQd : QDesc} {localAddr remote : SocketAddrV4} {cb : ControlBlock κ ρ}
    (accepted : inner.acceptSocket newQd localAddr remote cb = .ok inner') :
    (∀ l r, inner.sockets.lookup newQd ≠ some (.established l r)) ∧
    inner.qds.lookup (localAddr, remote) = none ∧
    inner.established.lookup (localAddr, remote) = none ∧
    inner' = { inner with
      sockets := inner.sockets.insert newQd (.established localAddr remote)
      qds := inner.qds.insert (localAddr, remote) newQd
      established := inner.established.insert (localAddr, remote) ⟨cb, .top⟩ } := by
  unfold acceptSocket at accepted
  dsimp only at accepted
  split at accepted
  · cases accepted
  rename_i free
  split at accepted
  · cases accepted
  rename_i unknown
  split at accepted
  · cases accepted
  rename_i absent
  cases accepted
  refine ⟨?_, by simpa using unknown, by simpa using absent, rfl⟩
  intro l r established
  simp [occupied, established] at free

/-- `poll_accept` takes a connection off the queue of a listening socket, adds it to the
established ones with a new descriptor, and hands over what was buffered for it. -/
theorem pollAccept_effect {env : Env} {qd newQd : QDesc} {waker : Waker}
    {result : Option (Except Fail QDesc)}
    (polled : inner.pollAccept profile env qd newQd waker = .ok (inner', result)) :
    Effect profile inner.tables (.accept env qd newQd waker) inner'.tables := by
  unfold pollAccept at polled
  split at polled
  · rename_i localAddr listening
    split at polled
    · cases polled
    rename_i passive found
    obtain ⟨⟨ready, front⟩, polls, polled⟩ := bind_ok.mp polled
    obtain ⟨nothing, same, fewer⟩ | ⟨taken, behind, rfl, queue, rfl⟩ := poll_cases polls
    · dsimp only at polled
      split at polled
      · cases polled
        exact .polls found same fewer
      · cases polled
        exact .polls found same fewer
      · rename_i cb
        exact absurd rfl (nothing cb)
    · obtain ⟨cb, receives, polled⟩ := bind_ok.mp polled
      obtain ⟨counted, enables, polled⟩ := bind_ok.mp polled
      obtain ⟨after, accepted, polled⟩ := bind_ok.mp polled
      cases polled
      obtain ⟨apart, unknown, absent, rfl⟩ := acceptSocket_ok accepted
      have enabled : counted = { cb with statsEnabled := true } := by
        unfold ControlBlock.enableStats at enables
        split at enables
        · cases enables
        · exact (Except.ok.inj enables).symm
      subst enabled
      exact .accepts listening ⟨passive, behind, cb, found, queue, receives, apart, unknown, absent, rfl⟩
  all_goals
    cases polled
    exact .idle _

/-! ## Migration -/

omit [CongestionControl κ] [RtoCalculator ρ] in
/-- A migration is begun for an established connection, which stays in the tables. -/
theorem initiateMigration_initiates {conn : Endpoints} {qd : QDesc}
    (initiated : inner.initiateMigration profile conn qd = .ok inner') :
    Initiates profile conn qd inner.tables inner'.tables := by
  unfold initiateMigration at initiated
  split at initiated
  · cases initiated
  · rename_i connection held
    obtain ⟨tcpmig, started, initiated⟩ := bind_ok.mp initiated
    cases initiated
    exact ⟨connection, tcpmig, held, started, rfl⟩

omit [CongestionControl κ] [RtoCalculator ρ] in
/-- A connection that leaves is removed from all tables before its state is sent. -/
theorem migrateOutAndSend_exports {qd : QDesc}
    (migrated : inner.migrateOutAndSend profile qd = .ok inner') :
    Exports profile qd inner.tables inner'.tables := by
  obtain ⟨⟨out, state⟩, leaves, migrated⟩ := bind_ok.mp migrated
  obtain ⟨tcpmig, sends, migrated⟩ := bind_ok.mp migrated
  cases migrated
  unfold migrateOutConnection at leaves
  split at leaves
  · cases leaves
  · rename_i localAddr remote established
    dsimp only at leaves
    split at leaves
    · cases leaves
    rename_i qd' known
    split at leaves
    · cases leaves
    rename_i connection held
    obtain ⟨exported, exports, leaves⟩ := bind_ok.mp leaves
    cases leaves
    refine ⟨localAddr, remote, connection, exported, tcpmig, established, ?_, held, exports, sends, rfl⟩
    exact Option.isSome_of_eq_some known
  · cases leaves

/-- A connection that arrives is queued at the listening socket of its local address. -/
theorem migrateInConnection_imports {state : TcpState} {result : Except Fail Unit}
    (migrated : inner.migrateInConnection state = .ok (inner', result)) :
    Imports state inner.tables inner'.tables := by
  unfold migrateInConnection at migrated
  dsimp only at migrated
  split at migrated
  · rename_i deaf
    cases migrated
    exact .inl ⟨deaf, rfl⟩
  · rename_i passive found
    obtain ⟨passive', pushes, migrated⟩ := bind_ok.mp migrated
    obtain ⟨ready, pushed, pushes⟩ := bind_ok.mp pushes
    cases pushes
    cases migrated
    exact .inr ⟨passive, ready, found, pushed, rfl⟩

/-- What the migration peer reports of a message is carried out. -/
theorem act_acts {status : TcpmigReceiveStatus} {result : Except Fail Unit}
    (acted : inner.act profile status = .ok (inner', result)) :
    Acts profile inner.tables (.ok status) inner'.tables := by
  unfold act at acted
  split at acted
  · cases acted
    exact .settled
  · cases acted
    exact .completed
  · cases acted
    exact .sentReject
  · rename_i localAddr remote
    split at acted
    · cases acted
    rename_i connection held
    obtain ⟨cb, enables, acted⟩ := bind_ok.mp acted
    cases acted
    unfold ControlBlock.enableStats at enables
    split at enables
    · cases enables
    · rename_i uncounted
      cases enables
      exact .rejected held (Bool.eq_false_iff.mpr uncounted)
  · rename_i localAddr remote
    obtain ⟨started, initiates, acted⟩ := bind_ok.mp acted
    cases acted
    unfold initiateMigrationByAddr at initiates
    split at initiates
    · cases initiates
    · rename_i qd known
      exact .returned known (initiateMigration_initiates initiates)
  · rename_i qd
    obtain ⟨migrated, exports, acted⟩ := bind_ok.mp acted
    cases acted
    have exported : Exports profile qd ({ inner with migratedQd := some qd } : Inner κ ρ).tables
        inner'.tables := migrateOutAndSend_exports exports
    exact .acked exported
  · exact .received (migrateInConnection_imports acted)
  · cases acted
    exact .heartbeat _

/-- A message of a migration changes the tables only through what the migration peer reports of
it. -/
theorem receiveTcpmig_effect {ipHdr : Ipv4Header} {buf : Buffer} {result : Except Fail Unit}
    (received : inner.receiveTcpmig profile ipHdr buf = .ok (inner', result)) :
    Effect profile inner.tables (.message ipHdr buf) inner'.tables := by
  obtain ⟨⟨tcpmig, status⟩, receives, received⟩ := bind_ok.mp received
  cases status with
  | error fail =>
    cases received
    exact .migrates receives (.failed fail)
  | ok status =>
    have acts : Acts profile ({ inner with tcpmig } : Inner κ ρ).tables (.ok status) inner'.tables :=
      act_acts received
    exact .migrates receives acts

/-- A migration that the application asks for is begun for the connection of its socket. -/
theorem initiateMigrationByQd_effect {qd : QDesc} {result : Except Fail Unit}
    (initiated : inner.initiateMigrationByQd profile qd = .ok (inner', result)) :
    Effect profile inner.tables (.migrateByQd qd) inner'.tables := by
  unfold initiateMigrationByQd at initiated
  split at initiated
  · cases initiated
    exact .idle _
  · rename_i localAddr remote established
    obtain ⟨after, initiates, initiated⟩ := bind_ok.mp initiated
    cases initiated
    exact .initiatesByQd established (initiateMigration_initiates initiates)
  · cases initiated
    exact .idle _

/-- Everything that an operation can do to the tables. -/
theorem step_effect {operation : Operation} (stepped : inner.step profile operation = .ok inner') :
    Effect profile inner.tables operation inner'.tables := by
  cases operation with
  | socket qd =>
    cases stepped
    exact doSocket_effect qd
  | bind qd addr =>
    cases stepped
    exact bind_effect qd addr
  | listen qd backlog =>
    cases stepped
    exact listen_effect qd backlog
  | accept env qd newQd waker =>
    obtain ⟨⟨after, result⟩, polled, stepped⟩ := bind_ok.mp stepped
    cases stepped
    exact pollAccept_effect polled
  | connect digest qd remote =>
    obtain ⟨⟨after, result⟩, connected, stepped⟩ := bind_ok.mp stepped
    cases stepped
    exact connect_effect connected
  | connectFinished qd waker =>
    obtain ⟨⟨after, result⟩, polled, stepped⟩ := bind_ok.mp stepped
    cases stepped
    exact pollConnectFinished_effect polled
  | connectTimeout key =>
    cases stepped
    exact connectTimeout_effect key
  | close env qd =>
    obtain ⟨⟨after, result⟩, closed, stepped⟩ := bind_ok.mp stepped
    cases stepped
    exact doClose_effect closed
  | push env qd buf => exact onSocket_effect stepped
  | pop qd waker => exact onSocket_effect stepped
  | background key round => exact onConnection_effect stepped
  | segment env digest ipHdr tcpHdr data =>
    obtain ⟨⟨after, result⟩, received, stepped⟩ := bind_ok.mp stepped
    cases stepped
    exact receive_effect received
  | message ipHdr buf =>
    obtain ⟨⟨after, result⟩, received, stepped⟩ := bind_ok.mp stepped
    cases stepped
    exact receiveTcpmig_effect received
  | migrateByAddr conn =>
    change inner.initiateMigrationByAddr profile conn = .ok inner' at stepped
    unfold initiateMigrationByAddr at stepped
    split at stepped
    · cases stepped
    · rename_i qd known
      exact .initiatesByAddr known (initiateMigration_initiates stepped)
  | migrateByQd qd =>
    obtain ⟨⟨after, result⟩, initiated, stepped⟩ := bind_ok.mp stepped
    cases stepped
    exact initiateMigrationByQd_effect initiated
  | migrateOut qd => exact .exports (migrateOutAndSend_exports stepped)
  | registerState qd state =>
    change inner.registerApplicationState qd state = .ok inner' at stepped
    unfold registerApplicationState at stepped
    split at stepped
    · cases stepped
      exact .registers
    · cases stepped
  | fetchState qd decode =>
    obtain ⟨⟨after, result⟩, fetched, stepped⟩ := bind_ok.mp stepped
    cases stepped
    unfold getMigratedApplicationState at fetched
    split at fetched
    · rename_i localAddr remote established
      cases fetched
      split
      · exact .registers
      · exact .registers
    · cases fetched

end Inner

end Capybara
