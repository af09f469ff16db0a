import Capybara.Tcp.ConnectionTables
import Capybara.TcpMig.Locality

/-!
# No panic notices a disagreement

Where the tables of a server are consistent, an operation does not run into one of
the panics that stand for a disagreement: it finds what it looks up. Together with
the invariant this covers every run of regular operations. The two irregular ones
are shown to break the agreement.
-/

namespace Capybara

open Tables ServerTables

variable {κ ρ : Type} [CongestionControl κ] [RtoCalculator ρ]

/-! ## Handshakes -/

/-- Generating an initial sequence number has no fault of the tables. -/
theorem IsnGenerator.generate_local (profile : Profile) (digest : UInt32) (generator : IsnGenerator) :
    Avoids Fault.ofTables (generator.generate profile digest) :=
  .bind (.addU32 profile _ _ rfl) fun _ _ => .ok _

/-- A window that is shifted too far is no fault of the tables. -/
theorem checkedShlU16_local (value : UInt16) (shift : Nat) :
    Avoids Fault.ofTables (checkedShlU16 value shift) := by
  unfold checkedShlU16
  split
  · exact .ok _
  · exact .error rfl

/-- Nor is one of 32 bits. -/
theorem checkedShlU32_local (value shift : Nat) :
    Avoids Fault.ofTables (checkedShlU32 value shift) := by
  unfold checkedShlU32
  split
  · exact .ok _
  · exact .error rfl

omit [CongestionControl κ] [RtoCalculator ρ] in
/-- Queueing a connection has no fault of the tables. It may find the endpoint queued already,
which is a fault of the listening socket. -/
theorem ReadySockets.pushOk_local (sockets : ReadySockets κ ρ) (cb : ControlBlock κ ρ) :
    Avoids Fault.ofTables (sockets.pushOk cb) := by
  unfold ReadySockets.pushOk
  split
  · exact .error rfl
  · exact .ok _

omit [CongestionControl κ] [RtoCalculator ρ] in
/-- Taking a connection off the queue has no fault of the tables. -/
theorem ReadySockets.poll_local (sockets : ReadySockets κ ρ) (waker : Waker) :
    Avoids Fault.ofTables (sockets.poll waker) := by
  unfold ReadySockets.poll
  split
  · exact .ok _
  · exact .ok _
  split
  · exact .ok _
  · exact .error rfl

/-- A segment for a listening socket has no fault of the tables. -/
theorem PassiveSocket.receive_local (profile : Profile) (digest : UInt32)
    (passive : PassiveSocket κ ρ) (ipHeader : Ipv4Header) (header : TcpHeader) :
    Avoids Fault.ofTables (passive.receive profile digest ipHeader header) := by
  unfold PassiveSocket.receive
  dsimp only
  split
  · exact .ok _
  split
  · unfold receiveAck
    split
    · exact .ok _
    split
    · exact .ok _
    refine .bind ?_ fun cb _ => .bind (passive.ready.pushOk_local cb) fun _ _ => .ok _
    exact .bind (checkedShlU16_local _ _) fun _ _ => .bind (checkedShlU32_local _ _) fun _ _ => .ok _
  · unfold receiveSyn
    split
    · exact .ok _
    split
    · exact .ok _
    · exact .bind (IsnGenerator.generate_local profile digest _) fun _ _ => .ok _

/-- A segment for an opening socket has no fault of the tables. -/
theorem ActiveOpenSocket.receive_local (env : Env) (socket : ActiveOpenSocket κ ρ)
    (header : TcpHeader) : Avoids Fault.ofTables (socket.receive env header) := by
  unfold ActiveOpenSocket.receive
  split
  · exact .ok _
  split
  · exact .ok _
  split
  · exact .ok _
  split
  · exact .error rfl
  refine .bind ?_ fun _ _ => .ok _
  unfold ActiveOpenSocket.opened
  dsimp only
  split
  · exact .error rfl
  · exact .bind (checkedShlU16_local _ _) fun _ _ => .bind (checkedShlU16_local _ _) fun _ _ => .ok _

/-! ## Operations that look up one table -/

namespace Inner

variable (profile : Profile) (inner : Inner κ ρ)

omit [CongestionControl κ] [RtoCalculator ρ] in
/-- Opening a connection has no fault of the tables. -/
theorem connectFrom_local (digest : UInt32) (qd : QDesc) (localAddr remote : SocketAddrV4) :
    Avoids Fault.ofTables (inner.connectFrom profile digest qd localAddr remote) := by
  refine .bind (IsnGenerator.generate_local profile digest _) fun _ _ => ?_
  dsimp only
  split
  · exact .ok _
  · exact .ok _

omit [CongestionControl κ] [RtoCalculator ρ] in
/-- Nor has the choice of its address. -/
theorem connect_local (digest : UInt32) (qd : QDesc) (remote : SocketAddrV4) :
    Avoids Fault.ofTables (inner.connect profile digest qd remote) := by
  unfold connect
  split
  · split
    · exact .ok _
    · exact connectFrom_local profile _ digest qd _ remote
  · exact connectFrom_local profile _ digest qd _ remote
  all_goals exact .ok _

omit [CongestionControl κ] [RtoCalculator ρ] in
/-- Asking for an opened connection has no fault of the tables where each socket that is being
opened has its entry. -/
theorem pollConnectFinished_local (fd : QDesc) (waker : Waker) :
    Avoids Fault.ofTables (inner.pollConnectFinished fd waker) := by
  unfold pollConnectFinished
  split
  · dsimp only
    split
    · exact .ok _
    split
    · exact .ok _
    · exact .ok _
    split
    · exact .error rfl
    · exact .ok _
  · exact .ok _
  · exact .ok _

/-- A close has no fault of the tables where each connected socket has its connection. -/
theorem doClose_local (env : Env) (qd : QDesc) :
    Avoids Fault.ofTables (inner.doClose profile env qd) := by
  unfold doClose
  dsimp only
  split
  · split
    · rename_i connection held
      exact .bind (connection.cb.close_rests profile env).avoids fun _ _ => .ok _
    · exact .ok _
  · exact .ok _
  · exact .ok _

/-- Handing over buffered segments has no fault of the tables, by induction on their list. -/
theorem receiveAll_local (env : Env) (packets : List (TcpHeader × Buffer)) (cb : ControlBlock κ ρ) :
    Avoids Fault.ofTables (receiveAll profile env packets cb) := by
  induction packets generalizing cb with
  | nil => exact .ok _
  | cons packet packets inductionHypothesis =>
    obtain ⟨hdr, data⟩ := packet
    exact .bind (ControlBlock.receive_confines profile env cb hdr data).avoids fun after _ =>
      inductionHypothesis after

/-- A segment has no fault of the tables, wherever it goes. -/
theorem receive_local (env : Env) (digest : UInt32) (ipHdr : Ipv4Header) (tcpHdr : TcpHeader)
    (data : Buffer) :
    Avoids Fault.ofTables (inner.receive profile env digest ipHdr tcpHdr data) := by
  unfold receive
  dsimp only
  split
  · exact .ok _
  split
  · rename_i connection held
    exact .bind (ControlBlock.receive_confines profile env connection.cb tcpHdr data).avoids
      fun _ _ => .ok _
  split
  · rename_i socket found
    exact .bind (socket.receive_local env tcpHdr) fun _ _ => .ok _
  split
  · exact .ok _
  unfold receiveUnclaimed
  split
  · rename_i passive found
    exact .bind (passive.receive_local profile digest ipHdr tcpHdr) fun _ _ => .ok _
  · exact .ok _

/-- What happens to one connection has no fault of the tables. -/
theorem onConnection_local (key : Endpoints) (action : Action) :
    Avoids Fault.ofTables (inner.onConnection profile key action) := by
  unfold onConnection
  split
  · exact .ok _
  · rename_i connection held
    exact .bind (connection.step_confines profile action).avoids fun _ _ => .ok _

/-- Nor has a call that names its socket. -/
theorem onSocket_local (qd : QDesc) (action : Action) :
    Avoids Fault.ofTables (inner.onSocket profile qd action) := by
  unfold onSocket
  split
  · exact onConnection_local profile inner _ action
  · exact .ok _

omit [CongestionControl κ] [RtoCalculator ρ] in
/-- Beginning a migration has no fault of the tables. -/
theorem initiateMigration_local (conn : Endpoints) (qd : QDesc) :
    Avoids Fault.ofTables (inner.initiateMigration profile conn qd) := by
  unfold initiateMigration
  split
  · exact .error rfl
  · exact .bind (inner.tcpmig.initiateMigration_local profile conn qd) fun _ _ => .ok _

/-- A connection that arrives has no fault of the tables. -/
theorem migrateInConnection_local (state : TcpState) :
    Avoids Fault.ofTables (inner.migrateInConnection state) := by
  unfold migrateInConnection
  dsimp only
  split
  · exact .ok _
  · rename_i passive found
    exact .bind (.bind (passive.ready.pushOk_local _) fun _ _ => .ok _) fun _ _ => .ok _

/-! ## Operations that rely on the agreement -/

omit [CongestionControl κ] [RtoCalculator ρ] in
variable {inner} in
/-- A connection that is established has a descriptor. -/
theorem initiateMigrationByAddr_avoids {conn : Endpoints} (consistent : inner.tables.Consistent)
    (held : conn ∈ inner.established) :
    Avoids Fault.ofTables (inner.initiateMigrationByAddr profile conn) := by
  unfold initiateMigrationByAddr
  split
  · rename_i unknown
    have described := consistent.described conn held
    exact absurd described (AList.lookup_eq_none.mp unknown)
  · exact initiateMigration_local profile inner conn _

omit [CongestionControl κ] [RtoCalculator ρ] in
variable {inner} in
/-- An established socket has its entry in `qds` and its connection. -/
theorem migrateOutAndSend_avoids (consistent : inner.tables.Consistent) (qd : QDesc) :
    Avoids Fault.ofTables (inner.migrateOutAndSend profile qd) := by
  refine .bind ?_ fun migrated _ => .bind (TcpMigPeer.sendTcpState_local profile _ _) fun _ _ => .ok _
  unfold migrateOutConnection
  split
  · exact .error rfl
  · rename_i localAddr remote established
    obtain ⟨held, known⟩ := consistent.established qd localAddr remote established
    dsimp only
    split
    · rename_i unknown
      cases unknown.symm.trans known
    split
    · rename_i absent
      exact absurd held (AList.lookup_eq_none.mp absent)
    · exact .bind (ControlBlockState.ofControlBlock_local _) fun _ _ => .ok _
  · exact .error rfl

variable {inner} in
/-- A listening socket has its passive socket, and what waits there has no entry in `qds`. -/
theorem pollAccept_avoids (env : Env) (qd newQd : QDesc) (waker : Waker)
    (consistent : inner.tables.Consistent) :
    Avoids Fault.ofTables (inner.pollAccept profile env qd newQd waker) := by
  unfold pollAccept
  split
  · rename_i localAddr listening
    split
    · rename_i absent
      have present := consistent.listening qd localAddr listening
      exact absurd present (AList.lookup_eq_none.mp absent)
    rename_i passive found
    refine .bind (passive.ready.poll_local waker) fun result polls => ?_
    obtain ⟨ready, polled⟩ := result
    dsimp only
    split
    · exact .ok _
    · exact .ok _
    rename_i cb
    obtain ⟨nothing, -⟩ | ⟨taken, behind, same, queue, -⟩ := poll_cases polls
    · exact absurd rfl (nothing cb)
    cases same
    obtain ⟨registered, apart⟩ := consistent.queued localAddr passive found
    have waits : cb.remote ∈ passive.ready.remotes := by
      rw [(registered.pop queue).2]
      exact List.mem_cons_self
    have unknown : inner.qds.lookup (localAddr, cb.remote) = none := by
      rw [Option.eq_none_iff_forall_ne_some]
      intro known described
      obtain ⟨held, -⟩ := consistent.established known localAddr cb.remote
        (consistent.known localAddr cb.remote known described)
      exact apart cb.remote waits held
    refine .bind (receiveAll_local profile env _ cb) fun received _ => .bind ?_ fun counted _ =>
      .bind ?_ fun _ _ => .ok _
    · unfold ControlBlock.enableStats
      split
      · exact .error rfl
      · exact .ok _
    · unfold acceptSocket
      dsimp only
      split
      · exact .error rfl
      rw [unknown]
      split
      · rename_i impossible
        cases impossible
      split
      · exact .error rfl
      · exact .ok _
  · exact .ok _
  · exact .ok _

variable {inner} in
/-- A message that returns no connection that is not here meets no disagreement. -/
theorem receiveTcpmig_avoids {ipHdr : Ipv4Header} {buf : Buffer}
    (consistent : inner.tables.Consistent)
    (regular : Regular profile inner.tables (.message ipHdr buf)) :
    Avoids Fault.ofTables (inner.receiveTcpmig profile ipHdr buf) := by
  refine .bind (inner.tcpmig.receive_local profile ipHdr buf) fun result received => ?_
  obtain ⟨tcpmig, status⟩ := result
  have still : ({ inner with tcpmig } : Inner κ ρ).tables.Consistent := consistent.of_tcpmig tcpmig
  cases status with
  | error fail => exact .ok _
  | ok status =>
    cases status with
    | ok | migrationCompleted | sentReject | heartbeatResponse => exact .ok _
    | rejected localAddr remote =>
      unfold act
      dsimp only
      split
      · exact .error rfl
      · refine .bind ?_ fun _ _ => .ok _
        unfold ControlBlock.enableStats
        split
        · exact .error rfl
        · exact .ok _
    | returnedBySwitch localAddr remote =>
      refine .bind (initiateMigrationByAddr_avoids profile still ?_) fun _ _ => .ok _
      exact regular tcpmig _ received
    | prepareMigrationAcked qd =>
      have marked : ({ inner with tcpmig, migratedQd := some qd } : Inner κ ρ).tables.Consistent :=
        still
      exact .bind (migrateOutAndSend_avoids profile marked qd) fun _ _ => .ok _
    | stateReceived state => exact migrateInConnection_local _ state

variable {inner} in
/-- A regular operation on consistent tables finds what it looks up. -/
theorem step_avoids {operation : Operation} (consistent : inner.tables.Consistent)
    (regular : Regular profile inner.tables operation) :
    Avoids Fault.ofTables (inner.step profile operation) := by
  cases operation with
  | socket | bind | listen | connectTimeout => exact .ok _
  | accept env qd newQd waker =>
    exact .bind (pollAccept_avoids profile env qd newQd waker consistent) fun _ _ => .ok _
  | connect digest qd remote =>
    exact .bind (connect_local profile inner digest qd remote) fun _ _ => .ok _
  | connectFinished qd waker =>
    exact .bind (pollConnectFinished_local inner qd waker) fun _ _ => .ok _
  | close env qd => exact .bind (doClose_local profile inner env qd) fun _ _ => .ok _
  | push env qd buf => exact onSocket_local profile inner qd _
  | pop qd waker => exact onSocket_local profile inner qd _
  | background key round => exact onConnection_local profile inner key _
  | segment env digest ipHdr tcpHdr data =>
    exact .bind (receive_local profile inner env digest ipHdr tcpHdr data) fun _ _ => .ok _
  | message ipHdr buf =>
    exact .bind (receiveTcpmig_avoids profile consistent regular) fun _ _ => .ok _
  | migrateByAddr conn => exact initiateMigrationByAddr_avoids profile consistent regular
  | migrateByQd qd =>
    refine .bind ?_ fun _ _ => .ok _
    unfold initiateMigrationByQd
    split
    · exact .ok _
    · exact .bind (initiateMigration_local profile inner _ qd) fun _ _ => .ok _
    · exact .ok _
  | migrateOut qd => exact migrateOutAndSend_avoids profile consistent qd
  | registerState qd state =>
    change Avoids _ (inner.registerApplicationState qd state)
    unfold registerApplicationState
    split
    · exact .ok _
    · exact .error rfl
  | fetchState qd decode =>
    refine .bind ?_ fun _ _ => .ok _
    unfold getMigratedApplicationState
    split
    · exact .ok _
    · exact .error rfl

/-! ## Every run of regular operations -/

omit [CongestionControl κ] [RtoCalculator ρ] in
/-- Empty tables are consistent. -/
theorem new_consistent (ephemeralPorts : EphemeralPorts) (localLinkAddr : MacAddress)
    (localIpv4Addr : Ipv4Addr) (tcpConfig : TcpConfig) :
    (new ephemeralPorts localLinkAddr localIpv4Addr tcpConfig : Inner κ ρ).tables.Consistent := by
  constructor
  · constructor
    · intro qd localAddr remote found
      cases found
    · intro localAddr remote qd found
      cases found
  · intro qd localAddr found
    cases found
  · intro key member
    cases member
  · intro localAddr passive found
    cases found

/-- Connection tables agree. As long as no active opening completes, no established
socket is closed, no state is imported for a connection that is established and no
migration is started by address for one that is not, every established socket has
its connection and is the one that `qds` names, every entry of `qds` names an
established socket with that address pair, and the panics that stand for a
disagreement are not reached.

Proof: `Consistent` is kept by every effect that a regular operation can have on the
tables, and every operation has one of these effects. A panic that stands for a
disagreement would need an entry that `Consistent` excludes. -/
theorem tables_agree (ephemeralPorts : EphemeralPorts) (localLinkAddr : MacAddress)
    (localIpv4Addr : Ipv4Addr) (tcpConfig : TcpConfig) {past : List (Transition κ ρ)}
    {inner : Inner κ ρ}
    (run : Run profile (new ephemeralPorts localLinkAddr localIpv4Addr tcpConfig) past inner)
    (regular : Runs.Meets (fun source operation => Regular profile source.tables operation) past) :
    inner.tables.Agree ∧
    ∀ operation, Regular profile inner.tables operation →
      ∀ fault, inner.step profile operation = .error fault → fault.ofTables = false := by
  have consistent : inner.tables.Consistent := by
    refine Runs.state_invariant (fun inner => inner.tables.Consistent) ?_ ?_ run regular
    · exact new_consistent ephemeralPorts localLinkAddr localIpv4Addr tcpConfig
    · intro source operation target regular consistent stepped
      exact consistent.of_effect regular (step_effect stepped)
  exact ⟨consistent.toAgree, fun operation regular => step_avoids profile consistent regular⟩

/-- A client opens a connection to port 80 and the server accepts it as descriptor 2. -/
def acceptOperations : List Operation :=
  listenOperations 1 80 ++ handshakeOperations 80 ++ [.accept (.sample 0) 1 2 0]

/-- After an accept the descriptor leads to the connection and back. -/
theorem tables_agree_accepted :
    ∃ past inner, (sample 0x0a000001#32).execute .dev acceptOperations = .ok (past, inner) ∧
      inner.tables.Agree ∧
      inner.qds.lookup (⟨0x0a000001#32, 80⟩, ⟨0x0a000002#32, 4321⟩) = some 2 := by
  have reached : ∃ past inner,
      (sample 0x0a000001#32).execute .dev acceptOperations = .ok (past, inner) ∧
        inner.qds.lookup (⟨0x0a000001#32, 80⟩, ⟨0x0a000002#32, 4321⟩) = some 2 :=
    ⟨_, _, rfl, by decide⟩
  obtain ⟨past, inner, executed, described⟩ := reached
  refine ⟨past, inner, executed, ?_, described⟩
  refine (tables_agree .dev ⟨[50000, 50001]⟩ 3#48 0x0a000001#32 .sample
    (Runs.run_of_execute .nil executed) ?_).1
  refine Runs.meets_of_execute acceptOperations (Runs.meets_nil _) ?_ executed
  simp [acceptOperations, listenOperations, handshakeOperations, Regular]

/-- A connection that was opened actively is not in `qds`, and a migration that is
started for it by its address panics. -/
theorem opened_connection_undescribed :
    ∃ past inner, (sample 0x0a000001#32).execute .dev [
        .socket 1,
        .connect 7 1 ⟨0x0a000002#32, 80⟩,
        .segment (.sample 0) 0 ⟨0x0a000002#32, 0x0a000001#32⟩ { TcpHeader.new 80 50001 with
          syn := true, ack := true, seqNum := SeqNumber.ofU32 100, ackNum := SeqNumber.ofU32 8,
          windowSize := 1000 } [],
        .connectFinished 1 0] = .ok (past, inner) ∧
      ¬ inner.tables.Agree ∧
      inner.step .dev (.migrateByAddr (⟨0x0a000001#32, 50001⟩, ⟨0x0a000002#32, 80⟩)) =
        .error .noQdFoundForConnection := by
  refine ⟨_, _, rfl, ?_, rfl⟩
  intro agree
  have known := (agree.established 1 ⟨0x0a000001#32, 50001⟩ ⟨0x0a000002#32, 80⟩ (by decide)).2
  cases known

end Inner

end Capybara
