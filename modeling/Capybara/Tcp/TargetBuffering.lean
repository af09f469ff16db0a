import Capybara.Tcp.ConnectionTables
import Capybara.TcpMig.Receipts

/-!
# Segments that wait for their connection

Between the preparing message and the accept, the client already sends to the
target, which has no connection for it yet. Segments are kept in the record of the
migration. It is shown that such a segment does nothing else, that the record keeps
all of them in the order of arrival, whatever else happens to the server, and that
the accept feeds them to the connection that was rebuilt from the state.

The record is found by the client's address alone. So a connection of the same
client that waits to be accepted elsewhere on the target would take the record.
-/

namespace Capybara

open Tables ServerTables

variable {κ ρ : Type}

/-! ## The record of the client -/

/-- The client has a record that keeps its segments until the accept. -/
def TcpMigPeer.Waiting (client : SocketAddrV4) (queue : List (TcpHeader × Buffer))
    (peer : TcpMigPeer) : Prop :=
  ∃ record, peer.activeMigrations.lookup client = some record ∧ record.recvQueue = queue ∧
    (record.lastSentStage = .prepareMigrationAck ∨ record.lastSentStage = .connectionStateAck)

namespace TcpMigPeer

variable {profile : Profile} {client : SocketAddrV4} {queue : List (TcpHeader × Buffer)}
  {peer peer' : TcpMigPeer}

/-- Records of other clients do not matter. -/
theorem Waiting.of_other {other : SocketAddrV4} {record : Option ActiveMigration}
    {sent : List TcpMigSegment} (waiting : peer.Waiting client queue)
    (becomes : peer.Becomes peer' other record sent) (different : other ≠ client) :
    peer'.Waiting client queue := by
  obtain ⟨active, recorded, rest⟩ := waiting
  exact ⟨active, (becomes.other different.symm).trans recorded, rest⟩

/-- Only a preparing message can remove the record of a client that waits. -/
theorem Waiting.of_receipt {hdr : TcpMigHeader} {buf : Buffer} {record : Option ActiveMigration}
    {sent : List TcpMigSegment} {status : Except Fail TcpmigReceiveStatus}
    (waiting : peer.Waiting client queue)
    (other : ¬ (hdr.stage = .prepareMigration ∧ hdr.client = client))
    (receipt : Receipt profile peer hdr buf record sent status)
    (becomes : peer.Becomes peer' hdr.client record sent) : peer'.Waiting client queue := by
  by_cases same : hdr.client = client
  · subst same
    obtain ⟨active, recorded, kept, stage⟩ := waiting
    unfold Waiting
    rw [becomes.client]
    cases receipt with
    | heartbeat => exact ⟨active, recorded, kept, stage⟩
    | returned prepare => exact absurd ⟨prepare, rfl⟩ other
    | prepares prepare => exact absurd ⟨prepare, rfl⟩ other
    | refuses found =>
      cases recorded.symm.trans found
      exact ⟨active, rfl, kept, stage⟩
    | acked _ found preparing =>
      cases recorded.symm.trans found
      simp [preparing] at stage
    | rejected _ found preparing =>
      cases recorded.symm.trans found
      simp [preparing] at stage
    | gathers _ found =>
      cases recorded.symm.trans found
      exact ⟨_, rfl, kept, stage⟩
    | receives _ found =>
      cases recorded.symm.trans found
      exact ⟨_, rfl, kept, .inr rfl⟩
    | finished _ found exported =>
      cases recorded.symm.trans found
      simp [exported] at stage
    | ignores _ found =>
      cases recorded.symm.trans found
      exact ⟨active, rfl, kept, stage⟩
  · exact waiting.of_other becomes same

/-- A message that is not the preparation of this client leaves what waits for it. -/
theorem Waiting.of_receive {ipHdr : Ipv4Header} {buf : Buffer}
    {status : Except Fail TcpmigReceiveStatus} (waiting : peer.Waiting client queue)
    (other : ∀ hdr rest, TcpMigHeader.parse ipHdr buf = .ok (hdr, rest) →
      ¬ (hdr.stage = .prepareMigration ∧ hdr.client = client))
    (received : peer.receive profile ipHdr buf = .ok (peer', status)) :
    peer'.Waiting client queue := by
  unfold receive at received
  split at received
  · cases received
    exact waiting
  · rename_i hdr rest parsed
    obtain ⟨record, sent, receipt, becomes⟩ := receiveMessage_receipt received
    exact waiting.of_receipt (other hdr rest parsed) receipt becomes

/-- A migration cannot be started for a client that waits. -/
theorem Waiting.of_initiate {conn : SocketAddrV4 × SocketAddrV4} {qd : QDesc}
    (waiting : peer.Waiting client queue)
    (initiated : peer.initiateMigration profile conn qd = .ok peer') :
    peer'.Waiting client queue := by
  obtain ⟨unrecorded, sent, -, becomes⟩ := initiateMigration_ok initiated
  refine waiting.of_other becomes ?_
  rintro rfl
  obtain ⟨record, recorded, -⟩ := waiting
  cases unrecorded.symm.trans recorded

/-- No state is sent for a client that waits. -/
theorem Waiting.of_send {state : TcpState} (waiting : peer.Waiting client queue)
    (sends : peer.sendTcpState profile state = .ok peer') : peer'.Waiting client queue := by
  obtain ⟨active, bytes, sent, found, preparing, -, -, becomes⟩ := sendTcpState_ok sends
  refine waiting.of_other becomes ?_
  rintro rfl
  obtain ⟨record, recorded, -, stage⟩ := waiting
  cases recorded.symm.trans found
  simp [preparing] at stage

end TcpMigPeer

open TcpMigPeer

variable [CongestionControl κ] [RtoCalculator ρ]

/-! ## The segments and the accept -/

namespace Inner

/-- A segment from the client that no connection of this server claims. -/
def awaited (client : SocketAddrV4) (inner : Inner κ ρ) : Operation → Option (TcpHeader × Buffer)
  | .segment _ _ ipHdr tcpHdr data =>
    if (⟨ipHdr.srcAddr, tcpHdr.srcPort⟩ : SocketAddrV4) = client ∧
        invalidSource ipHdr.srcAddr = false ∧
        (inner.established.lookup (⟨ipHdr.destAddr, tcpHdr.dstPort⟩, client)).isNone ∧
        (inner.connecting.lookup (⟨ipHdr.destAddr, tcpHdr.dstPort⟩, client)).isNone
    then some (tcpHdr, data) else none
  | _ => none

/-- The segments that have arrived for the client, in order. -/
def arrivals (client : SocketAddrV4) : List (Transition κ ρ) → List (TcpHeader × Buffer)
  | [] => []
  | transition :: past =>
    arrivals client past ++ (awaited client transition.source transition.action).toList

/-- The connection that an accept would take, with its local address. -/
def front (inner : Inner κ ρ) (qd : QDesc) : Option (SocketAddrV4 × ControlBlock κ ρ) :=
  match inner.sockets.lookup qd with
  | some (.listening localAddr) =>
    match inner.passive.lookup localAddr with
    | some passive =>
      match passive.ready.ready with
      | .ok cb :: _ => some (localAddr, cb)
      | _ => none
    | none => none
  | _ => none

/-- The client still waits: no second preparing message arrives for it and none of its
connections is accepted. -/
def pending (client : SocketAddrV4) (inner : Inner κ ρ) : Operation → Bool
  | .message ipHdr buf =>
    match TcpMigHeader.parse ipHdr buf with
    | .ok (hdr, _) => !(hdr.stage == .prepareMigration && hdr.client == client)
    | .error _ => true
  | .accept _ qd _ _ => (inner.front qd).all fun (_, cb) => cb.remote != client
  | _ => true

/-- A step in which a state was imported. -/
def Imports (profile : Profile) (transition : Transition κ ρ) (state : TcpState) : Prop :=
  ∃ ipHdr buf tcpmig, transition.action = .message ipHdr buf ∧
    transition.source.tcpmig.receive profile ipHdr buf = .ok (tcpmig, .ok (.stateReceived state))

variable {profile : Profile} {client : SocketAddrV4} {queue : List (TcpHeader × Buffer)}
  {inner inner' : Inner κ ρ}

omit [CongestionControl κ] [RtoCalculator ρ] in
/-- The connection that an accept would take is the first one in the queue of its listening
socket. -/
theorem front_eq_some {qd : QDesc} {localAddr : SocketAddrV4} {cb : ControlBlock κ ρ} :
    inner.front qd = some (localAddr, cb) ↔
      inner.sockets.lookup qd = some (.listening localAddr) ∧
      ∃ passive ready, inner.passive.lookup localAddr = some passive ∧
        passive.ready.ready = .ok cb :: ready := by
  constructor
  · intro found
    unfold front at found
    split at found
    · rename_i other listening
      split at found
      · rename_i passive lookup
        split at found
        · rename_i taken ready queue
          cases found
          exact ⟨listening, passive, ready, lookup, queue⟩
        · cases found
      · cases found
    · cases found
  · rintro ⟨listening, passive, ready, lookup, queue⟩
    simp only [front, listening, lookup, queue]

omit [CongestionControl κ] [RtoCalculator ρ] in
/-- A segment that is awaited is one of the client that belongs to no connection yet. -/
theorem awaited_segment {env : Env} {digest : UInt32} {ipHdr : Ipv4Header} {tcpHdr : TcpHeader}
    {data : Buffer} {packet : TcpHeader × Buffer} :
    inner.awaited client (.segment env digest ipHdr tcpHdr data) = some packet ↔
      (⟨ipHdr.srcAddr, tcpHdr.srcPort⟩ : SocketAddrV4) = client ∧
      invalidSource ipHdr.srcAddr = false ∧
      inner.established.lookup (⟨ipHdr.destAddr, tcpHdr.dstPort⟩, client) = none ∧
      inner.connecting.lookup (⟨ipHdr.destAddr, tcpHdr.dstPort⟩, client) = none ∧
      packet = (tcpHdr, data) := by
  simp only [awaited, Option.ite_none_right_eq_some, Option.isNone_iff_eq_none, Option.some.injEq]
  constructor
  · rintro ⟨⟨same, valid, unestablished, unconnecting⟩, rfl⟩
    exact ⟨same, valid, unestablished, unconnecting, rfl⟩
  · rintro ⟨same, valid, unestablished, unconnecting, rfl⟩
    exact ⟨⟨same, valid, unestablished, unconnecting⟩, rfl⟩

/-- A segment that waits is appended to the record and does nothing else. -/
theorem step_awaited {operation : Operation} {packet : TcpHeader × Buffer}
    (awaits : inner.awaited client operation = some packet) {record : ActiveMigration}
    (recorded : inner.tcpmig.activeMigrations.lookup client = some record) :
    inner.step profile operation = .ok { inner with tcpmig := { inner.tcpmig with
      activeMigrations := inner.tcpmig.activeMigrations.insert client
        (record.bufferPacket packet.1 packet.2) } } := by
  cases operation with
  | segment env digest ipHdr tcpHdr data =>
    obtain ⟨rfl, valid, unestablished, unconnecting, rfl⟩ := awaited_segment.mp awaits
    simp only [step, receive, valid, unestablished, unconnecting, tryBufferPacket, recorded,
      Option.map_some, Bool.false_eq_true, if_false]
    rfl
  | _ => cases awaits

/-- The effects of other operations on the record of a client that waits. -/
theorem Waiting.of_effect {before after : ServerTables κ ρ} {operation : Operation}
    (waiting : before.tcpmig.Waiting client queue)
    (nosegment : ∀ env digest ipHdr tcpHdr data, operation ≠ .segment env digest ipHdr tcpHdr data)
    (unprepared : ∀ ipHdr buf, operation = .message ipHdr buf → ∀ hdr rest,
      TcpMigHeader.parse ipHdr buf = .ok (hdr, rest) →
        ¬ (hdr.stage = .prepareMigration ∧ hdr.client = client))
    (unaccepted : ∀ env qd newQd waker, operation = .accept env qd newQd waker →
      ∀ localAddr taken passive ready, before.sockets.lookup qd = some (.listening localAddr) →
        before.passive.lookup localAddr = some passive →
        passive.ready.ready = .ok taken :: ready → taken.remote ≠ client)
    (effect : Effect profile before operation after) : after.tcpmig.Waiting client queue := by
  refine effect.peer_kept ?_ waiting
  intro peer peer' step waiting
  cases step with
  | setsPort | registers => exact waiting
  | receives received => exact waiting.of_receive (unprepared _ _ rfl) received
  | initiates initiated => exact waiting.of_initiate initiated
  | sends sent => exact waiting.of_send sent
  | buffers => exact absurd rfl (nosegment _ _ _ _ _)
  | closes _ listening found front =>
    refine waiting.of_other (closeActiveMigration_becomes _ _) ?_
    exact unaccepted _ _ _ _ rfl _ _ _ _ listening found front

/-- A segment adds to the record what waits, and nothing else touches it. -/
theorem segment_waiting {env : Env} {digest : UInt32} {ipHdr : Ipv4Header} {tcpHdr : TcpHeader}
    {data : Buffer} {result : Except Fail Unit} (waiting : inner.tcpmig.Waiting client queue)
    (received : inner.receive profile env digest ipHdr tcpHdr data = .ok (inner', result))
    (unawaited : inner.awaited client (.segment env digest ipHdr tcpHdr data) = none) :
    inner'.tcpmig.Waiting client queue := by
  unfold receive at received
  dsimp only at received
  split at received
  · cases received
    exact waiting
  rename_i valid
  split at received
  · obtain ⟨cb, -, received⟩ := bind_ok.mp received
    cases received
    exact waiting
  rename_i unestablished
  split at received
  · obtain ⟨socket, -, received⟩ := bind_ok.mp received
    cases received
    exact waiting
  rename_i unconnecting
  split at received
  · rename_i tcpmig buffered
    cases received
    obtain ⟨active, recorded, becomes⟩ := tryBufferPacket_some buffered
    refine waiting.of_other becomes ?_
    rintro rfl
    have awaits : inner.awaited ⟨ipHdr.srcAddr, tcpHdr.srcPort⟩
        (.segment env digest ipHdr tcpHdr data) = some (tcpHdr, data) :=
      awaited_segment.mpr ⟨rfl, Bool.eq_false_iff.mpr valid, unestablished, unconnecting, rfl⟩
    cases unawaited.symm.trans awaits
  · unfold receiveUnclaimed at received
    split at received
    · obtain ⟨passive, -, received⟩ := bind_ok.mp received
      cases received
      exact waiting
    · have same := inner.sendRst_tables env ⟨ipHdr.destAddr, tcpHdr.dstPort⟩
        ⟨ipHdr.srcAddr, tcpHdr.srcPort⟩
      rw [Except.ok.inj received] at same
      have untouched : inner'.tcpmig = inner.tcpmig := congrArg ServerTables.tcpmig same
      rw [untouched]
      exact waiting

/-- The record keeps what waits, in the order of arrival, through every operation. -/
theorem step_waiting {operation : Operation} (waiting : inner.tcpmig.Waiting client queue)
    (pends : inner.pending client operation = true)
    (stepped : inner.step profile operation = .ok inner') :
    inner'.tcpmig.Waiting client (queue ++ (inner.awaited client operation).toList) := by
  cases awaits : inner.awaited client operation with
  | some packet =>
    obtain ⟨record, recorded, kept, stage⟩ := waiting
    cases stepped.symm.trans (step_awaited awaits recorded)
    refine ⟨_, AList.lookup_insert _, ?_, stage⟩
    rw [← kept]
    rfl
  | none =>
    rw [Option.toList_none, List.append_nil]
    by_cases segment : ∃ env digest ipHdr tcpHdr data,
        operation = .segment env digest ipHdr tcpHdr data
    · obtain ⟨env, digest, ipHdr, tcpHdr, data, rfl⟩ := segment
      obtain ⟨⟨after, result⟩, received, stepped⟩ := bind_ok.mp stepped
      cases stepped
      exact segment_waiting waiting received awaits
    · refine Waiting.of_effect waiting ?_ ?_ ?_ (step_effect stepped)
      · intro env digest ipHdr tcpHdr data same
        exact segment ⟨env, digest, ipHdr, tcpHdr, data, same⟩
      · rintro ipHdr buf rfl hdr rest parsed
        have different : ¬ hdr.stage = .prepareMigration ∨ ¬ hdr.client = client := by
          simpa [pending, parsed] using pends
        exact not_and_or.mpr different
      · rintro env qd newQd waker rfl localAddr taken passive ready listening found queue
        have takes := front_eq_some.mpr ⟨listening, passive, ready, found, queue⟩
        simpa [pending, takes] using pends

/-! ## The rebuilt connection waits untouched -/

/-- Every connection of the client that waits to be accepted was rebuilt from a state
that was imported in the past. -/
def Rebuilt (profile : Profile) (client : SocketAddrV4) (past : List (Transition κ ρ))
    (tables : ServerTables κ ρ) : Prop :=
  ∀ localAddr passive cb, tables.passive.lookup localAddr = some passive →
    .ok cb ∈ passive.ready.ready → cb.remote = client →
      ∃ transition ∈ past, ∃ state, Imports profile transition state ∧
        state.cb.localAddr = localAddr ∧ cb = .fromState transition.source.importer state.cb

variable {past : List (Transition κ ρ)}

/-- A passive socket changes, and every connection that waits there either did so
before or was rebuilt. -/
theorem Rebuilt.of_passive {before : ServerTables κ ρ} {localAddr : SocketAddrV4}
    {passive passive' : PassiveSocket κ ρ} (rebuilt : Rebuilt profile client past before)
    (found : before.passive.lookup localAddr = some passive)
    (known : ∀ cb, .ok cb ∈ passive'.ready.ready → .ok cb ∈ passive.ready.ready ∨ cb.remote ≠ client ∨
      ∃ transition ∈ past, ∃ state, Imports profile transition state ∧
        state.cb.localAddr = localAddr ∧ cb = .fromState transition.source.importer state.cb) :
    Rebuilt profile client past { before with
      passive := before.passive.insert localAddr passive' } := by
  intro other found' cb lookup waits remote
  dsimp only at lookup
  rw [Table.lookup_insert_eq] at lookup
  split at lookup
  · rename_i same
    cases lookup
    subst same
    obtain waited | different | imported := known cb waits
    · exact rebuilt other passive cb found waited remote
    · exact absurd remote different
    · exact imported
  · exact rebuilt other found' cb lookup waits remote

omit [CongestionControl κ] [RtoCalculator ρ] in
/-- A connection joins the queue at its end. -/
theorem mem_pushOk {sockets sockets' : ReadySockets κ ρ} {cb other : ControlBlock κ ρ}
    (pushed : sockets.pushOk cb = .ok sockets') (waits : .ok other ∈ sockets'.ready) :
    .ok other ∈ sockets.ready ∨ other = cb := by
  unfold ReadySockets.pushOk at pushed
  split at pushed
  · cases pushed
  cases pushed
  rw [List.mem_append, List.mem_singleton] at waits
  exact waits.imp id Except.ok.inj

/-- While the client has a record, its connections join the queues only by import. -/
theorem Rebuilt.of_effect {after : ServerTables κ ρ} {operation : Operation} {target : Inner κ ρ}
    (rebuilt : Rebuilt profile client past inner.tables)
    (recorded : inner.tcpmig.activeMigrations.lookup client ≠ none)
    (effect : Effect profile inner.tables operation after) :
    Rebuilt profile client (⟨inner, operation, target⟩ :: past) after := by
  have still : Rebuilt profile client (⟨inner, operation, target⟩ :: past) inner.tables := by
    intro localAddr passive cb lookup waits remote
    obtain ⟨transition, member, imported⟩ := rebuilt localAddr passive cb lookup waits remote
    exact ⟨transition, List.mem_cons_of_mem _ member, imported⟩
  cases effect with
  | idle | opens | connects | awaits | connected | drops | dangles | closes | moves | registers
  | binds | setsPort | buffers => exact still
  | listens bound free empty =>
    intro localAddr passive cb lookup waits remote
    dsimp only at lookup
    rw [Table.lookup_insert_eq] at lookup
    split at lookup
    · cases lookup
      rw [empty] at waits
      cases waits
    · exact still localAddr passive cb lookup waits remote
  | polls found same fewer =>
    refine still.of_passive found fun cb waits => .inl ?_
    obtain ready | ⟨fail, ready⟩ := fewer
    · rw [ready]
      exact waits
    · rw [ready]
      exact List.mem_cons_of_mem _ waits
  | accepts listening accepted =>
    obtain ⟨passive, ready, cb, found, front, -, -, -, -, rfl⟩ := accepted
    refine still.of_passive found fun other waits => .inl ?_
    rw [front]
    exact List.mem_cons_of_mem _ waits
  | shakes found same =>
    refine still.of_passive found fun cb waits => .inl ?_
    rw [← same]
    exact waits
  | completes found unclaimed unrecorded opened pushed =>
    refine still.of_passive found fun cb waits => ?_
    obtain waited | rfl := mem_pushOk pushed waits
    · exact .inl waited
    · refine .inr (.inl ?_)
      rw [(PassiveSocket.opened_remote opened).2]
      rintro rfl
      exact recorded unrecorded
  | migrates received acts =>
    cases acts with
    | failed | settled | completed | sentReject | heartbeat | rejected => exact still
    | returned _ initiates =>
      obtain ⟨connection, tcpmig, -, -, rfl⟩ := initiates
      exact still
    | acked exports =>
      obtain ⟨localAddr, remote, connection, state, tcpmig, -, -, -, -, -, rfl⟩ := exports
      exact still
    | received imports =>
      obtain ⟨-, rfl⟩ | ⟨passive, ready, found, pushed, rfl⟩ := imports
      · exact still
      · refine Rebuilt.of_passive still found fun cb waits => ?_
        obtain waited | rfl := mem_pushOk pushed waits
        · exact .inl waited
        · exact .inr (.inr ⟨_, List.mem_cons_self, _, ⟨_, _, _, rfl, received⟩, rfl, rfl⟩)
  | initiatesByAddr _ initiates =>
    obtain ⟨connection, tcpmig, -, -, rfl⟩ := initiates
    exact still
  | initiatesByQd _ initiates =>
    obtain ⟨connection, tcpmig, -, -, rfl⟩ := initiates
    exact still
  | exports exported =>
    obtain ⟨localAddr, remote, connection, state, tcpmig, -, -, -, -, -, rfl⟩ := exported
    exact still

/-! ## Accepting the rebuilt connection -/

/-- An accept that returns has taken the connection at the front. -/
theorem pollAccept_accepts {env : Env} {qd newQd : QDesc} {waker : Waker}
    {localAddr : SocketAddrV4} {taken : ControlBlock κ ρ} {result : Option (Except Fail QDesc)}
    (takes : inner.front qd = some (localAddr, taken))
    (polled : inner.pollAccept profile env qd newQd waker = .ok (inner', result)) :
    Accepts profile env newQd localAddr taken inner.tables inner'.tables := by
  obtain ⟨listening, passive, ready, found, front⟩ := front_eq_some.mp takes
  unfold pollAccept at polled
  simp only [listening, found] at polled
  obtain ⟨⟨ready', polled'⟩, polls, polled⟩ := bind_ok.mp polled
  obtain ⟨nothing, -, fewer⟩ | ⟨cb, behind, rfl, queue, rfl⟩ := poll_cases polls
  · unfold ReadySockets.poll at polls
    simp only [front] at polls
    split at polls
    · cases polls
      exact absurd rfl (nothing taken)
    · cases polls
  · cases front.symm.trans queue
    obtain ⟨cb, receives, polled⟩ := bind_ok.mp polled
    obtain ⟨counted, enables, polled⟩ := bind_ok.mp polled
    obtain ⟨after, accepted, polled⟩ := bind_ok.mp polled
    cases polled
    obtain ⟨apart, unknown, absent, rfl⟩ := acceptSocket_ok accepted
    have enabled : counted = { cb with statsEnabled := true } := by
      unfold ControlBlock.enableStats at enables
      split at enables
      · cases enables
      · exact (Except.ok.inj enables).symm
    subst enabled
    exact ⟨passive, ready, cb, found, front, receives, apart, unknown, absent, rfl⟩

/-- A segment for an established connection is received by it. -/
theorem receive_established (profile : Profile) (env : Env) (digest : UInt32) (data : Buffer)
    {ipHdr : Ipv4Header} {tcpHdr : TcpHeader} {connection : Connection κ ρ}
    (held : inner.established.lookup (⟨ipHdr.destAddr, tcpHdr.dstPort⟩,
      ⟨ipHdr.srcAddr, tcpHdr.srcPort⟩) = some connection)
    (valid : invalidSource ipHdr.srcAddr = false) :
    inner.receive profile env digest ipHdr tcpHdr data = (do
      let cb ← connection.cb.receive profile env tcpHdr data
      .ok ({ inner with
        established := inner.established.insert (⟨ipHdr.destAddr, tcpHdr.dstPort⟩,
          ⟨ipHdr.srcAddr, tcpHdr.srcPort⟩) { connection with cb } }, .ok ())) := by
  simp only [receive, valid, held, Bool.false_eq_true, if_false]

/-! ## From the preparing message to the accept -/

/-- The server has just made a record for the client of a preparing message. -/
structure Prepares (profile : Profile) (client : SocketAddrV4) (before after : Inner κ ρ) : Prop where
  step : ∃ ipHdr buf hdr rest, before.step profile (.message ipHdr buf) = .ok after ∧
    TcpMigHeader.parse ipHdr buf = .ok (hdr, rest) ∧ hdr.stage = .prepareMigration ∧
    hdr.client = client
  unrecorded : before.tcpmig.activeMigrations.lookup client = none

/-- The new record is empty, and the queues have not changed. -/
theorem Prepares.waiting (prepares : Prepares profile client inner inner') :
    inner'.tcpmig.Waiting client [] ∧ inner'.passive = inner.passive := by
  obtain ⟨⟨ipHdr, buf, hdr, rest, stepped, parsed, stage, rfl⟩, unrecorded⟩ := prepares
  obtain ⟨⟨after, result⟩, received, stepped⟩ := bind_ok.mp stepped
  cases stepped
  obtain ⟨⟨tcpmig, status⟩, receives, received⟩ := bind_ok.mp received
  unfold TcpMigPeer.receive at receives
  rw [parsed] at receives
  obtain ⟨record, sent, receipt, becomes⟩ := receiveMessage_receipt receives
  cases receipt with
  | prepares _ _ answered =>
    cases received
    exact ⟨⟨_, becomes.client, rfl, .inl rfl⟩, rfl⟩
  | heartbeat _ other => cases stage.symm.trans other
  | returned _ recorded => cases unrecorded.symm.trans recorded
  | refuses recorded => cases unrecorded.symm.trans recorded
  | acked _ recorded => cases unrecorded.symm.trans recorded
  | rejected _ recorded => cases unrecorded.symm.trans recorded
  | gathers _ recorded => cases unrecorded.symm.trans recorded
  | receives _ recorded => cases unrecorded.symm.trans recorded
  | finished _ recorded => cases unrecorded.symm.trans recorded
  | ignores _ recorded => cases unrecorded.symm.trans recorded

/-- Target-side buffering is equivalent to direct delivery, for a client that has no
other connection waiting to be accepted on the target. After the preparing message
and until an accept takes a connection of the client, every segment of the client
that no connection claims is appended to the record and does nothing else. The
accept takes a connection that was rebuilt from an imported state and has not been
touched since, and establishes what feeding it these segments, in the order of
arrival, makes of it; later segments go to the established connection.

Proof: two invariants hold until the accept. The record of the client keeps the segments
in their order, and a connection of the client that waits to be accepted is as it was
rebuilt. The accept takes both together, and afterwards a segment is looked up in the
table of established connections first. -/
theorem buffering_direct (profile : Profile) (client : SocketAddrV4) {before start : Inner κ ρ}
    (prepares : Prepares profile client before start)
    (alone : ∀ localAddr passive, before.passive.lookup localAddr = some passive →
      client ∉ passive.ready.remotes)
    {past : List (Transition κ ρ)} {inner : Inner κ ρ} (run : Run profile start past inner)
    (pends : Runs.Meets (fun source operation => source.pending client operation = true) past) :
    (∀ operation packet, inner.awaited client operation = some packet →
      ∃ record, inner.tcpmig.activeMigrations.lookup client = some record ∧
        record.recvQueue = arrivals client past ∧
        inner.step profile operation = .ok { inner with tcpmig := { inner.tcpmig with
          activeMigrations := inner.tcpmig.activeMigrations.insert client
            { record with recvQueue := record.recvQueue ++ [packet] } } }) ∧
    (∀ env qd newQd waker localAddr taken after, inner.front qd = some (localAddr, taken) →
      taken.remote = client → inner.step profile (.accept env qd newQd waker) = .ok after →
      (∃ transition ∈ past, ∃ state, Imports profile transition state ∧
        state.cb.localAddr = localAddr ∧ taken = .fromState transition.source.importer state.cb) ∧
      ∃ cb, receiveAll profile env (arrivals client past) taken = .ok cb ∧
        after.established.lookup (localAddr, client) = some ⟨{ cb with statsEnabled := true }, .top⟩ ∧
        after.tcpmig.activeMigrations.lookup client = none ∧
        ∀ env digest ipHdr tcpHdr data, ⟨ipHdr.destAddr, tcpHdr.dstPort⟩ = localAddr →
          ⟨ipHdr.srcAddr, tcpHdr.srcPort⟩ = client → invalidSource ipHdr.srcAddr = false →
          after.receive profile env digest ipHdr tcpHdr data = do
            let cb ← { cb with statsEnabled := true }.receive profile env tcpHdr data
            .ok ({ after with
              established := after.established.insert (localAddr, client) ⟨cb, .top⟩ }, .ok ())) := by
  obtain ⟨initially, queues⟩ := prepares.waiting
  have invariant : inner.tcpmig.Waiting client (arrivals client past) ∧
      Rebuilt profile client past inner.tables := by
    refine Runs.run_invariant (fun past inner => inner.tcpmig.Waiting client (arrivals client past) ∧
      Rebuilt profile client past inner.tables) ⟨initially, ?_⟩ ?_ run pends
    · intro localAddr passive cb lookup waits remote
      have member : client ∈ passive.ready.remotes :=
        List.mem_filterMap.mpr ⟨.ok cb, waits, congrArg some remote⟩
      change start.passive.lookup localAddr = _ at lookup
      rw [queues] at lookup
      exact absurd member (alone localAddr passive lookup)
    · rintro past source operation target - here ⟨waiting, rebuilt⟩ stepped
      refine ⟨step_waiting waiting here stepped, Rebuilt.of_effect rebuilt ?_ (step_effect stepped)⟩
      obtain ⟨record, recorded, -⟩ := waiting
      simp [recorded]
  obtain ⟨⟨record, recorded, kept, -⟩, rebuilt⟩ := invariant
  constructor
  · intro operation packet awaits
    exact ⟨record, recorded, kept, step_awaited awaits recorded⟩
  · rintro env qd newQd waker localAddr taken after takes rfl stepped
    obtain ⟨⟨after, result⟩, polled, stepped⟩ := bind_ok.mp stepped
    cases stepped
    obtain ⟨passive, ready, cb, found, front, receives, -, -, -, tables⟩ :=
      pollAccept_accepts takes polled
    have waits : .ok taken ∈ passive.ready.ready := by
      rw [front]
      exact List.mem_cons_self
    have established : after.established.lookup (localAddr, taken.remote) =
        some ⟨{ cb with statsEnabled := true }, .top⟩ := by
      rw [show after.established = _ from congrArg ServerTables.established tables]
      exact AList.lookup_insert _
    refine ⟨rebuilt localAddr passive taken found waits rfl, cb, ?_, established, ?_, ?_⟩
    · rw [← kept, ← receives, ServerTables.kept]
      change _ = receiveAll profile env
        (((inner.tcpmig.activeMigrations.lookup taken.remote).map ActiveMigration.recvQueue).getD []) _
      rw [recorded]
      rfl
    · rw [show after.tcpmig = _ from congrArg ServerTables.tcpmig tables]
      exact (closeActiveMigration_becomes _ _).client
    · intro env digest ipHdr tcpHdr data here there valid
      rw [← here, ← there] at established
      have routed := receive_established profile env digest data established valid
      rw [here, there] at routed
      exact routed

/-- The preparing message of the samples is one for the client of the samples. -/
theorem sample_prepares {before start : Inner NoCongestionControl IntegerRto}
    (stepped : before.step .dev (.fromOrigin .prepareMigration []) = .ok start)
    (unrecorded : (before.tcpmig.activeMigrations.lookup .sampleClient).isNone = true) :
    Prepares .dev .sampleClient before start := by
  refine ⟨⟨_, _, .new ⟨0x0a000003#32, 80⟩ .sampleClient 0 .prepareMigration 80 80, [], stepped, ?_,
    rfl, rfl⟩, Option.isNone_iff_eq_none.mp unrecorded⟩
  decide +kernel

/-- One segment arrives before the state and one behind it; the accept receives both. -/
theorem buffering_direct_accepted :
    ∃ (before start : Inner NoCongestionControl IntegerRto) (past : List (Transition _ _))
      (inner after : Inner NoCongestionControl IntegerRto),
      Prepares .dev .sampleClient before start ∧ Run .dev start past inner ∧
      arrivals .sampleClient past = [(.sampleData 80 103, [4, 5]), (.sampleData 80 107, [8])] ∧
      inner.step .dev (.accept (.sample 0) 1 2 0) = .ok after ∧
      ∃ taken cb, receiveAll .dev (.sample 0) (arrivals .sampleClient past) taken = .ok cb ∧
        after.established.lookup (⟨0x0a000001#32, 80⟩, .sampleClient) =
          some ⟨{ cb with statsEnabled := true }, .top⟩ := by
  have evaluated : ((sample 0x0a000001#32).execute .dev (listenOperations 1 80)).toOption.any
      (fun (_, before) => (before.tcpmig.activeMigrations.lookup .sampleClient).isNone &&
        (before.passive.entries.all fun entry => .sampleClient ∉ entry.2.ready.remotes) &&
        (before.step .dev (.fromOrigin .prepareMigration [])).toOption.any fun start =>
          (start.execute .dev [.fromClient 80 103 [4, 5],
            .fromOrigin .connectionState TcpState.sampleBytes,
            .fromClient 80 107 [8]]).toOption.any fun (past, inner) =>
            arrivals .sampleClient past =
              [(.sampleData 80 103, [4, 5]), (.sampleData 80 107, [8])] &&
            (past.all fun transition => transition.source.pending .sampleClient transition.action) &&
            (inner.front 1).any (fun (localAddr, cb) =>
              localAddr = ⟨0x0a000001#32, 80⟩ && cb.remote = .sampleClient) &&
            (inner.step .dev (.accept (.sample 0) 1 2 0)).toOption.isSome) = true := by
    decide +kernel
  obtain ⟨⟨_, before⟩, -, evaluated⟩ := any_ok evaluated
  simp only [Bool.and_eq_true] at evaluated
  obtain ⟨⟨unrecorded, alone⟩, evaluated⟩ := evaluated
  obtain ⟨start, stepped, evaluated⟩ := any_ok evaluated
  obtain ⟨⟨past, inner⟩, executed, evaluated⟩ := any_ok evaluated
  simp only [Bool.and_eq_true, List.all_eq_true, decide_eq_true_eq] at evaluated alone
  obtain ⟨⟨⟨arrived, pends⟩, takes⟩, accepts⟩ := evaluated
  obtain ⟨⟨localAddr, taken⟩, front, place⟩ := (Option.any_eq_true _ _).mp takes
  simp only [Bool.and_eq_true, decide_eq_true_eq] at place
  obtain ⟨rfl, remote⟩ := place
  obtain ⟨after, accepted⟩ : ∃ after, inner.step .dev (.accept (.sample 0) 1 2 0) = .ok after := by
    cases outcome : inner.step .dev (.accept (.sample 0) 1 2 0) with
    | error fault => simp [outcome, Except.toOption] at accepts
    | ok after => exact ⟨after, rfl⟩
  have prepares := sample_prepares stepped unrecorded
  have run := Runs.run_of_execute .nil executed
  obtain ⟨-, cb, received, established, -⟩ := (buffering_direct .dev .sampleClient prepares
    (fun localAddr passive lookup => alone _ (AList.mem_lookup_iff.mp lookup)) run pends).2
    _ _ _ _ _ taken after front remote accepted
  exact ⟨before, start, past, inner, after, prepares, run, arrived, accepted, taken, cb, received,
    established⟩

/-- The client has another connection, to port 81, that waits to be accepted. When it
is accepted before the migrated one, it takes the record: it is fed the segment that
was sent to port 80, and the next one goes to the passive socket. -/
theorem record_taken :
    ∃ (before start : Inner NoCongestionControl IntegerRto) (past : List (Transition _ _))
      (inner : Inner NoCongestionControl IntegerRto),
      Prepares .dev .sampleClient before start ∧
      start.execute .dev [.fromClient 80 103 [4, 5], .accept (.sample 0) 2 3 0] =
        .ok (past, inner) ∧
      arrivals .sampleClient past = [(.sampleData 80 103, [4, 5])] ∧
      ((inner.established.lookup (⟨0x0a000001#32, 81⟩, .sampleClient)).map fun connection =>
        connection.cb.receiver.recvQueue) = some [[4, 5]] ∧
      inner.tcpmig.activeMigrations.lookup .sampleClient = none ∧
      ((inner.receive .dev (.sample 0) 0 ⟨0x0a000002#32, 0x0a000001#32⟩ (.sampleData 80 105)
        [6]).map Prod.snd) = .ok (.error ⟨.EBADMSG, "invalid flags"⟩) := by
  have evaluated : ((sample 0x0a000001#32).execute .dev
      (listenOperations 1 80 ++ listenOperations 2 81 ++ handshakeOperations 81)).toOption.any
      (fun (_, before) => (before.tcpmig.activeMigrations.lookup .sampleClient).isNone &&
        (before.step .dev (.fromOrigin .prepareMigration [])).toOption.any fun start =>
          (start.execute .dev [.fromClient 80 103 [4, 5],
            .accept (.sample 0) 2 3 0]).toOption.any fun (past, inner) =>
            arrivals .sampleClient past = [(.sampleData 80 103, [4, 5])] &&
            ((inner.established.lookup (⟨0x0a000001#32, 81⟩, .sampleClient)).map fun connection =>
              connection.cb.receiver.recvQueue) = some [[4, 5]] &&
            (inner.tcpmig.activeMigrations.lookup .sampleClient).isNone &&
            ((inner.receive .dev (.sample 0) 0 ⟨0x0a000002#32, 0x0a000001#32⟩ (.sampleData 80 105)
              [6]).map Prod.snd) = .ok (.error ⟨.EBADMSG, "invalid flags"⟩)) = true := by
    decide +kernel
  obtain ⟨⟨_, before⟩, -, evaluated⟩ := any_ok evaluated
  simp only [Bool.and_eq_true] at evaluated
  obtain ⟨unrecorded, evaluated⟩ := evaluated
  obtain ⟨start, stepped, evaluated⟩ := any_ok evaluated
  obtain ⟨⟨past, inner⟩, executed, evaluated⟩ := any_ok evaluated
  simp only [Bool.and_eq_true, decide_eq_true_eq, Option.isNone_iff_eq_none] at evaluated
  obtain ⟨⟨⟨arrived, fed⟩, removed⟩, routed⟩ := evaluated
  exact ⟨before, start, past, inner, sample_prepares stepped unrecorded, executed, arrived, fed,
    removed, routed⟩

end Inner

end Capybara
